import LiveTail.Toml.Reader
/-! The configuration as it is written: every value may be absent, and unknown keys are ignored. -/
namespace LiveTail

/-- The section on the connection. -/
structure ConnectionSection where
  pageUrl : Option String := none
  reconnect : Option Bool := none
  initialMs : Option Nat := none
  longestMs : Option Nat := none
  deriving DecidableEq, Repr

/-- The section on the window. -/
structure DisplaySection where
  maxRows : Option Nat := none
  theme : Option String := none
  fontSize : Option Binary := none
  deriving DecidableEq, Repr

/-- The section on the log of the program itself. -/
structure LoggingSection where
  level : Option String := none
  file : Option String := none
  deriving DecidableEq, Repr

structure RawConfig where
  connection : ConnectionSection := {}
  display : DisplaySection := {}
  logging : LoggingSection := {}
  deriving DecidableEq, Repr

namespace RawConfig

/-! A value of a wrong kind makes the whole document unreadable, so there is no answer then. -/

def readText? : Toml → Option String
  | .text s => some s
  | _ => none

def readFlag? : Toml → Option Bool
  | .boolean b => some b
  | _ => none

def readCount? : Toml → Option Nat
  | .integer n => if 0 ≤ n then some n.toNat else none
  | _ => none

/-- A number, narrowed to 32 bits. -/
def readSingle? : Toml → Option Binary
  | .integer n => some (.ofInt .single n)
  | .float x => some (x.convert .single)
  | _ => none

/-- Reads a value that may be absent. -/
def readOptional? {α : Type} (read : Toml → Option α) : Option Toml → Option (Option α)
  | none => some none
  | some v => (read v).map some

/-- The values of some keys. A section may also be an array of its values in order; more of them are
ignored. -/
def valuesOf? (keys : List String) : Option Toml → Option (List (Option Toml))
  | none => some (keys.map (fun _ => none))
  | some (.table _ entries) => some (keys.map (fun k => Entries.get? k entries))
  | some (.array items) | some (.tables items) => some (keys.zipIdx.map (fun k => items[k.2]?))
  | some _ => none

def readConnection? (part : Option Toml) : Option ConnectionSection := do
  match ← valuesOf? ["page_url", "reconnect", "reconnect_initial_ms", "reconnect_max_ms"]
    part with
  | [a, b, c, d] =>
    return ⟨← readOptional? readText? a, ← readOptional? readFlag? b,
      ← readOptional? readCount? c, ← readOptional? readCount? d⟩
  | _ => none

def readDisplay? (part : Option Toml) : Option DisplaySection := do
  match ← valuesOf? ["max_rows", "theme", "font_size"] part with
  | [a, b, c] =>
    return ⟨← readOptional? readCount? a, ← readOptional? readText? b,
      ← readOptional? readSingle? c⟩
  | _ => none

def readLogging? (part : Option Toml) : Option LoggingSection := do
  match ← valuesOf? ["level", "file"] part with
  | [a, b] => return ⟨← readOptional? readText? a, ← readOptional? readText? b⟩
  | _ => none

/-- The configuration of a document; none if the text or one of its values cannot be read. -/
def ofText? (text : String) : Option RawConfig := do
  let entries ← Toml.ofText? text
  return ⟨← readConnection? (entries.get? "connection"), ← readDisplay? (entries.get? "display"),
    ← readLogging? (entries.get? "logging")⟩

end RawConfig

end LiveTail
