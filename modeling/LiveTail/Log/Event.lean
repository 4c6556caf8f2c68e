import LiveTail.Json.Record
import LiveTail.Time.Wire
/-! Structured log events and how JSON holds them. Level, message and field values that are no
texts are kept as their JSON text. -/
namespace LiveTail

/-- A log event as the backend reports it. -/
structure LogEvent where
  time : Instant
  level : Option String
  message : Option String
  fields : Entries String
  deriving DecidableEq, Repr

namespace LogEvent

/-- The field that the prefix column shows. -/
def lead? (e : LogEvent) : Option String := Entries.get? "prefix" e.fields

/-- The text that a value is kept as; null stands for none. -/
def valueText : Json → Option String
  | .null => none
  | .text s => some s
  | v => some v.toText

/-- The members that have a text. -/
def fieldTexts (members : List (String × Json)) : Entries String :=
  members.filterMap (fun m => (valueText m.2).map (m.1, ·))

/-- Fields are an object or null. -/
def fieldsOfJson : Json → Except Json.ShapeFault (Entries String)
  | .null => .ok []
  | .object members => .ok (fieldTexts members)
  | v => .error (.invalidType (.ofValue v) "a map")

def timeOfJson (v : Json) : Except Json.ShapeFault Instant :=
  (Instant.ofJson v).mapError (fun f => .refused f.message)

/-- The event of an object. Its keys come in ascending order, so faulty fields are noted before a
faulty time. -/
def ofObject (members : Entries Json) : Except Json.ShapeFault LogEvent := do
  let fields ← match members.get? "fields" with
    | some v => fieldsOfJson v
    | none => pure []
  let level := (members.get? "level").bind valueText
  let message := (members.get? "message").bind valueText
  match members.get? "time" with
  | some v => return ⟨← timeOfJson v, level, message, fields⟩
  | none => throw (.missingField "time")

/-- The event of an array that gives the parts in order; those after the time may be left out. -/
def ofArray : List Json → Except Json.ShapeFault LogEvent
  | [] => .error (.invalidLength 0 "struct LogEvent with 4 elements")
  | v :: r => do
    let time ← timeOfJson v
    let level := r[0]?.bind valueText
    let message := r[1]?.bind valueText
    let fields ← match r[2]? with
      | some v => fieldsOfJson v
      | none => pure []
    if 3 < r.length then throw (.invalidLength (r.length + 1) "fewer elements in array")
    return ⟨time, level, message, fields⟩

/-- The event that a JSON value holds. -/
def ofJson : Json → Except Json.ShapeFault LogEvent
  | .object members => ofObject members
  | .array items => ofArray items
  | v => .error (.invalidType (.ofValue v) "struct LogEvent")

/-! ### Events as JSON text -/

/-- The parts of an event that have been read. -/
structure Draft where
  time : Option Instant := none
  level : Option String := none
  message : Option String := none
  fields : Entries String := []

def readTime (depth : Nat) (cs : List Char) :
    Except Json.Stop ((Draft → Draft) × List Char) := do
  let (v, r) ← Json.readNested depth cs
  match timeOfJson v with
  | .ok t => return (fun d => { d with time := some t }, r)
  | .error f => throw (.unplaced f r)

def readLevel (depth : Nat) (cs : List Char) :
    Except Json.Stop ((Draft → Draft) × List Char) := do
  let (v, r) ← Json.readNested depth cs
  return (fun d => { d with level := valueText v }, r)

def readMessage (depth : Nat) (cs : List Char) :
    Except Json.Stop ((Draft → Draft) × List Char) := do
  let (v, r) ← Json.readNested depth cs
  return (fun d => { d with message := valueText v }, r)

def readFields (depth : Nat) (cs : List Char) :
    Except Json.Stop ((Draft → Draft) × List Char) := do
  match Json.skipSpace cs with
  | '\x7b' :: r =>
    let (v, r) ← Json.readNested depth ('\x7b' :: r)
    match v with
    | .object members => return (fun d => { d with fields := fieldTexts members }, r)
    | _ => return (id, r)
  | 'n' :: r => return (id, ← Json.readLiteral ['u', 'l', 'l'] r)
  | r => Json.readMismatch "a map" r

def schema : Json.Schema Draft where
  name := "LogEvent"
  fields := [⟨"time", true, readTime⟩, ⟨"level", false, readLevel⟩,
    ⟨"message", false, readMessage⟩, ⟨"fields", false, readFields⟩]

def ofDraft (d : Draft) : LogEvent := ⟨d.time.getD .epoch, d.level, d.message, d.fields⟩

/-- The event of a JSON text. Here a field may not be given twice. -/
def ofText (text : String) : Except Json.Fault LogEvent :=
  (schema.ofText {} text).map ofDraft

end LogEvent

end LiveTail
