import LiveTail.Text.Fold
import LiveTail.Text.Lines
import LiveTail.Text.Numeral
/-! Filters of the journal: which entries are kept, by their level and where they come from. -/
namespace LiveTail

/-- Levels of entries, the most serious first. -/
inductive JournalLevel where
  | error
  | warn
  | info
  | debug
  | trace
  deriving DecidableEq, Repr

namespace JournalLevel

def all : List JournalLevel := [.error, .warn, .info, .debug, .trace]

/-- Levels count from 1. -/
def rank : JournalLevel → Nat
  | .error => 1
  | .warn => 2
  | .info => 3
  | .debug => 4
  | .trace => 5

/-- The name in filters. -/
def name : JournalLevel → String
  | .error => "error"
  | .warn => "warn"
  | .info => "info"
  | .debug => "debug"
  | .trace => "trace"

/-- The name in entries. -/
def label : JournalLevel → String
  | .error => "ERROR"
  | .warn => "WARN"
  | .info => "INFO"
  | .debug => "DEBUG"
  | .trace => "TRACE"

end JournalLevel

/-- What is kept from the targets whose names start in some way: entries up to a rank. -/
structure Directive where
  target : List Char
  rank : Nat
  deriving DecidableEq, Repr

/-- A filter is a list of directives. -/
abbrev JournalFilter := List Directive

namespace JournalFilter

/-- The rank that a level names: its name in any case, its number, or that of no level at all. -/
def rankOf? (text : List Char) : Option Nat :=
  let name := String.ofList text
  if Text.isNamed name "off" then some 0
  else
    match JournalLevel.all.find? (fun l => Text.isNamed name l.name) with
    | some l => some l.rank
    | none =>
      if !text.isEmpty && text.all Char.isDigit && Text.digitsValue text ≤ 5 then
        some (Text.digitsValue text)
      else none

/-- A directive is a level for all targets, a target for all levels, or a level for a target. -/
def directive? (text : List Char) : Option Directive :=
  match rankOf? text with
  | some rank => some ⟨[], rank⟩
  | none =>
    match Text.cut '=' text with
    | (target, none) => some ⟨target, JournalLevel.trace.rank⟩
    | (target, some level) => (rankOf? level).map (fun rank => ⟨target, rank⟩)

/-- The directives of a text, which are separated by commas. A filter without any keeps errors. -/
def ofText (text : String) : JournalFilter :=
  let parts := (Text.splitOn ',' text.toList).filter (fun p => !p.isEmpty)
  match parts.filterMap directive? with
  | [] => [⟨[], JournalLevel.error.rank⟩]
  | l => l

/-- The directive that decides on a target: the last of those with the longest name. -/
def deciding? (f : JournalFilter) (target : List Char) : Option Directive :=
  (f.filter (fun d => d.target.isPrefixOf target)).foldl (fun best d =>
    match best with
    | some b => if b.target.length ≤ d.target.length then some d else some b
    | none => some d) none

/-- Whether an entry is kept. -/
def keeps (f : JournalFilter) (target : String) (level : JournalLevel) : Bool :=
  match f.deciding? target.toList with
  | some d => level.rank ≤ d.rank
  | none => false

end JournalFilter

end LiveTail
