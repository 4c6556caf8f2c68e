import LiveTail.Files.System
import LiveTail.Journal.Filter
import LiveTail.Text.Literal
/-! The journal of the program: entries that a filter keeps, in a file or among the messages. -/
namespace LiveTail

/-- The part of the program that an entry comes from. -/
inductive JournalSource where
  | launch
  | journal
  | preferences
  deriving DecidableEq, Repr

def JournalSource.target : JournalSource → String
  | .launch => "weblog_tail"
  | .journal => "weblog_tail::util::logging"
  | .preferences => "weblog_tail::app::prefs"

/-- An entry of the journal. -/
structure JournalEntry where
  level : JournalLevel
  source : JournalSource
  text : String
  deriving DecidableEq, Repr

namespace JournalEntry

/-- A value named behind the text of an entry. -/
def field (name value : String) : String := " " ++ name ++ "=" ++ value

/-- A text named behind the text of an entry, in quotes. -/
def quotedField (name value : String) : String := field name (Text.literal value)

end JournalEntry

/-- What is printed: a text, or an entry of the journal. -/
inductive Printed where
  | text (text : String)
  | entry (entry : JournalEntry)
  deriving DecidableEq, Repr

namespace Printed

/-- A text as its lines. -/
def ofText (text : String) : List Printed :=
  (Text.lines text.toList).map (fun l => .text (.ofList l))

/-- An entry as its lines, of which the first one tells where it comes from. -/
def ofEntry (e : JournalEntry) : List Printed :=
  match Text.lines e.text.toList with
  | [] => [.entry e]
  | first :: r =>
    .entry { e with text := .ofList first } :: r.map (fun l => .text (.ofList l))

end Printed

/-- A journal: its filter, the file it is written to, the entries in that file, and what has been
printed. -/
structure Journal where
  filter : JournalFilter
  file : Option String := none
  written : List JournalEntry := []
  printed : List Printed := []
  deriving DecidableEq, Repr

namespace Journal

/-- Prints a text. -/
def print (j : Journal) (text : String) : Journal :=
  { j with printed := j.printed ++ Printed.ofText text }

/-- Writes an entry, if the filter keeps it. -/
def write (j : Journal) (level : JournalLevel) (source : JournalSource) (text : String) : Journal :=
  let e : JournalEntry := ⟨level, source, text⟩
  if !j.filter.keeps source.target level then j
  else if j.file.isSome then { j with written := j.written ++ [e] }
  else { j with printed := j.printed ++ Printed.ofEntry e }

end Journal

end LiveTail
