import LiveTail.Log.Event
import LiveTail.Log.Offset
import LiveTail.Log.Severity
import LiveTail.Text.Blank
/-! Rows of the log table: log events made ready to be shown. -/
namespace LiveTail

/-- The content of the prefix column. -/
inductive Lead where
  | given (text : String)
  | missing
  deriving DecidableEq, Repr

/-- A missing prefix shows a placeholder. -/
def Lead.text : Lead → String
  | .given text => text
  | .missing => "[none]"

/-- One row of the table. `seq` is how many rows were added before it, counted without a bound as
they are by the table. -/
structure LogRow where
  seq : Nat
  offset : Int
  severity : Severity
  level : String
  lead : Lead
  message : String
  time : Instant
  fields : Entries String
  deriving DecidableEq, Repr

namespace LogRow

def isLineEnd (c : Char) : Bool := c = '\r' || c = '\n'

/-- The row of an event: its offset from the base time, and words for the parts it lacks. Line ends
at the end of the message are dropped. -/
def ofEvent (base : Instant) (seq : Nat) (e : LogEvent) : LogRow where
  seq := seq
  offset := offsetSeconds base e.time
  severity := (e.level.map Severity.ofLevel).getD .unknown
  level := e.level.getD "unknown"
  lead := match e.lead? with
    | some text => .given text
    | none => .missing
  message := match e.message with
    | some m => .ofList (Text.dropTail isLineEnd m.toList)
    | none => "(no message)"
  time := e.time
  fields := e.fields

/-- The text of the offset column. -/
def offsetLabel (r : LogRow) : String := "[" ++ .ofList (Text.signedNumeral r.offset) ++ "]"

end LogRow

end LiveTail
