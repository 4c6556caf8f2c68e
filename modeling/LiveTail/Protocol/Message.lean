import LiveTail.Json.Reader
import LiveTail.Log.Event
import LiveTail.Protocol.Fault
/-! The messages of the backend: JSON objects whose key `type` names the kind. -/
namespace LiveTail

/-- A message of the backend. -/
inductive Message where
  | clear
  | baseTime (time : Instant)
  | log (event : LogEvent)
  | serverError (text : String) (detail : Option String)
  deriving DecidableEq, Repr

namespace Message

/-- The value of a key that must be there. -/
def require (members : Entries Json) (key : String) : Except Json.ShapeFault Json :=
  match members.get? key with
  | some v => .ok v
  | none => .error (.missingField key)

/-- A text, or none if the key is absent or null. -/
def optionalText (members : Entries Json) (key : String) :
    Except Json.ShapeFault (Option String) :=
  match members.get? key with
  | none | some .null => .ok none
  | some (.text s) => .ok (some s)
  | some v => .error (.invalidType (.ofValue v) "a string")

/-- The time of a message that sets the base time. -/
def readBaseTime (members : Entries Json) : Except Json.ShapeFault Instant := do
  LogEvent.timeOfJson (← require members "basetime")

/-- The event of a message that reports one. -/
def readLog (members : Entries Json) : Except Json.ShapeFault LogEvent := do
  LogEvent.ofJson (← require members "log")

/-- Message and detail of an error. -/
def readError (members : Entries Json) : Except Json.ShapeFault (String × Option String) := do
  let detail ← optionalText members "error"
  let text ← optionalText members "message"
  return (text.getD "backend reported an error", detail)

/-- Names the kind of message in a fault of its content. -/
def malformed {α : Type} (kind : String) (r : Except Json.ShapeFault α) :
    Except ProtocolFault α :=
  r.mapError (fun f => .malformed kind f.toFault)

/-- The message of an object. -/
def ofMembers (members : Entries Json) : Except ProtocolFault Message :=
  match members.get? "type" with
  | some (.text kind) =>
    if kind = "clear" then .ok .clear
    else if kind = "basetime" then (malformed kind (readBaseTime members)).map baseTime
    else if kind = "log" then (malformed kind (readLog members)).map log
    else if kind = "error" then
      (malformed kind (readError members)).map (fun p => serverError p.1 p.2)
    else .error (.unknownType kind)
  | _ => .error .missingType

/-- The message of a frame. -/
def decode (frame : String) : Except ProtocolFault Message :=
  match Json.ofText frame with
  | .error f => .error (.invalidJson frame f)
  | .ok (.object members) => ofMembers members
  | .ok _ => .error .notAnObject

end Message

end LiveTail
