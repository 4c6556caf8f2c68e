import LiveTail.Time.Reader
import LiveTail.Json.Fault
import LiveTail.Number.Word
/-! Instants in JSON: a number of milliseconds after the epoch, or a text. -/
namespace LiveTail.Instant

/-- Why a JSON value is no instant. -/
inductive WireFault where
  | intOutOfRange (ms : Int)
  | floatOutOfRange (ms : Binary)
  | notFinite
  | unreadable (text : String)
  | noForm
  deriving DecidableEq, Repr

def WireFault.message : WireFault → String
  | .intOutOfRange ms => "timestamp " ++ .ofList (Text.signedNumeral ms) ++ " ms is out of range"
  | .floatOutOfRange ms => "timestamp " ++ .ofList (ms.display .double) ++ " ms is out of range"
  | .notFinite => "timestamp is not a finite number"
  | .unreadable text => "unparseable timestamp '" ++ text ++ "'"
  | .noForm => "data did not match any variant of untagged enum RawTimestamp"

/-- An instant of floating-point milliseconds, rounded to whole ones with halves away from zero. -/
def ofFloat (ms : Binary) : Except WireFault Instant :=
  if ms.isFinite then
    match ofMillis? ms.roundAway with
    | some t => .ok t
    | none => .error (.floatOutOfRange ms)
  else .error .notFinite

/-- The instant of a JSON value. An integer beyond 63 bits is taken as a floating-point number. -/
def ofJson : Json → Except WireFault Instant
  | .number (.integer n) =>
    if n < (Word.count 63 : Int) then
      match ofMillis? n with
      | some t => .ok t
      | none => .error (.intOutOfRange n)
    else ofFloat (.ofInt .double n)
  | .number (.float x) => ofFloat x
  | .text s =>
    match ofText? s with
    | some t => .ok t
    | none => .error (.unreadable s)
  | _ => .error .noForm

end LiveTail.Instant
