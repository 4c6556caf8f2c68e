import LiveTail.Json.Fault
import LiveTail.Text.Numeral
/-! What can be wrong with a frame. -/
namespace LiveTail

/-- How much of a frame a message quotes. -/
def previewLength : Nat := 200

/-- The beginning of a text, with an ellipsis if more follows. -/
def preview (text : String) : String :=
  let cs := text.toList
  if previewLength < cs.length then .ofList (cs.take previewLength ++ ['\u2026']) else text

/-- Why a frame is no message. -/
inductive ProtocolFault where
  | invalidJson (frame : String) (source : Json.Fault)
  | notAnObject
  | missingType
  | unknownType (kind : String)
  | malformed (kind : String) (source : Json.Fault)
  | unencodable (source : Json.Fault)
  deriving DecidableEq, Repr

namespace ProtocolFault

def message : ProtocolFault → String
  | .invalidJson frame source =>
    "frame is not valid JSON (" ++ source.message ++ "): '" ++ preview frame ++ "'"
  | .notAnObject => "frame is not a JSON object"
  | .missingType => "frame has no string 'type' field"
  | .unknownType kind => "unrecognised message type '" ++ kind ++ "'"
  | .malformed kind source => "malformed '" ++ kind ++ "' message: " ++ source.message
  | .unencodable source => "cannot encode envelope: " ++ source.message

/-- The messages of the faults behind this one. -/
def causes : ProtocolFault → List String
  | .invalidJson _ source | .malformed _ source | .unencodable source => [source.message]
  | _ => []

end ProtocolFault

end LiveTail
