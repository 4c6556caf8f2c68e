import LiveTail.Json.Printer
import LiveTail.Text.Literal
/-! What can be wrong with a JSON text, or with a value that should have a certain shape, and the
wording of it. -/
namespace LiveTail.Json

/-- A text that is no JSON. -/
inductive SyntaxFault where
  | endInList
  | endInObject
  | endInString
  | endInValue
  | expectedColon
  | expectedListEnd
  | expectedObjectEnd
  | expectedLiteral
  | expectedValue
  | invalidEscape
  | invalidNumber
  | numberOutOfRange
  | controlCharacter
  | keyNotText
  | loneSurrogate
  | trailingComma
  | trailingCharacters
  | endedEscape
  | tooDeep
  deriving DecidableEq, Repr

/-- A value as it is named in a message. -/
inductive Found where
  | null
  | boolean (b : Bool)
  | number (n : JsonNumber)
  | text (s : String)
  | sequence
  | map
  deriving DecidableEq, Repr

/-- A value of another shape than the reader asks for. -/
inductive ShapeFault where
  | invalidType (found : Found) (expected : String)
  | invalidValue (found : Found) (expected : String)
  | invalidLength (length : Nat) (expected : String)
  | missingField (name : String)
  | duplicateField (name : String)
  | refused (reason : String)
  deriving DecidableEq, Repr

inductive Cause where
  | malformed (cause : SyntaxFault)
  | mismatched (cause : ShapeFault)
  deriving DecidableEq, Repr

/-- A line, from 1, and the bytes of it up to and with the one at fault. -/
structure Position where
  line : Nat
  column : Nat
  deriving DecidableEq, Repr

/-- A fault and where it was found, if it was found in a text. -/
structure Fault where
  cause : Cause
  position : Option Position
  deriving DecidableEq, Repr

def SyntaxFault.message : SyntaxFault → String
  | .endInList => "EOF while parsing a list"
  | .endInObject => "EOF while parsing an object"
  | .endInString => "EOF while parsing a string"
  | .endInValue => "EOF while parsing a value"
  | .expectedColon => "expected `:`"
  | .expectedListEnd => "expected `,` or `]`"
  | .expectedObjectEnd => "expected `,` or `\x7d`"
  | .expectedLiteral => "expected ident"
  | .expectedValue => "expected value"
  | .invalidEscape => "invalid escape"
  | .invalidNumber => "invalid number"
  | .numberOutOfRange => "number out of range"
  | .controlCharacter => "control character (\\u0000-\\u001F) found while parsing a string"
  | .keyNotText => "key must be a string"
  | .loneSurrogate => "lone leading surrogate in hex escape"
  | .trailingComma => "trailing comma"
  | .trailingCharacters => "trailing characters"
  | .endedEscape => "unexpected end of hex escape"
  | .tooDeep => "recursion limit exceeded"

def Found.ofValue : Json → Found
  | .null => .null
  | .boolean b => .boolean b
  | .number n => .number n
  | .text s => .text s
  | .array _ => .sequence
  | .object _ => .map

def Found.describe : Found → String
  | .null => "null"
  | .boolean b => "boolean `" ++ (if b then "true" else "false") ++ "`"
  | .number (.integer n) => "integer `" ++ .ofList (Text.signedNumeral n) ++ "`"
  | .number (.float x) => "floating point `" ++ .ofList (JsonNumber.floatText x) ++ "`"
  | .text s => "string " ++ Text.literal s
  | .sequence => "sequence"
  | .map => "map"

def ShapeFault.message : ShapeFault → String
  | .invalidType found expected =>
    "invalid type: " ++ found.describe ++ ", expected " ++ expected
  | .invalidValue found expected =>
    "invalid value: " ++ found.describe ++ ", expected " ++ expected
  | .invalidLength n expected =>
    "invalid length " ++ .ofList (Text.numeral n) ++ ", expected " ++ expected
  | .missingField name => "missing field `" ++ name ++ "`"
  | .duplicateField name => "duplicate field `" ++ name ++ "`"
  | .refused reason => reason

def Cause.message : Cause → String
  | .malformed c => c.message
  | .mismatched c => c.message

def Position.message (p : Position) : String :=
  " at line " ++ .ofList (Text.numeral p.line) ++ " column " ++ .ofList (Text.numeral p.column)

def Fault.message (f : Fault) : String :=
  f.cause.message ++ (f.position.map Position.message).getD ""

/-- A fault of a value that has no place in a text. -/
def ShapeFault.toFault (f : ShapeFault) : Fault := ⟨.mismatched f, none⟩

end LiveTail.Json
