import LiveTail.Entries
import LiveTail.Number.Binary
/-! JSON values. Objects have their members in ascending order of the keys, one for each key. -/
namespace LiveTail

/-- A JSON number: an integer from `-2 ^ 63` to `2 ^ 64 - 1`, or a 64-bit floating-point number. -/
inductive JsonNumber where
  | integer (n : Int)
  | float (x : Binary)
  deriving DecidableEq, Repr, Inhabited

/-- A JSON value. -/
inductive Json where
  | null
  | boolean (b : Bool)
  | number (n : JsonNumber)
  | text (s : String)
  | array (items : List Json)
  | object (members : List (String × Json))
  deriving Repr, Inhabited

namespace Json

def integer (n : Int) : Json := .number (.integer n)

/-- A text, or null for none. -/
def ofText? : Option String → Json
  | some s => .text s
  | none => .null

/-- The object of some members, whatever their order; the last of equal keys counts. -/
def ofMembers (members : List (String × Json)) : Json := .object (Entries.ofList members)

/-- The value of a key of an object. -/
def get? (key : String) : Json → Option Json
  | .object members => Entries.get? key members
  | _ => none

end Json

end LiveTail
