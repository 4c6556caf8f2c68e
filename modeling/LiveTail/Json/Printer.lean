import LiveTail.Json.Value
import LiveTail.Json.Quoted
import LiveTail.Number.Shortest
/-! The compact text of a JSON value. -/
namespace LiveTail

namespace JsonNumber

/-- A floating-point number has a point or an exponent: the digits stand in full from `1e-5` up to
below `1e16`. JSON has no text for NaN and the infinities. -/
def floatText : Binary → List Char
  | .finite s m e =>
    let digits :=
      if m = 0 then ['0', '.', '0']
      else
        let d := Shortest.decimal .double .even m e
        if -5 ≤ d.leading && d.leading < 16 then
          d.plain ++ (if 0 ≤ d.exponent then ['.', '0'] else [])
        else d.scientific
    if s then '-' :: digits else digits
  | _ => ['n', 'u', 'l', 'l']

def render : JsonNumber → List Char
  | .integer n => Text.signedNumeral n
  | .float x => floatText x

end JsonNumber

namespace Json

/-- A text in quotes. -/
def quote (s : String) : List Char := '"' :: Quoted.encode s.toList ++ ['"']

mutual

/-- The text of a value, without white space. -/
def render : Json → List Char
  | .null => ['n', 'u', 'l', 'l']
  | .boolean true => ['t', 'r', 'u', 'e']
  | .boolean false => ['f', 'a', 'l', 's', 'e']
  | .number n => n.render
  | .text s => quote s
  | .array items => '[' :: renderItems items
  | .object members => '\x7b' :: renderMembers members

/-- The items of an array and its closing bracket. -/
def renderItems : List Json → List Char
  | [] => [']']
  | [v] => render v ++ [']']
  | v :: w :: r => render v ++ ',' :: renderItems (w :: r)

/-- The members of an object and its closing brace. -/
def renderMembers : List (String × Json) → List Char
  | [] => ['\x7d']
  | [(k, v)] => quote k ++ ':' :: render v ++ ['\x7d']
  | (k, v) :: e :: r => quote k ++ ':' :: render v ++ ',' :: renderMembers (e :: r)

end

/-- The text of a value. -/
def toText (v : Json) : String := .ofList v.render

end Json

end LiveTail
