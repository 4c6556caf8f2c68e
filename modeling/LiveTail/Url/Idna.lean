import LiveTail.Url.Idna.Label
import LiveTail.Url.Idna.Mapping
import LiveTail.Url.Punycode
/-! Domain names in ASCII: characters are mapped and normalised, labels are checked, and those that
hold more than ASCII are written in Punycode behind `xn--`. -/
namespace LiveTail.Idna

/-- ASCII characters that no name may hold. -/
def isForbidden (c : Char) : Bool :=
  c.toNat ≤ 0x20 || c.toNat = 0x7f ||
    ['#', '/', ':', '<', '>', '?', '@', '[', '\\', ']', '^', '|', '%'].contains c

def isAscii (c : Char) : Bool := c.toNat < 0x80

/-- A checked label: its characters, and how it is written. -/
structure Label where
  chars : List Char
  written : List Char

/-- The check that every label with characters beyond ASCII has to pass. -/
def wellFormed (label : List Char) : Bool := !startsWithMark label && joinersAllowed [] label

/-- Checks a label that is mapped and normalised. -/
def checkLabel? (label : List Char) : Option Label :=
  if label.any isForbidden then none
  else match label with
    | 'x' :: 'n' :: '-' :: '-' :: code =>
      if !code.all isAscii then none
      else match Punycode.decode? code with
        | none => none
        | some cs =>
          if cs.all isAscii || !cs.all isValid || cs.any isForbidden ||
              Text.Normal.normalize cs ≠ cs || !wellFormed cs then none
          else some ⟨cs, label⟩
    | label =>
      if label.all isAscii then some ⟨label, label⟩
      else if wellFormed label then
        (Punycode.encode? label).map (fun code => ⟨label, "xn--".toList ++ code⟩)
      else none

/-- Labels with points between them. -/
def join : List (List Char) → List Char
  | [] => []
  | [l] => l
  | l :: m :: r => l ++ '.' :: join (m :: r)

/-- The name in ASCII; none if a label is not allowed. -/
def toAscii? (name : List Char) : Option (List Char) := do
  let mapped ← name.mapM mapChar?
  let labels ← (Text.splitOn '.' (Text.Normal.normalize mapped.flatten)).mapM checkLabel?
  let turned := labels.any (fun l => l.chars.any turnsAround)
  if turned && !labels.all (fun l => directionAllowed l.chars) then none
  else some (join (labels.map Label.written))

end LiveTail.Idna
