import LiveTail.Number.Word
/-! Decimal and hexadecimal numerals of whole numbers. -/
namespace LiveTail.Text

/-- The decimal digits of `n`, without leading zeros. -/
def numeral (n : Nat) : List Char := Nat.toDigits 10 n

/-- The decimal digits of `n`, after a minus sign if it is negative. -/
def signedNumeral (n : Int) : List Char :=
  if n < 0 then '-' :: numeral n.natAbs else numeral n.natAbs

/-- Puts `c` in front up to a width of `w` characters. -/
def padStart (w : Nat) (c : Char) (cs : List Char) : List Char :=
  List.replicate (w - cs.length) c ++ cs

/-- Puts `c` behind up to a width of `w` characters. -/
def padEnd (w : Nat) (c : Char) (cs : List Char) : List Char :=
  cs ++ List.replicate (w - cs.length) c

/-- At least `w` decimal digits. -/
def fixedNumeral (w n : Nat) : List Char := padStart w '0' (numeral n)

def digitValue (c : Char) : Nat := c.toNat - '0'.toNat

/-- The number that a list of decimal digits stands for. -/
def digitsValue (cs : List Char) : Nat := cs.foldl (fun n c => n * 10 + digitValue c) 0

/-- The value of a hexadecimal digit. -/
def hexDigit? (c : Char) : Option Nat :=
  if c.isDigit then some (c.toNat - '0'.toNat)
  else if 'a' ≤ c && c ≤ 'f' then some (c.toNat - 'a'.toNat + 10)
  else if 'A' ≤ c && c ≤ 'F' then some (c.toNat - 'A'.toNat + 10)
  else none

/-- The hexadecimal digits of `n`, lower case and without leading zeros. -/
def hexNumeral (n : Nat) : List Char := Nat.toDigits 16 n

/-- The hexadecimal digits of `n`, upper case and at least `w` of them. -/
def upperHex (w n : Nat) : List Char := padStart w '0' ((Nat.toDigits 16 n).map Char.toUpper)

/-- Reads a signed 64-bit number: an optional sign and at least one digit. -/
def readInt64? (cs : List Char) : Option Int :=
  let (negative, digits) := match cs with
    | '+' :: r => (false, r)
    | '-' :: r => (true, r)
    | r => (false, r)
  if digits.isEmpty || !digits.all Char.isDigit then none
  else
    let n : Int := digitsValue digits
    let n := if negative then -n else n
    if Word.holdsSigned n then some n else none

end LiveTail.Text
