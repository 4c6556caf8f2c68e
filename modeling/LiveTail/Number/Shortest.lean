import LiveTail.Number.Binary
import LiveTail.Text.Numeral
/-! The fewest decimal digits that read back as the same floating-point number, and the two layouts
in which such digits are written. -/
namespace LiveTail

/-- A decimal number `digits * 10 ^ exponent`. -/
structure Decimal where
  digits : Nat
  exponent : Int
  deriving DecidableEq, Repr, Inhabited

/-- Which of two equally near decimals is taken. -/
inductive DecimalTie where
  | up
  | even
  deriving DecidableEq, Repr

namespace Shortest

/-- The numbers that round to one value: from `low` to `high` in units of a quarter of the last
place, with the value at `middle`; the ends belong to it if `closed`. -/
structure Interval where
  low : Nat
  middle : Nat
  high : Nat
  exponent : Int
  closed : Bool

/-- The interval of a positive finite number. Right above a power of two the lower neighbour is
half as far away as the upper one. -/
def Interval.ofFinite (f : BinaryFormat) (m : Nat) (e : Int) : Interval :=
  let low := if m = Nat.pow 2 (f.precision - 1) && f.minExponent < e then 4 * m - 1 else 4 * m - 2
  ⟨low, 4 * m, 4 * m + 2, e - 2, m % 2 = 0⟩

/-- The multiple of `10 ^ k` in the interval that is nearest to its middle. -/
def Interval.multiple? (i : Interval) (tie : DecimalTie) (k : Int) : Option Nat :=
  let unit := Quotient.ofScaled 1 i.exponent
  let step := Quotient.ofDecimal 1 k
  let s := unit.num * step.den
  let t := unit.den * step.num
  let inside (c : Nat) : Bool :=
    if i.closed then i.low * s ≤ c * t && c * t ≤ i.high * s
    else i.low * s < c * t && c * t < i.high * s
  let below := i.middle * s / t
  let above := below + 1
  match inside below, inside above with
  | false, false => none
  | true, false => some below
  | false, true => some above
  | true, true =>
    let down := i.middle * s - below * t
    let up := above * t - i.middle * s
    if down < up then some below
    else if up < down then some above
    else match tie with
      | .up => some above
      | .even => some (if below % 2 = 0 then below else above)

/-- The coarsest of the grids `10 ^ k`, `10 ^ (k - 1)`, … with a point in the interval. -/
def Interval.search (i : Interval) (tie : DecimalTie) : Nat → Int → Decimal
  | 0, k => ⟨0, k⟩
  | n + 1, k =>
    match i.multiple? tie k with
    | some c => ⟨c, k⟩
    | none => i.search tie n (k - 1)

/-- An exponent of ten above the interval. -/
def Interval.topExponent (i : Interval) : Int :=
  ((i.high.log2 : Int) + 1 + i.exponent) * 30103 / 100000 + 2

/-- The shortest decimal that reads back as a positive finite number, the nearest of several. -/
def decimal (f : BinaryFormat) (tie : DecimalTie) (m : Nat) (e : Int) : Decimal :=
  let i := Interval.ofFinite f m e
  i.search tie 40 i.topExponent

end Shortest

namespace Decimal

/-- The digits without an exponent. -/
def plain (d : Decimal) : List Char :=
  let ds := Text.numeral d.digits
  if 0 ≤ d.exponent then ds ++ List.replicate d.exponent.toNat '0'
  else
    let places := (-d.exponent).toNat
    if places < ds.length then ds.take (ds.length - places) ++ '.' :: ds.drop (ds.length - places)
    else '0' :: '.' :: List.replicate (places - ds.length) '0' ++ ds

/-- The exponent of the first digit. -/
def leading (d : Decimal) : Int := (Text.numeral d.digits).length + d.exponent - 1

/-- One digit, the others behind a point, and the exponent of the first digit. -/
def scientific (d : Decimal) : List Char :=
  let mantissa := match Text.numeral d.digits with
    | [] => []
    | [c] => [c]
    | c :: r => c :: '.' :: r
  let e := d.leading
  mantissa ++ 'e' :: (if e < 0 then '-' else '+') :: Text.numeral e.natAbs

end Decimal

namespace Binary

/-- A number in full: no exponent, and no point in a whole number. -/
def display (f : BinaryFormat) : Binary → List Char
  | .nan => ['N', 'a', 'N']
  | .infinite s => if s then ['-', 'i', 'n', 'f'] else ['i', 'n', 'f']
  | .finite s m e =>
    let digits := if m = 0 then ['0'] else (Shortest.decimal f .up m e).plain
    if s then '-' :: digits else digits

end Binary

end LiveTail
