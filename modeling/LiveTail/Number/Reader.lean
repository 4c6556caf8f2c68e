import LiveTail.Number.Binary
import LiveTail.Text.Numeral
/-! Reading floating-point numbers in decimal: the number of the format nearest to what is
written. -/
namespace LiveTail.Binary

/-- Beyond this decimal exponent every number is infinite or zero. -/
def decimalLimit : Int := 2000

/-- The number nearest to `digits * 10 ^ exponent`, where the exponent may be of any size. -/
def ofDigits (f : BinaryFormat) (negative : Bool) (digits : List Char) (exponent : Int) : Binary :=
  let n := Text.digitsValue digits
  if n = 0 then zero f negative
  else if decimalLimit < exponent then .infinite negative
  else if exponent + digits.length < -decimalLimit then zero f negative
  else ofDecimal f negative n exponent

/-- An exponent: an optional sign and at least one digit, to the end. -/
def readExponent? (cs : List Char) : Option Int :=
  let (negative, ds) := match cs with
    | '+' :: r => (false, r)
    | '-' :: r => (true, r)
    | r => (false, r)
  if ds.isEmpty || !ds.all Char.isDigit then none
  else
    let n : Int := Text.digitsValue ds
    some (if negative then -n else n)

/-- A number without sign: digits with a point before, among or behind them, and an exponent. -/
def readPositional? (f : BinaryFormat) (negative : Bool) (cs : List Char) : Option Binary :=
  let whole := cs.takeWhile Char.isDigit
  let rest := cs.dropWhile Char.isDigit
  let (fraction, rest) := match rest with
    | '.' :: r => (r.takeWhile Char.isDigit, r.dropWhile Char.isDigit)
    | r => ([], r)
  let digits := whole ++ fraction
  if digits.isEmpty then none
  else
    let places : Int := fraction.length
    match rest with
    | [] => some (ofDigits f negative digits (-places))
    | 'e' :: r | 'E' :: r =>
      (readExponent? r).map (fun e => ofDigits f negative digits (e - places))
    | _ => none

/-- The number of a text: a sign, and digits or the name of a special value in any case. -/
def ofText? (f : BinaryFormat) (cs : List Char) : Option Binary :=
  let (negative, r) := match cs with
    | '+' :: r => (false, r)
    | '-' :: r => (true, r)
    | r => (false, r)
  let word := String.ofList (r.map Char.toLower)
  if word = "nan" then some .nan
  else if word = "inf" || word = "infinity" then some (.infinite negative)
  else readPositional? f negative r

end LiveTail.Binary
