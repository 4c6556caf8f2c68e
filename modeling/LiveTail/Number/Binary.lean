/-! Binary floating-point numbers as exact rationals: a finite number is a whole significand times
a power of two, and every operation rounds the exact result once, to the nearest number of the
format and on a tie to the even significand. -/
namespace LiveTail

/-- A binary format: the bits of a significand, and the least and the greatest exponent of the
last place. -/
structure BinaryFormat where
  precision : Nat
  minExponent : Int
  maxExponent : Int

namespace BinaryFormat

/-- 64-bit numbers. -/
def double : BinaryFormat := ⟨53, -1074, 971⟩

/-- 32-bit numbers. -/
def single : BinaryFormat := ⟨24, -149, 104⟩

end BinaryFormat

/-- A floating-point value; a finite one is `significand * 2 ^ exponent`. -/
inductive Binary where
  | nan
  | infinite (negative : Bool)
  | finite (negative : Bool) (significand : Nat) (exponent : Int)
  deriving DecidableEq, Repr, Inhabited

/-- A non-negative rational, as numerator and positive denominator. -/
structure Quotient where
  num : Nat
  den : Nat
  den_pos : 0 < den := by omega

namespace Quotient

/-- The number `m * 2 ^ e`. -/
def ofScaled (m : Nat) (e : Int) : Quotient :=
  if 0 ≤ e then ⟨m * Nat.pow 2 e.toNat, 1, by omega⟩
  else ⟨m, Nat.pow 2 (-e).toNat, Nat.pow_pos (by omega)⟩

/-- The number `m * 10 ^ e`. -/
def ofDecimal (m : Nat) (e : Int) : Quotient :=
  if 0 ≤ e then ⟨m * Nat.pow 10 e.toNat, 1, by omega⟩
  else ⟨m, Nat.pow 10 (-e).toNat, Nat.pow_pos (by omega)⟩

def mul (a b : Quotient) : Quotient :=
  ⟨a.num * b.num, a.den * b.den, Nat.mul_pos a.den_pos b.den_pos⟩

/-- The quotient by a positive number. -/
def div (a b : Quotient) (h : 0 < b.num) : Quotient :=
  ⟨a.num * b.den, a.den * b.num, Nat.mul_pos a.den_pos h⟩

/-- The whole number nearest to the quotient, the even one of two. -/
def roundEven (a : Quotient) : Nat :=
  let q := a.num / a.den
  let r := a.num % a.den
  if 2 * r < a.den then q
  else if 2 * r > a.den then q + 1
  else if q % 2 = 0 then q else q + 1

/-- The greatest `e` with `2 ^ e` at most the quotient, for a positive quotient. -/
def log2 (a : Quotient) : Int :=
  let e : Int := (a.num.log2 : Int) - (a.den.log2 : Int)
  let reaches :=
    if 0 ≤ e then a.den * Nat.pow 2 e.toNat ≤ a.num else a.den ≤ a.num * Nat.pow 2 (-e).toNat
  if reaches then e else e - 1

end Quotient

namespace Binary

variable (f : BinaryFormat)

def zero (negative : Bool) : Binary := .finite negative 0 f.minExponent

/-- The number of the format nearest to a quotient with the given sign. -/
def round (negative : Bool) (a : Quotient) : Binary :=
  if a.num = 0 then zero f negative
  else
    let e := max (a.log2 - (f.precision - 1)) f.minExponent
    let m := (a.mul (.ofScaled 1 (-e))).roundEven
    let (m, e) := if m = Nat.pow 2 f.precision then (Nat.pow 2 (f.precision - 1), e + 1) else (m, e)
    if f.maxExponent < e then .infinite negative else .finite negative m e

/-- The number nearest to a whole number. -/
def ofInt (n : Int) : Binary := round f (n < 0) (.ofScaled n.natAbs 0)

/-- The number nearest to `m * 10 ^ e`. -/
def ofDecimal (negative : Bool) (m : Nat) (e : Int) : Binary := round f negative (.ofDecimal m e)

/-- The exact magnitude of a finite number. -/
def magnitude (m : Nat) (e : Int) : Quotient := .ofScaled m e

def isFinite : Binary → Bool
  | .finite .. => true
  | _ => false

def isZero : Binary → Bool
  | .finite _ 0 _ => true
  | _ => false

def negate : Binary → Binary
  | .nan => .nan
  | .infinite s => .infinite (!s)
  | .finite s m e => .finite (!s) m e

/-- The product of two numbers. -/
def mul : Binary → Binary → Binary
  | .finite s m e, .finite t n d => round f (s != t) ((magnitude m e).mul (magnitude n d))
  | .infinite s, .infinite t => .infinite (s != t)
  | .infinite s, .finite t n _ => if n = 0 then .nan else .infinite (s != t)
  | .finite s m _, .infinite t => if m = 0 then .nan else .infinite (s != t)
  | _, _ => .nan

/-- The quotient of two numbers. -/
def div : Binary → Binary → Binary
  | .finite s m e, .finite t n d =>
    if h : 0 < (magnitude n d).num then round f (s != t) ((magnitude m e).div (magnitude n d) h)
    else if m = 0 then .nan else .infinite (s != t)
  | .infinite s, .finite t _ _ => .infinite (s != t)
  | .finite s _ _, .infinite t => zero f (s != t)
  | _, _ => .nan

/-- The signed whole number `± m * 2 ^ k`. -/
def scaledInt (negative : Bool) (m : Nat) (k : Nat) : Int :=
  let n : Int := m * Nat.pow 2 k
  if negative then -n else n

/-- The sum of two numbers. -/
def add : Binary → Binary → Binary
  | .finite s m e, .finite t n d =>
    let c := min e d
    let sum := scaledInt s m (e - c).toNat + scaledInt t n (d - c).toNat
    if sum = 0 then zero f (s && t) else round f (sum < 0) (.ofScaled sum.natAbs c)
  | .infinite s, .infinite t => if s = t then .infinite s else .nan
  | .infinite s, .finite .. => .infinite s
  | .finite .., .infinite t => .infinite t
  | _, _ => .nan

/-- The same value in another format. -/
def convert : Binary → Binary
  | .finite s m e => round f s (magnitude m e)
  | x => x

/-- The greatest whole number that is at most a finite number. -/
def floor : Binary → Int
  | .finite s m e =>
    if 0 ≤ e then scaledInt s m e.toNat else scaledInt s m 0 / (Nat.pow 2 (-e).toNat : Int)
  | _ => 0

/-- The whole number nearest to a finite number, a half going away from zero. -/
def roundAway : Binary → Int
  | .finite s m e =>
    let a := magnitude m e
    let n : Int := (2 * a.num + a.den) / (2 * a.den)
    if s then -n else n
  | _ => 0

/-- The exact order of two numbers other than NaN. -/
def le : Binary → Binary → Bool
  | .nan, _ | _, .nan => false
  | .infinite s, .infinite t => s || !t
  | .infinite s, .finite .. => s
  | .finite .., .infinite t => !t
  | .finite s m e, .finite t n d =>
    let c := min e d
    scaledInt s m (e - c).toNat ≤ scaledInt t n (d - c).toNat

end Binary

end LiveTail
