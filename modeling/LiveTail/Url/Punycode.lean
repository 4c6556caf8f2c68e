import LiveTail.Text.Lines
/-! Punycode: a text in ASCII, its basic characters first and the others as distances. -/
namespace LiveTail.Punycode

def base : Nat := 36

/-- The threshold at a position under a bias. -/
def threshold (k bias : Nat) : Nat := if k ≤ bias + 1 then 1 else min (k - bias) 26

/-- Halves the distance until it is small, and counts the steps. -/
def shrink : Nat → Nat → Nat → Nat × Nat
  | 0, delta, k => (delta, k)
  | fuel + 1, delta, k => if 455 < delta then shrink fuel (delta / 35) (k + base) else (delta, k)

/-- The bias after a distance. -/
def adapt (delta count : Nat) (first : Bool) : Nat :=
  let delta := if first then delta / 700 else delta / 2
  let (delta, k) := shrink delta (delta + delta / count) 0
  k + base * delta / (delta + 38)

/-- The value of a digit: letters, then decimal digits. -/
def digit? (c : Char) : Option Nat :=
  if 'a' ≤ c && c ≤ 'z' then some (c.toNat - 'a'.toNat)
  else if 'A' ≤ c && c ≤ 'Z' then some (c.toNat - 'A'.toNat)
  else if c.isDigit then some (c.toNat - '0'.toNat + 26)
  else none

def digitChar (n : Nat) : Char :=
  if n < 26 then .ofNat ('a'.toNat + n) else .ofNat ('0'.toNat + (n - 26))

/-- Writes a distance. -/
def writeDistance (bias : Nat) : Nat → Nat → Nat → List Char
  | 0, _, _ => []
  | fuel + 1, k, q =>
    let t := threshold k bias
    if q < t then [digitChar q]
    else digitChar (t + (q - t) % (base - t)) ::
      writeDistance bias fuel (k + base) ((q - t) / (base - t))

/-- Reads a distance: the sum of the digits by their weights. -/
def readDistance? (bias : Nat) : Nat → Nat → Nat → List Char → Option (Nat × List Char)
  | _, _, _, [] => none
  | k, weight, sum, c :: r => do
    let d ← digit? c
    let sum := sum + d * weight
    let t := threshold k bias
    if d < t then some (sum, r) else readDistance? bias (k + base) (weight * (base - t)) sum r

/-- Inserts the characters that the distances in a text stand for. -/
def insertAll? : Nat → Nat → Nat → Nat → List Nat → List Char → Option (List Nat)
  | _, _, _, _, out, [] => some out
  | 0, _, _, _, _, _ => none
  | fuel + 1, n, i, bias, out, cs => do
    let (d, r) ← readDistance? bias base 1 0 cs
    let count := out.length + 1
    let j := i + d
    let n := n + j / count
    if 0x10FFFF < n || (0xD800 ≤ n && n < 0xE000) then none
    else
      let at' := j % count
      insertAll? fuel n (at' + 1) (adapt d count (i = 0)) (out.insertIdx at' n) r

/-- The longest text that is decoded. -/
def decodeLimit : Nat := 2000

/-- The longest text that is encoded. -/
def encodeLimit : Nat := 1000

/-- The text before the last hyphen, and that after it. -/
def splitBasic (cs : List Char) : List Char × List Char :=
  match Text.cut '-' cs.reverse with
  | (_, none) | (_, some []) => ([], cs)
  | (tail, some head) => (head.reverse, tail.reverse)

/-- The characters that a text stands for. -/
def decode? (cs : List Char) : Option (List Char) :=
  if decodeLimit < cs.length then none
  else
    let (head, tail) := splitBasic cs
    (insertAll? cs.length 128 0 72 (head.map Char.toNat) tail).map (·.map Char.ofNat)

/-- A text being written: what stands there, the distance so far, the bias, and how many characters
have been written. -/
structure Writing where
  out : List Char
  delta : Nat
  bias : Nat
  count : Nat

/-- Passes one character while those with code point `n` are written. -/
def Writing.pass (basics n : Nat) (w : Writing) (c : Nat) : Writing :=
  if c < n then { w with delta := w.delta + 1 }
  else if c = n then
    ⟨w.out ++ writeDistance w.bias (w.delta + 1) base w.delta, 0,
      adapt w.delta (w.count + 1) (w.count = basics), w.count + 1⟩
  else w

/-- The distinct numbers of a list in ascending order. -/
def distinct (ns : List Nat) : List Nat := (ns.mergeSort (· ≤ ·)).eraseDups

/-- The text that stands for some characters. -/
def encode? (cs : List Char) : Option (List Char) :=
  if encodeLimit < cs.length then none
  else
    let ns := cs.map Char.toNat
    let basic := cs.filter (fun c => c.toNat < 128)
    let start : Writing := ⟨if basic.isEmpty then [] else basic ++ ['-'], 0, 72, basic.length⟩
    let (_, w) := (distinct (ns.filter (128 ≤ ·))).foldl (fun (from', w) n =>
      let w := { w with delta := w.delta + (n - from') * (w.count + 1) }
      let w := ns.foldl (Writing.pass basic.length n) w
      (n + 1, { w with delta := w.delta + 1 })) (128, start)
    some w.out

end LiveTail.Punycode
