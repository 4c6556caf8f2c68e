import LiveTail.Text.CharSet
/-! Tables that give a value to each range of numbers. -/
namespace LiveTail.Text

/-- Ranges by their ascending starts, each up to the start of the next, and their values. -/
structure RangeTable (α : Type) where
  starts : Array Nat
  values : Array α

namespace RangeTable

variable {α : Type}

/-- The number of a list of hexadecimal digits. -/
def readHex (cs : List Char) : Nat := cs.foldl (fun n c => n * 16 + (hexDigit? c).getD 0) 0

/-- An entry of a row: the distance from the start of the range before it in hexadecimal digits, a
letter that is no such digit, and what belongs to the letter. -/
def readEntry (read : Char → List Char → α) (entry : List Char) : Option (Nat × α) :=
  let isHex (c : Char) : Bool := (hexDigit? c).isSome
  match entry.dropWhile isHex with
  | [] => none
  | c :: r => some (readHex (entry.takeWhile isHex), read c r)

/-- The table of some rows, whose entries single spaces separate. -/
def ofRows (read : Char → List Char → α) (rows : List String) : RangeTable α :=
  let entries := rows.flatMap (fun row => (splitOn ' ' row.toList).filterMap (readEntry read))
  ⟨(CharSet.sums 0 (entries.map Prod.fst)).toArray, (entries.map Prod.snd).toArray⟩

/-- The number of ranges that start at `n` or before. -/
def position (t : RangeTable α) (n : Nat) : Nat :=
  CharSet.countUpTo t.starts n t.starts.size 0 t.starts.size

/-- The value of the range of a number. -/
def get? (t : RangeTable α) (n : Nat) : Option α :=
  match t.position n with
  | 0 => none
  | i + 1 => t.values[i]?

/-- The value of the range that starts at a number. -/
def startingAt? (t : RangeTable α) (n : Nat) : Option α :=
  match t.position n with
  | 0 => none
  | i + 1 => if t.starts[i]? = some n then t.values[i]? else none

end RangeTable

end LiveTail.Text
