import LiveTail.Text.Lines
import LiveTail.Text.Numeral
/-! Large sets of characters, kept as the code points at which membership changes. -/
namespace LiveTail.Text

/-- A set of characters: the ascending code points from which on membership is the other way
round. -/
structure CharSet where
  flips : Array Nat

namespace CharSet

/-- The hexadecimal numbers of a row, which single spaces separate. -/
def readHexRow (row : String) : List Nat :=
  (splitOn ' ' row.toList).map (fun cs => cs.foldl (fun n c => n * 16 + (hexDigit? c).getD 0) 0)

/-- The running sums of a list. -/
def sums : Nat → List Nat → List Nat
  | _, [] => []
  | n, d :: r => (n + d) :: sums (n + d) r

/-- The set whose changes lie the given distances apart; the rows hold hexadecimal numbers. -/
def ofGaps (rows : List String) : CharSet := ⟨(sums 0 (rows.flatMap readHexRow)).toArray⟩

/-- How many entries of an ascending array are at most `n`, of those from `low` to below `high`;
all before `low` are. -/
def countUpTo (a : Array Nat) (n : Nat) : Nat → Nat → Nat → Nat
  | 0, low, _ => low
  | fuel + 1, low, high =>
    if high ≤ low then low
    else
      let mid := (low + high) / 2
      if a.getD mid 0 ≤ n then countUpTo a n fuel (mid + 1) high else countUpTo a n fuel low mid

def contains (s : CharSet) (c : Char) : Bool :=
  countUpTo s.flips c.toNat s.flips.size 0 s.flips.size % 2 = 1

end CharSet

end LiveTail.Text
