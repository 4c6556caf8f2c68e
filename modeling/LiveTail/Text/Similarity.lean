import LiveTail.Number.Binary
/-! How alike two words are, by Jaro: the share of characters that they have in common at about the
same place, and of those in the same order. -/
namespace LiveTail.Text

/-- A character of a word, and whether it has been matched. -/
abbrev Marked := Char × Bool

/-- Matches a character with the first free one that is equal to it, within the places from `low` on
and before `high`. -/
def claim (c : Char) : Nat → Nat → List Marked → Option (List Marked)
  | _, 0, _ | _, _, [] => none
  | 0, high + 1, (d, taken) :: r =>
    if c = d && !taken then some ((d, true) :: r)
    else (claim c 0 high r).map ((d, taken) :: ·)
  | low + 1, high + 1, m :: r => (claim c low high r).map (m :: ·)

/-- The characters of a word that have a match at most `reach` places away, and the other word with
the matches marked. `place` is the place of the first character. -/
def matchWords (reach : Nat) : Nat → List Char → List Marked → List Char × List Marked
  | _, [], b => ([], b)
  | place, c :: r, b =>
    match claim c (place - reach) (place + reach + 1) b with
    | some b =>
      let (matched, b) := matchWords reach (place + 1) r b
      (c :: matched, b)
    | none => matchWords reach (place + 1) r b

/-- A quotient of two counts as a 64-bit number. -/
def share (n d : Nat) : Binary :=
  (Binary.ofInt .double n).div .double (.ofInt .double d)

/-- The similarity of two words: 1 for equal ones, 0 for those with nothing in common. -/
def similarity (a b : List Char) : Binary :=
  if a.isEmpty && b.isEmpty then .ofInt .double 1
  else
    let reach := max a.length b.length / 2 - 1
    let (matched, marked) := matchWords reach 0 a (b.map (fun c => (c, false)))
    let common := (marked.filter (fun m => m.2)).map (fun m => m.1)
    let displaced := ((matched.zip common).filter (fun p => p.1 ≠ p.2)).length / 2
    let n := matched.length
    if n = 0 then .zero .double false
    else
      let sum := ((share n a.length).add .double (share n b.length)).add .double
        (share (n - displaced) n)
      sum.div .double (.ofInt .double 3)

end LiveTail.Text
