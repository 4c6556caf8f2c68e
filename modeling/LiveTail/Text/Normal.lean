import LiveTail.Text.Normal.Data
import LiveTail.Text.RangeTable
/-! Canonical normalisation: characters are decomposed, marks are put in their order, and what can
be composed is composed. -/
namespace LiveTail.Text.Normal

/-- The numbers of a list that points separate. -/
def readSequence (cs : List Char) : List Nat := (splitOn '.' cs).map RangeTable.readHex

def decompositions : RangeTable (List Nat) :=
  .ofRows (fun c r => if c = 's' then readSequence r else []) decompositionRows

def compositions : RangeTable Nat := .ofRows (fun _ r => RangeTable.readHex r) compositionRows

def combiningClasses : RangeTable Nat := .ofRows (fun _ r => RangeTable.readHex r) combiningRows

/-- The canonical combining class; 0 is that of a starter. -/
def combiningClass (n : Nat) : Nat := (combiningClasses.get? n).getD 0

/-! ### Hangul syllables -/

def firstSyllable : Nat := 0xAC00

def syllableCount : Nat := 11172

def firstLead : Nat := 0x1100

def firstVowel : Nat := 0x1161

/-- The code point before the first trailing consonant. -/
def trailBase : Nat := 0x11A7

/-- The parts of a syllable. -/
def splitSyllable (n : Nat) : List Nat :=
  let i := n - firstSyllable
  let t := i % 28
  [firstLead + i / 588, firstVowel + i % 588 / 28] ++ (if t = 0 then [] else [trailBase + t])

/-- The syllable of a lead and a vowel, or of a syllable without a trail and a trail. -/
def joinSyllable? (a b : Nat) : Option Nat :=
  if firstLead ≤ a && a < firstLead + 19 && firstVowel ≤ b && b < firstVowel + 21 then
    some (firstSyllable + ((a - firstLead) * 21 + (b - firstVowel)) * 28)
  else if firstSyllable ≤ a && a < firstSyllable + syllableCount && (a - firstSyllable) % 28 = 0 &&
      trailBase < b && b < trailBase + 28 then
    some (a + (b - trailBase))
  else none

/-! ### The three steps -/

/-- The canonical decomposition of a character. -/
def decompose (n : Nat) : List Nat :=
  if firstSyllable ≤ n && n < firstSyllable + syllableCount then splitSyllable n
  else match decompositions.get? n with
    | some (d :: ds) => d :: ds
    | _ => [n]

/-- Puts a mark before the marks of higher classes at the end of a reversed text. -/
def insertMark (n : Nat) : List Nat → List Nat
  | [] => [n]
  | m :: r =>
    if combiningClass n ≠ 0 && combiningClass n < combiningClass m then m :: insertMark n r
    else n :: m :: r

/-- Puts all marks in their order. -/
def orderMarks (ns : List Nat) : List Nat := (ns.foldl (fun r n => insertMark n r) []).reverse

/-- The composite of two characters. -/
def compose? (a b : Nat) : Option Nat :=
  match joinSyllable? a b with
  | some s => some s
  | none => compositions.startingAt? (a * 0x200000 + b)

/-- A text in composition, reversed: what is finished, the last starter, and the marks behind it
that did not join it. -/
structure Composing where
  finished : List Nat := []
  starter : Option Nat := none
  marks : List Nat := []

def Composing.flush (s : Composing) : List Nat := s.marks ++ s.starter.toList ++ s.finished

/-- Takes one more character. It joins the starter unless a mark of its class or a higher one
stands between them. -/
def Composing.take (s : Composing) (n : Nat) : Composing :=
  let free := match s.marks with
    | [] => true
    | m :: _ => combiningClass m < combiningClass n
  let joined := match s.starter with
    | some a => if free then compose? a n else none
    | none => none
  match joined with
  | some c => { s with starter := some c }
  | none =>
    if combiningClass n = 0 then ⟨s.flush, some n, []⟩
    else if s.starter.isSome then { s with marks := n :: s.marks }
    else { s with finished := n :: s.finished }

def composeAll (ns : List Nat) : List Nat := (ns.foldl Composing.take {}).flush.reverse

/-- The composed canonical form of a text. -/
def normalize (cs : List Char) : List Char :=
  (composeAll (orderMarks (cs.flatMap (fun c => decompose c.toNat)))).map Char.ofNat

end LiveTail.Text.Normal
