import LiveTail.Text.Lines
import LiveTail.Text.Numeral
/-! IPv6 addresses: eight pieces of 16 bits, of which one run of zeros may be left out; the last two
may be written as an IPv4 address. -/
namespace LiveTail.Ipv6

/-- A piece: one to four hexadecimal digits. -/
def readPiece? (cs : List Char) : Option Nat :=
  if cs.isEmpty || 4 < cs.length then none
  else cs.foldlM (fun n c => (Text.hexDigit? c).map (n * 16 + ·)) 0

/-- A byte in decimal digits, without leading zeros. -/
def readByte? (cs : List Char) : Option Nat :=
  match cs with
  | [] => none
  | ['0'] => some 0
  | '0' :: _ => none
  | cs =>
    if cs.all Char.isDigit && Text.digitsValue cs < 256 then some (Text.digitsValue cs) else none

/-- Two pieces in the form of an IPv4 address. -/
def readEmbedded? (cs : List Char) : Option (List Nat) :=
  match (Text.splitOn '.' cs).mapM readByte? with
  | some [a, b, c, d] => some [a * 256 + b, c * 256 + d]
  | _ => none

/-- Pieces with colons between them; the last may have the form of an IPv4 address. -/
def readPieces? : List (List Char) → Option (List Nat)
  | [] => some []
  | [p] =>
    match readPiece? p with
    | some n => some [n]
    | none => readEmbedded? p
  | p :: q :: r => do
    let n ← readPiece? p
    return n :: (← readPieces? (q :: r))

/-- All pieces of a text; none of an empty one. -/
def readRun? (cs : List Char) : Option (List Nat) :=
  if cs.isEmpty then some [] else readPieces? (Text.splitOn ':' cs)

/-- The texts before and after the first double colon. -/
def splitDouble : List Char → Option (List Char × List Char)
  | ':' :: ':' :: r => some ([], r)
  | c :: r => (splitDouble r).map (fun p => (c :: p.1, p.2))
  | [] => none

/-- The pieces of an address. A double colon stands for at least one piece that is zero, and an
address in IPv4 form only for the last two. -/
def ofText? (cs : List Char) : Option (List Nat) :=
  match splitDouble cs with
  | none => (readRun? cs).filter (fun ps => ps.length = 8)
  | some (a, b) => do
    if a.contains '.' then failure
    let before ← readRun? a
    let after ← readRun? b
    if 8 ≤ before.length + after.length then failure
    return before ++ List.replicate (8 - before.length - after.length) 0 ++ after

/-- The number of zeros that a list starts with. -/
def zeroRun (ps : List Nat) : Nat := (ps.takeWhile (· == 0)).length

/-- The start and length of the first of the longest runs of zeros. -/
def longestRun (ps : List Nat) : Nat × Nat :=
  (List.range ps.length).foldl (fun best i =>
    if best.2 < zeroRun (ps.drop i) then (i, zeroRun (ps.drop i)) else best) (0, 0)

/-- Pieces with colons between them. -/
def joinPieces : List Nat → List Char
  | [] => []
  | [p] => Text.hexNumeral p
  | p :: q :: r => Text.hexNumeral p ++ ':' :: joinPieces (q :: r)

/-- The longest run of at least two zeros is left out. -/
def toText (ps : List Nat) : List Char :=
  let (start, n) := longestRun ps
  if n < 2 then joinPieces ps
  else joinPieces (ps.take start) ++ ':' :: ':' :: joinPieces (ps.drop (start + n))

end LiveTail.Ipv6
