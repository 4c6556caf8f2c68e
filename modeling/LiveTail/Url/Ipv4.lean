import LiveTail.Text.Lines
import LiveTail.Text.Numeral
/-! IPv4 addresses: up to four numbers, the last of which fills the bytes that are left. -/
namespace LiveTail.Ipv4

/-- The number of a list of digits of a base. -/
def value (base : Nat) (cs : List Char) : Nat :=
  cs.foldl (fun n c => n * base + (Text.hexDigit? c).getD 0) 0

/-- A part: hexadecimal behind `0x`, octal behind a zero, else decimal. -/
def readPart? (cs : List Char) : Option Nat :=
  match cs with
  | [] => none
  | '0' :: 'x' :: r | '0' :: 'X' :: r =>
    if r.all (fun c => (Text.hexDigit? c).isSome) then some (value 16 r) else none
  | '0' :: c :: r =>
    if (c :: r).all (fun c => '0' ≤ c && c ≤ '7') then some (value 8 (c :: r)) else none
  | cs => if cs.all Char.isDigit then some (value 10 cs) else none

/-- The parts of a name; an empty one at the end does not count. -/
def parts (cs : List Char) : List (List Char) :=
  let pieces := Text.splitOn '.' cs
  match pieces.reverse with
  | [] :: r => r.reverse
  | _ => pieces

/-- Whether the last part of a name is a number, so that the name has to be an address. -/
def endsInNumber (cs : List Char) : Bool :=
  match (parts cs).getLast? with
  | none | some [] => false
  | some p => p.all Char.isDigit || (readPart? p).isSome

/-- The address of a name, as a number. -/
def ofText? (cs : List Char) : Option Nat := do
  let ps := parts cs
  if 4 < ps.length then failure
  let numbers ← ps.mapM readPart?
  let last ← numbers.getLast?
  let first := numbers.dropLast
  if Nat.pow 256 (4 - first.length) ≤ last then failure
  if first.any (fun n => 255 < n) then failure
  return first.zipIdx.foldl (fun sum p => sum + p.1 * Nat.pow 256 (3 - p.2)) last

/-- Four decimal numbers. -/
def toText (n : Nat) : List Char :=
  Text.numeral (n / 16777216 % 256) ++ '.' :: Text.numeral (n / 65536 % 256) ++
    '.' :: Text.numeral (n / 256 % 256) ++ '.' :: Text.numeral (n % 256)

end LiveTail.Ipv4
