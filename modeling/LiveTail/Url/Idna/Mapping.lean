import LiveTail.Url.Idna.MappingData
import LiveTail.Text.RangeTable
/-! What a domain name makes of each character before it is looked up. -/
namespace LiveTail.Idna

inductive Treatment where
  | valid
  | ignored
  | refused
  | raised (n : Nat)
  | lowered (n : Nat)
  | replaced (cs : List Char)
  deriving DecidableEq, Repr

def readTreatment (c : Char) (r : List Char) : Treatment :=
  if c = 'v' then .valid
  else if c = 'i' then .ignored
  else if c = 'p' then .raised (Text.RangeTable.readHex r)
  else if c = 'm' then .lowered (Text.RangeTable.readHex r)
  else if c = 's' then
    .replaced ((Text.splitOn '.' r).map (fun d => .ofNat (Text.RangeTable.readHex d)))
  else .refused

def mapping : Text.RangeTable Treatment := .ofRows readTreatment mappingRows

/-- What becomes of a character; none if it may not stand in a name. -/
def mapChar? (c : Char) : Option (List Char) :=
  match (mapping.get? c.toNat).getD .refused with
  | .valid => some [c]
  | .ignored => some []
  | .refused => none
  | .raised n => some [.ofNat (c.toNat + n)]
  | .lowered n => some [.ofNat (c.toNat - n)]
  | .replaced cs => some cs

/-- Whether a character stands in a name as it is. -/
def isValid (c : Char) : Bool := mapping.get? c.toNat = some .valid

end LiveTail.Idna
