import LiveTail.Text.Numeral
/-! Percent-encoding: a byte as a percent sign and two hexadecimal digits. -/
namespace LiveTail.Percent

/-- A percent sign and the digits of a byte. -/
def encodeByte (b : UInt8) : List Char := '%' :: Text.upperHex 2 b.toNat

/-- Controls and all beyond ASCII. -/
def isControl (c : Char) : Bool := c.toNat < 0x20 || 0x7f ≤ c.toNat

/-- Controls, and the other characters of a list. -/
def among (extra : List Char) (c : Char) : Bool := isControl c || extra.contains c

def fragmentSet : Char → Bool := among [' ', '"', '<', '>', '`']

def querySet : Char → Bool := among [' ', '"', '#', '<', '>']

def specialQuerySet : Char → Bool := among [' ', '"', '#', '<', '>', '\'']

def pathSet : Char → Bool := among [' ', '"', '<', '>', '`', '#', '?', '\x7b', '\x7d']

def userSet : Char → Bool :=
  among [' ', '"', '<', '>', '`', '#', '?', '\x7b', '\x7d', '/', ':', ';', '=', '@', '[', '\\', ']',
    '^', '|']

/-- Encodes the characters of a set. -/
def encode (set : Char → Bool) (cs : List Char) : List Char :=
  cs.flatMap (fun c => if set c then (String.utf8EncodeChar c).flatMap encodeByte else [c])

/-- The bytes of a text, with those written by percent signs. -/
def decode : List Char → List UInt8
  | [] => []
  | [c] => String.utf8EncodeChar c
  | [c, d] => String.utf8EncodeChar c ++ String.utf8EncodeChar d
  | c :: d :: e :: r =>
    if c = '%' then
      match Text.hexDigit? d, Text.hexDigit? e with
      | some h, some l => .ofNat (h * 16 + l) :: decode r
      | _, _ => String.utf8EncodeChar c ++ decode (d :: e :: r)
    else String.utf8EncodeChar c ++ decode (d :: e :: r)

end LiveTail.Percent
