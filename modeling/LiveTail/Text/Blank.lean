/-! White space: the characters with the Unicode property `White_Space`, and trimming by them. -/
namespace LiveTail.Text

/-- The Unicode property `White_Space`. -/
def isBlank (c : Char) : Bool :=
  let n := c.toNat
  (9 ≤ n && n ≤ 13) || n == 0x20 || n == 0x85 || n == 0xA0 || n == 0x1680 ||
    (0x2000 ≤ n && n ≤ 0x200A) || n == 0x2028 || n == 0x2029 || n == 0x202F || n == 0x205F ||
    n == 0x3000

/-- Drops the characters that satisfy `p` from the end. -/
def dropTail (p : Char → Bool) (cs : List Char) : List Char :=
  (cs.reverse.dropWhile p).reverse

def trimStart (cs : List Char) : List Char := cs.dropWhile isBlank

/-- Drops white space from both ends. -/
def trim (cs : List Char) : List Char := dropTail isBlank (trimStart cs)

/-- Whether nothing but white space is there. -/
def isAllBlank (cs : List Char) : Bool := cs.all isBlank

end LiveTail.Text
