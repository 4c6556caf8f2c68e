/-! The whole numbers that a machine word holds. -/
namespace LiveTail.Word

/-- How many numbers a word of so many bits holds. -/
def count (bits : Nat) : Nat := Nat.pow 2 bits

/-- Whether a word of 64 bits with a sign holds a number. -/
def holdsSigned (n : Int) : Bool := -(count 63 : Int) ≤ n && n < (count 63 : Int)

end LiveTail.Word
