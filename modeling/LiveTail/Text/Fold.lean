/-! Case of ASCII names. -/
namespace LiveTail.Text

/-- The lower case of a character as far as it is an ASCII letter; besides the capital letters the
sign for kelvin has one. -/
def foldChar (c : Char) : Char := if c = '\u212a' then 'k' else c.toLower

/-- Whether a text is an ASCII name in lower case, up to its case. -/
def isNamed (text name : String) : Bool := text.toList.map foldChar == name.toList

end LiveTail.Text
