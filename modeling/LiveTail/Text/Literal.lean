import LiveTail.Text.Printable
import LiveTail.Text.Numeral
/-! Texts as quoted literals, for messages that show a text found. -/
namespace LiveTail.Text

/-- A character inside a literal: an escape for quotes, backslashes, controls, characters without a
shape, and those that would join the character before them. -/
def literalChar (c : Char) : List Char :=
  if c = '\x00' then ['\\', '0']
  else if c = '\t' then ['\\', 't']
  else if c = '\n' then ['\\', 'n']
  else if c = '\r' then ['\\', 'r']
  else if c = '"' then ['\\', '"']
  else if c = '\\' then ['\\', '\\']
  else if 0x20 ≤ c.toNat && c.toNat < 0x7f then [c]
  else if extender.contains c || !printable.contains c then
    '\\' :: 'u' :: '\x7b' :: hexNumeral c.toNat ++ ['\x7d']
  else [c]

/-- A text in quotes. -/
def literal (s : String) : String := .ofList ('"' :: s.toList.flatMap literalChar ++ ['"'])

end LiveTail.Text
