import GuestSpec.Text.Numeral
import GuestSpec.Text.Printable

/-!
# Quoted text

The form in which messages show a text: in double quotes, with short escapes for the quote, the
backslash and the usual control characters, and `\u` with the code point in braces for every other
character that would not show as itself.
-/

namespace GuestSpec.Text

/-- The characters that stand for `c` between the quotes. -/
def quoteChar (c : Char) : List Char :=
  if c = '\x00' then ['\\', '0']
  else if c = '\t' then ['\\', 't']
  else if c = '\r' then ['\\', 'r']
  else if c = '\n' then ['\\', 'n']
  else if c = '"' then ['\\', '"']
  else if c = '\\' then ['\\', '\\']
  else if isExtender c || !isPrintable c then
    ['\\', 'u', '\x7b'] ++ Numeral.hex c.toNat ++ ['\x7d']
  else [c]

def quoted (s : String) : String :=
  String.ofList ('"' :: (s.toList.flatMap quoteChar ++ ['"']))

end GuestSpec.Text
