import KindResolution.Text.Numeral
import KindResolution.Text.Printable

/-!
# Quoted texts

The way texts are shown in error messages and descriptions of values: between double quotes, with
the quote, the backslash, line breaks, tabs and null characters escaped by a letter and other
characters that are not printable by their code point.
-/

namespace KindResolution.Text

/-- The quoted form of one character. -/
def quoteChar (c : Char) : List Char :=
  if c = '"' then ['\\', '"']
  else if c = '\\' then ['\\', '\\']
  else if c = '\n' then ['\\', 'n']
  else if c = '\r' then ['\\', 'r']
  else if c = '\t' then ['\\', 't']
  else if c = '\x00' then ['\\', '0']
  else if isPrintable c then [c]
  else ['\\', 'u', '\x7b'] ++ hexadecimal c.toNat ++ ['\x7d']

/-- A text between double quotes, each character in its quoted form. -/
def quote (s : String) : String :=
  String.ofList ('"' :: s.toList.flatMap quoteChar ++ ['"'])

end KindResolution.Text
