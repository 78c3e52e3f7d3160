import TokenAuthority.Text.CodePoints
import TokenAuthority.Text.Hexadecimal
import TokenAuthority.Text.Quoted.Table

/-!
# Quoted texts

A text between quotes for a human reader. Quotes and backslashes get a backslash; tabs, line feeds, carriage
returns and NUL have escapes of one letter; other characters without a picture of their own stand as their
code point in braces.
-/

namespace TokenAuthority.Text

/-- A character as it stands between quotes. -/
def quoteChar (c : Char) : List Char :=
  if c = '"' then ['\\', '"']
  else if c = '\\' then ['\\', '\\']
  else if c = '\t' then ['\\', 't']
  else if c = '\n' then ['\\', 'n']
  else if c = '\r' then ['\\', 'r']
  else if c = '\x00' then ['\\', '0']
  else if within Quoted.escapedBounds c.toNat then
    '\\' :: 'u' :: '\x7b' :: (Nat.toDigits 16 c.toNat ++ ['\x7d'])
  else [c]

/-- A text between quotes. -/
def quote (s : String) : String :=
  String.ofList ('"' :: (s.toList.flatMap quoteChar ++ ['"']))

/-- A list of texts between quotes, in brackets. -/
def quoteList (texts : List String) : String :=
  "[" ++ ", ".intercalate (texts.map quote) ++ "]"

end TokenAuthority.Text
