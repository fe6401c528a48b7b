/-
**Quoted texts.**

How a text is shown inside a message: between double quotes, with a backslash in front of quotes and
backslashes, short names for the common controls, and the code point in hexadecimal digits for every
other character that could not be seen.
-/

import Storefront.Text.Unprintable

namespace Storefront.Text

/-- A code point in braces, as lower-case hexadecimal digits. -/
def codePoint (c : Char) : List Char :=
  '\\' :: 'u' :: '\x7b' :: (Nat.toDigits 16 c.toNat ++ ['\x7d'])

/-- A character of a quoted text. -/
def quotedChar (c : Char) : List Char :=
  if c = '"' then ['\\', '"']
  else if c = '\\' then ['\\', '\\']
  else if c = '\n' then ['\\', 'n']
  else if c = '\r' then ['\\', 'r']
  else if c = '\t' then ['\\', 't']
  else if c = '\x00' then ['\\', '0']
  else if c.toNat < 0x20 || isUnprintable c then codePoint c
  else [c]

/-- A text between quotes. -/
def quoted (s : String) : String :=
  String.ofList ('"' :: (s.toList.flatMap quotedChar ++ ['"']))

end Storefront.Text
