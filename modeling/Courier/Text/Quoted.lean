import Courier.Text.Extending
import Courier.Text.Unprintable
import Courier.Text.Utf8

/-!
# Quoted texts

A text between quotes in which nothing is left that would not show: quotes and backslashes get a
backslash, line ends and the like a letter, and every other character without a form of its own
its number in hexadecimal. Quoted text holds no control, and different texts are quoted
differently.
-/

namespace Courier.Text.Quoted

/-- The number of a character in braces, in lower case. -/
def byNumber (c : Char) : List Char :=
  ['\\', 'u', '{'] ++ Nat.toDigits 16 c.toNat ++ ['}']

/-- Whether a character is shown by number. Controls are, whatever the tables say; of the rest
those without a visible form, and those that would merge with the character before them. -/
def isHidden (c : Char) : Bool :=
  c.toNat < 0x20 || c.toNat = 0x7F ||
    (0x7F < c.toNat && (extending.contains c || unprintable.contains c))

/-- How a character stands in a quoted text. -/
def escape (c : Char) : List Char :=
  if c = '\x00' then ['\\', '0']
  else if c = '\t' then ['\\', 't']
  else if c = '\r' then ['\\', 'r']
  else if c = '\n' then ['\\', 'n']
  else if c = '\\' then ['\\', '\\']
  else if c = '"' then ['\\', '"']
  else if isHidden c then byNumber c
  else [c]

/-- A text in quotes. -/
def quote (text : List Char) : List Char :=
  '"' :: text.flatMap escape ++ ['"']

/-- The two hexadecimal digits of a byte, in upper case. -/
def byteDigits (b : UInt8) : List Char :=
  [Nat.digitChar (b.toNat / 16), Nat.digitChar (b.toNat % 16)].map Char.toUpper

/-- Bytes in quotes: characters as in a text, except that an apostrophe gets a backslash too, and
ill-formed bytes one by one. -/
def quoteBytes (bytes : List UInt8) : List Char :=
  '"' :: (Utf8.decode bytes).flatMap (fun
    | .char c => if c = '\'' then ['\\', c] else escape c
    | .illFormed bad => bad.flatMap fun b => ['\\', 'x'] ++ byteDigits b) ++ ['"']

end Courier.Text.Quoted
