import Courier.Text.Combining
import Courier.Text.Printable

/-!
# Quoted text

A text between double quotes, in which every character is visible: the quote and the backslash are
escaped, and characters that do not print, or would attach to their neighbour, are written by code
point.
-/

namespace Courier.Text

/-- A character written by its code point in small hexadecimal digits. -/
def codePointEscape (c : Char) : List Char :=
  ['\\', 'u', '\x7b'] ++ Nat.toDigits 16 c.toNat ++ ['\x7d']

/-- How a character is written between double quotes. -/
def quotedChar (c : Char) : List Char :=
  if c = '\x00' then ['\\', '0']
  else if c = '\t' then ['\\', 't']
  else if c = '\r' then ['\\', 'r']
  else if c = '\n' then ['\\', 'n']
  else if c = '\\' || c = '"' then ['\\', c]
  else if isCombining c || !isPrintable c then codePointEscape c
  else [c]

/-- A text between double quotes with its invisible characters escaped. -/
def quoted (s : String) : String :=
  String.ofList (['"'] ++ s.toList.flatMap quotedChar ++ ['"'])

end Courier.Text
