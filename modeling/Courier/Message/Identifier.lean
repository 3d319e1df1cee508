/-!
# Identifiers

Chats and messages are named by identifiers that are safe as file names: one to 128 ASCII letters,
digits, underscores and hyphens.
-/

namespace Courier.Identifier

/-- The characters of an identifier. -/
def isIdChar (c : Char) : Bool :=
  c.isAlphanum || c == '_' || c == '-'

/-- The number of bytes an identifier may have. -/
def maxLength : Nat := 128

/-- Whether a text is an identifier. -/
def isValid (s : String) : Bool :=
  !s.isEmpty && s.utf8ByteSize ≤ maxLength && s.toList.all isIdChar

/-- A random identifier made from 128 random bits: 32 small hexadecimal digits, of which the one at
place 12 is always 4 and the one at place 16 is one of 8, 9, a and b. -/
def ofRandom (bits : Nat) : String :=
  String.ofList <| (List.range 32).map fun place =>
    let digit := (bits >>> (4 * (31 - place))) % 16
    Nat.digitChar (if place = 12 then 4 else if place = 16 then 8 + digit % 4 else digit)

end Courier.Identifier
