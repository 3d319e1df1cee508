/-!
# White space

Blank characters are those with the Unicode property `White_Space`. Trimming drops them from the
two ends of a text and leaves the inside alone.
-/

namespace Courier.Text

/-- The characters with the Unicode property `White_Space`. -/
def isBlank (c : Char) : Bool :=
  let n := c.toNat
  (0x09 ≤ n && n ≤ 0x0D) || n == 0x20 || n == 0x85 || n == 0xA0 || n == 0x1680 ||
    (0x2000 ≤ n && n ≤ 0x200A) || n == 0x2028 || n == 0x2029 || n == 0x202F || n == 0x205F ||
    n == 0x3000

/-- The characters after the leading white space. -/
def trimLeft (cs : List Char) : List Char :=
  cs.dropWhile isBlank

/-- The characters before the trailing white space. -/
def trimRight (cs : List Char) : List Char :=
  (cs.reverse.dropWhile isBlank).reverse

/-- A text without the white space at its two ends. -/
def trim (s : String) : String :=
  String.ofList (trimRight (trimLeft s.toList))

/-- Whether a text is empty or white space only. -/
def isBlankText (s : String) : Bool :=
  s.toList.all isBlank

end Courier.Text
