import Courier.Text.Numeral

/-!
# Reading characters

A reader takes what it wants from the front of a text and leaves the rest. This module holds the
pieces that every part of the format shares: blanks, line ends, comments, and loops that end because
the rest gets shorter.
-/

namespace Courier.Toml

/-- Takes a value from the front of a text, or refuses. -/
abbrev Reader (α : Type) := List Char → Option (α × List Char)

/-- The blanks within a line. -/
def isSpace (c : Char) : Bool :=
  c == ' ' || c == '\t'

/-- Characters outside ASCII may stand in comments and in strings of every kind. -/
def isNonAscii (c : Char) : Bool :=
  0x80 ≤ c.toNat

/-- Characters that may stand in a comment. -/
def isCommentChar (c : Char) : Bool :=
  c == '\t' || (0x20 ≤ c.toNat && c.toNat ≤ 0x7E) || isNonAscii c

/-- What follows the blanks. -/
def skipSpaces (cs : List Char) : List Char :=
  cs.dropWhile isSpace

/-- What follows a line end, which may also be the end of the text. -/
def lineEnd? : List Char → Option (List Char)
  | [] => some []
  | '\n' :: rest => some rest
  | '\r' :: '\n' :: rest => some rest
  | _ => none

/-- What follows the blanks and the comment at the end of a line, and its line end. -/
def finishLine? (cs : List Char) : Option (List Char) :=
  match skipSpaces cs with
  | '#' :: rest => lineEnd? (rest.dropWhile isCommentChar)
  | cs => lineEnd? cs

/-- What follows blanks, line ends and comments, as they may stand between the elements of a
list. -/
def skipVoid (inComment : Bool) : List Char → Option (List Char)
  | [] => some []
  | '\n' :: rest => skipVoid false rest
  | '\r' :: '\n' :: rest => skipVoid false rest
  | c :: rest =>
    if inComment then (if isCommentChar c then skipVoid true rest else none)
    else if c = '#' then skipVoid true rest
    else if isSpace c then skipVoid false rest
    else some (c :: rest)

/-- Reads to the end of a text. A step that takes nothing is refused. -/
def readAll (step : Reader α) (cs : List Char) : Option (List α) :=
  match cs with
  | [] => some []
  | c :: cs =>
    match step (c :: cs) with
    | none => none
    | some (a, rest) =>
      if rest.length < (c :: cs).length then (readAll step rest).map (a :: ·) else none
termination_by cs.length
decreasing_by assumption

/-- Digits, where a single underscore may stand between two of them. The underscores are dropped. -/
def digitRun (isDigit : Char → Bool) : List Char → List Char × List Char
  | '_' :: c :: rest =>
    if isDigit c then
      let (ds, rest) := digitRun isDigit rest
      (c :: ds, rest)
    else ([], '_' :: c :: rest)
  | c :: rest =>
    if isDigit c then
      let (ds, rest) := digitRun isDigit rest
      (c :: ds, rest)
    else ([], c :: rest)
  | [] => ([], [])

/-- At least one digit, then more of them as in `digitRun`. -/
def digits? (isDigit : Char → Bool) : Reader (List Char)
  | c :: rest =>
    if isDigit c then
      let (ds, rest) := digitRun isDigit rest
      some (c :: ds, rest)
    else none
  | [] => none

/-- An exact number of decimal digits, as a number. -/
def fixedDigits? (count : Nat) (cs : List Char) : Option (Nat × List Char) :=
  let ds := cs.take count
  if ds.length = count && ds.all Char.isDigit then some (Text.ofDigits ds, cs.drop count) else none

/-- What follows one given character. -/
def char? (c : Char) : List Char → Option (List Char)
  | d :: rest => if d = c then some rest else none
  | [] => none

/-- What follows a given word. -/
def word? : List Char → List Char → Option (List Char)
  | [], cs => some cs
  | w :: ws, c :: cs => if c = w then word? ws cs else none
  | _ :: _, [] => none

end Courier.Toml
