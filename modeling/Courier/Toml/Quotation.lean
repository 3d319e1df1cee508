import Courier.Toml.Reader

/-!
# Reading quoted strings

Four kinds of quotation: basic strings with escapes and literal strings without, each on one line or
on several. A string of several lines loses the line end right after its opening quotes, its other
line ends read as line feeds, and up to two quotes before its closing quotes belong to it.
-/

namespace Courier.Toml

/-- The character that a single letter after a backslash stands for. -/
def escapeLetter? (c : Char) : Option Char :=
  match c with
  | 'b' => some '\x08'
  | 't' => some '\t'
  | 'n' => some '\n'
  | 'f' => some '\x0c'
  | 'r' => some '\r'
  | '"' => some '"'
  | '\\' => some '\\'
  | _ => none

/-- The character whose code point has these hexadecimal digits, surrogates excluded. -/
def codePoint? (ds : List Char) : Option Char := do
  let n ← ds.foldlM (fun n c => (Text.hexDigit? c).map (16 * n + ·)) 0
  if h : n.isValidChar then some (Char.ofNatAux n h) else none

/-- Characters that stand for themselves in a basic string, the double quote excluded. -/
def isBasicChar (c : Char) : Bool :=
  c == '\t' || (0x20 ≤ c.toNat && c.toNat ≤ 0x7E && c != '"' && c != '\\') || isNonAscii c

/-- Characters that stand for themselves in a literal string, the single quote excluded. -/
def isLiteralChar (c : Char) : Bool :=
  c == '\t' || (0x20 ≤ c.toNat && c.toNat ≤ 0x7E && c != '\'') || isNonAscii c

/-- Puts a character in front of what a reader has taken. -/
def consRead (c : Char) (r : Option (List Char × List Char)) : Option (List Char × List Char) :=
  r.map fun (cs, rest) => (c :: cs, rest)

/-- The inside of a basic string on one line, up to its closing quote. -/
def basicLine : Reader (List Char)
  | [] => none
  | '"' :: rest => some ([], rest)
  | '\\' :: 'u' :: a :: b :: c :: d :: rest => do
    consRead (← codePoint? [a, b, c, d]) (basicLine rest)
  | '\\' :: 'U' :: a :: b :: c :: d :: e :: f :: g :: h :: rest => do
    consRead (← codePoint? [a, b, c, d, e, f, g, h]) (basicLine rest)
  | '\\' :: c :: rest => do
    consRead (← escapeLetter? c) (basicLine rest)
  | c :: rest => if isBasicChar c then consRead c (basicLine rest) else none

/-- The inside of a literal string on one line, up to its closing quote. -/
def literalLine : Reader (List Char)
  | [] => none
  | '\'' :: rest => some ([], rest)
  | c :: rest => if isLiteralChar c then consRead c (literalLine rest) else none

/-- Where the reader stands within a basic string of several lines. -/
inductive Fold
  /-- In the text. -/
  | text
  /-- After a backslash and blanks, before the line end they must lead to. -/
  | beforeLineEnd
  /-- After that line end, where blanks and further line ends are dropped. -/
  | afterLineEnd

/-- The inside of a basic string of several lines, up to its closing quotes. A backslash at the end
of a line joins it to the next text. -/
def basicLines : Fold → Reader (List Char)
  | _, [] => none
  | .beforeLineEnd, '\n' :: rest => basicLines .afterLineEnd rest
  | .beforeLineEnd, '\r' :: '\n' :: rest => basicLines .afterLineEnd rest
  | .beforeLineEnd, c :: rest => if isSpace c then basicLines .beforeLineEnd rest else none
  | .afterLineEnd, '\n' :: rest => basicLines .afterLineEnd rest
  | .afterLineEnd, '\r' :: '\n' :: rest => basicLines .afterLineEnd rest
  | .afterLineEnd, ' ' :: rest => basicLines .afterLineEnd rest
  | .afterLineEnd, '\t' :: rest => basicLines .afterLineEnd rest
  | _, '"' :: '"' :: '"' :: '"' :: '"' :: rest => some (['"', '"'], rest)
  | _, '"' :: '"' :: '"' :: '"' :: rest => some (['"'], rest)
  | _, '"' :: '"' :: '"' :: rest => some ([], rest)
  | _, '"' :: rest => consRead '"' (basicLines .text rest)
  | _, '\\' :: 'u' :: a :: b :: c :: d :: rest => do
    consRead (← codePoint? [a, b, c, d]) (basicLines .text rest)
  | _, '\\' :: 'U' :: a :: b :: c :: d :: e :: f :: g :: h :: rest => do
    consRead (← codePoint? [a, b, c, d, e, f, g, h]) (basicLines .text rest)
  | _, '\\' :: '\n' :: rest => basicLines .afterLineEnd rest
  | _, '\\' :: c :: rest =>
    if isSpace c || c = '\r' then basicLines .beforeLineEnd (c :: rest)
    else do consRead (← escapeLetter? c) (basicLines .text rest)
  | _, '\n' :: rest => consRead '\n' (basicLines .text rest)
  | _, '\r' :: '\n' :: rest => consRead '\n' (basicLines .text rest)
  | _, c :: rest => if isBasicChar c then consRead c (basicLines .text rest) else none

/-- The inside of a literal string of several lines, up to its closing quotes. -/
def literalLines : Reader (List Char)
  | [] => none
  | '\'' :: '\'' :: '\'' :: '\'' :: '\'' :: rest => some (['\'', '\''], rest)
  | '\'' :: '\'' :: '\'' :: '\'' :: rest => some (['\''], rest)
  | '\'' :: '\'' :: '\'' :: rest => some ([], rest)
  | '\'' :: rest => consRead '\'' (literalLines rest)
  | '\n' :: rest => consRead '\n' (literalLines rest)
  | '\r' :: '\n' :: rest => consRead '\n' (literalLines rest)
  | c :: rest => if isLiteralChar c then consRead c (literalLines rest) else none

/-- What follows the line end right after opening quotes, if there is one. -/
def dropLineEnd : List Char → List Char
  | '\n' :: rest => rest
  | '\r' :: '\n' :: rest => rest
  | cs => cs

/-- A string on one line, quotes included. -/
def quotedLine : Reader (List Char)
  | '"' :: rest => basicLine rest
  | '\'' :: rest => literalLine rest
  | _ => none

/-- A string of any kind, quotes included. -/
def quotation : Reader (List Char)
  | '"' :: '"' :: '"' :: rest => basicLines .text (dropLineEnd rest)
  | '\'' :: '\'' :: '\'' :: rest => literalLines (dropLineEnd rest)
  | cs => quotedLine cs

end Courier.Toml
