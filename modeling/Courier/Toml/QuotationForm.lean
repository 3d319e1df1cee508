import Courier.Text.Numeral

/-!
# Writing quoted strings

A string is written in the first of four forms that can hold its characters as they are; a tab
counts as such a character although double quotes have an escape for it. A string that none of them
can hold is written between double quotes with as many escapes as it takes.
-/

namespace Courier.Toml

/-- The forms a string can be written in. -/
inductive QuotationForm
  /-- Between double quotes. -/
  | basic
  /-- Between single quotes. -/
  | literal
  /-- Between tripled double quotes. -/
  | basicLines
  /-- Between tripled single quotes. -/
  | literalLines
  deriving DecidableEq

/-- Control characters that every form refuses. The tab and the line feed are not among them. -/
def isForbiddenControl (c : Char) : Bool :=
  (c.toNat < 0x20 && c != '\t' && c != '\n') || c.toNat == 0x7F

/-- Characters that are escaped wherever double quotes surround them. -/
def isEscaped (c : Char) : Bool :=
  c == '\\' || c == '\t' || isForbiddenControl c

/-- Whether a text has the same character three times in a row. -/
def hasTriple (q : Char) : List Char → Bool
  | a :: b :: c :: rest => (a == q && b == q && c == q) || hasTriple q (b :: c :: rest)
  | _ => false

namespace QuotationForm

/-- Whether a form can hold a text. -/
def holds (cs : List Char) : QuotationForm → Bool
  | basic => cs.all fun c => c != '"' && c != '\\' && c != '\n' && !isForbiddenControl c
  | literal => cs.all fun c => c != '\'' && c != '\n' && !isForbiddenControl c
  | basicLines => cs.all (fun c => c != '\\' && !isForbiddenControl c) && !hasTriple '"' cs
  | literalLines => cs.all (fun c => !isForbiddenControl c) && !hasTriple '\'' cs

/-- The form of a text: the first that can hold it, else one with escapes. -/
def of (cs : List Char) : QuotationForm :=
  match [basic, literal, basicLines, literalLines].find? (holds cs) with
  | some form => form
  | none => if '\n' ∈ cs then basicLines else basic

end QuotationForm

/-- A character that may not stand for itself between double quotes, as an escape. -/
def escapeChar (c : Char) : List Char :=
  if c = '\x08' then ['\\', 'b']
  else if c = '\t' then ['\\', 't']
  else if c = '\n' then ['\\', 'n']
  else if c = '\x0c' then ['\\', 'f']
  else if c = '\r' then ['\\', 'r']
  else if c = '"' || c = '\\' then ['\\', c]
  else ['\\', 'u'] ++ Text.paddedHex 4 c.toNat

/-- The inside of a string on one line between double quotes. -/
def escapeLine (cs : List Char) : List Char :=
  cs.flatMap fun c =>
    if c = '"' || c = '\n' || isEscaped c then escapeChar c else [c]

/-- The inside of a string on several lines between double quotes, after `run` double quotes in a
row. Every third of them is escaped. -/
def escapeLines (run : Nat) : List Char → List Char
  | [] => []
  | c :: cs =>
    if c = '"' then
      if run = 2 then '\\' :: '"' :: escapeLines 0 cs else '"' :: escapeLines (run + 1) cs
    else if isEscaped c then escapeChar c ++ escapeLines 0 cs
    else c :: escapeLines 0 cs

/-- A text between tripled quotes. A text with line ends starts on a line of its own. -/
def betweenTriples (q : Char) (cs inside : List Char) : List Char :=
  [q, q, q] ++ (if '\n' ∈ cs then ['\n'] else []) ++ inside ++ [q, q, q]

/-- A text as a quoted string. -/
def quote (cs : List Char) : List Char :=
  match QuotationForm.of cs with
  | .basic => ['"'] ++ escapeLine cs ++ ['"']
  | .literal => ['\''] ++ cs ++ ['\'']
  | .basicLines => betweenTriples '"' cs (escapeLines 0 cs)
  | .literalLines => betweenTriples '\'' cs cs

end Courier.Toml
