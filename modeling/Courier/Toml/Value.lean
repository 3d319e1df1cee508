/-!
# TOML values

A document is a table: keys with values, in order of appearance. A table remembers how it was
written, since that decides whether later lines may still add to it.
-/

namespace Courier.Toml

/-- How a table came to be. -/
inductive Origin
  /-- Written between braces. -/
  | braces
  /-- Opened by a header of its own, or the top of the document. -/
  | header
  /-- Implied by a header further down. -/
  | implied
  /-- Implied by a dotted key, within braces or outside. -/
  | dotted (withinBraces : Bool)
  deriving DecidableEq

namespace Origin

/-- Whether the table has not been opened itself, only passed through. -/
def isImplicit : Origin → Bool
  | .implied | .dotted _ => true
  | .braces | .header => false

/-- Whether the table was made by a dotted key. -/
def isDotted : Origin → Bool
  | .dotted _ => true
  | _ => false

/-- Whether the table stands between braces as a whole or in part. -/
def isInline : Origin → Bool
  | .braces | .dotted true => true
  | _ => false

end Origin

/-- The greatest integer of a document. The least one is a unit farther from zero. -/
def maxInteger : Nat := 9223372036854775807

/-- A value of a document. -/
inductive Value
  | string (s : String)
  | integer (n : Int)
  /-- A floating-point number, kept as written. -/
  | float (text : String)
  | boolean (b : Bool)
  /-- A date, a time or both, in their usual form. -/
  | datetime (text : String)
  /-- A list; `ofHeaders` if its elements are tables under headers of their own. -/
  | array (ofHeaders : Bool) (items : List Value)
  | table (origin : Origin) (entries : List (String × Value))

/-- Keys and values in order of appearance. -/
abbrev Table := List (String × Value)

namespace Table

/-- The value of a key. -/
def get? (t : Table) (key : String) : Option Value :=
  t.lookup key

/-- Gives a key that is present another value in the same place. -/
def replace (t : Table) (key : String) (value : Value) : Table :=
  t.map fun entry => if entry.1 = key then (key, value) else entry

/-- Removes a key. -/
def erase (t : Table) (key : String) : Table :=
  t.filter fun entry => entry.1 ≠ key

end Table

end Courier.Toml
