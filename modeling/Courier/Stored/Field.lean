import Courier.Time.Rfc3339
import Courier.Toml.Value

/-!
# Fields of stored records

A stored record is a table whose keys are its fields. Keys that it does not know are passed over. A
list may stand in for the table: it holds the fields in their order.

Where the kind of a record is known only after its table has been looked at, its values are set
aside and read later. Values set aside are read more strictly in two corners: a list may not be
longer than the record, and what follows a word that is a key may not be an empty list.
-/

namespace Courier.Stored

open Toml (Value Table)

/-- When a value is read. -/
inductive Reading
  /-- Where it stands. -/
  | direct
  /-- After it was set aside. -/
  | setAside
  deriving DecidableEq

/-- The table of a record with these fields. A date stands for a table without any of them. -/
def recordTable? (reading : Reading) (fields : List String) : Value → Option Table
  | .table _ t => some t
  | .array _ items =>
    if reading = .setAside && fields.length < items.length then none else some (fields.zip items)
  | .datetime _ => some []
  | _ => none

/-- A text. -/
def text? : Value → Option String
  | .string s => some s
  | _ => none

/-- A truth value. -/
def flag? : Value → Option Bool
  | .boolean b => some b
  | _ => none

/-- A number of 32 bits. -/
def word32? : Value → Option UInt32
  | .integer n => if 0 ≤ n ∧ n < UInt32.size then some (UInt32.ofNat n.toNat) else none
  | _ => none

/-- A number of 64 bits. -/
def word64? : Value → Option UInt64
  | .integer n => if 0 ≤ n ∧ n < UInt64.size then some (UInt64.ofNat n.toNat) else none
  | _ => none

/-- A timestamp, always a text; a date of the format itself is not one. -/
def instant? : Value → Option Instant
  | .string s => Timestamp.read? s
  | _ => none

/-- Whether a value may follow a word that is used as a key. -/
def isEmptyMark (reading : Reading) : Value → Bool
  | .table _ [] => true
  | .array _ [] => reading = .direct
  | _ => false

/-- One of a set of words, given as a text or as the only key of a table, with an empty value. -/
def word? (reading : Reading) (ofWord? : String → Option α) : Value → Option α
  | .string s => ofWord? s
  | .table _ [(key, mark)] => if isEmptyMark reading mark then ofWord? key else none
  | _ => none

/-- A field that must be present. -/
def required (read? : Value → Option α) (field : Option Value) : Option α :=
  field.bind read?

/-- A field that may be missing. -/
def optional (read? : Value → Option α) : Option Value → Option (Option α)
  | none => some none
  | some v => (read? v).map some

/-- A field that has a value of its own when it is missing. -/
def withDefault (default : α) (read? : Value → Option α) : Option Value → Option α
  | none => some default
  | some v => read? v

/-- The entry of a field that is written only if it is set. -/
def entry? (key : String) (write : α → Value) : Option α → Table
  | none => []
  | some a => [(key, write a)]

/-- A timestamp as a value. -/
def ofInstant (t : Instant) : Value :=
  .string (Timestamp.write t)

/-- A table of the document's own. -/
def ofTable (t : Table) : Value :=
  .table .header t

end Courier.Stored
