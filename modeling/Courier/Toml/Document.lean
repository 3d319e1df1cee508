import Courier.Toml.Grammar

/-!
# Documents

The lines of a document fall into sections: the pairs before the first header, and each header with
the pairs that follow it. The sections are put together in their order.
-/

namespace Courier.Toml

/-- What stands at the head of a section. -/
inductive Header
  | table (path : KeyPath)
  | element (path : KeyPath)
  deriving DecidableEq

/-- A header with the pairs up to the next one. -/
structure Section where
  header : Header
  pairs : List Pair

/-- Divides lines into the pairs before the first header and the sections. -/
def sections : List Line → List Pair × List Section
  | [] => ([], [])
  | line :: rest =>
    let (pairs, later) := sections rest
    match line with
    | .blank => (pairs, later)
    | .pair p => (p :: pairs, later)
    | .table path => ([], ⟨.table path, pairs⟩ :: later)
    | .element path => ([], ⟨.element path, pairs⟩ :: later)

/-- Adds a section to the top table. -/
def Table.addSection (t : Table) (s : Section) : Option Table :=
  match s.header with
  | .table path => t.openTable path s.pairs
  | .element path => t.openElement path s.pairs

/-- The table that the pairs before the first header and the sections make up. -/
def assemble (pairs : List Pair) (later : List Section) : Option Table := do
  later.foldlM Table.addSection (← Table.insertAll .header [] pairs)

/-- What follows a byte order mark. -/
def dropByteOrderMark : List Char → List Char
  | '\ufeff' :: cs => cs
  | cs => cs

/-- The words for a text that is no document, or not the one that is wanted. Where it goes wrong is
not told. -/
def malformed : String := "TOML parse error"

/-- Reads a document. -/
def read? (s : String) : Option Table := do
  let lines ← readAll line (dropByteOrderMark s.toList)
  let (pairs, later) := sections lines
  assemble pairs later

end Courier.Toml
