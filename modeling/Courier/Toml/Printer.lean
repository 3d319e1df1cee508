import Courier.Toml.QuotationForm
import Courier.Toml.Value

/-!
# Writing documents

A table is written as its plain values, a line each, followed by its tables, each under a header
that spells the way from the top. A table that holds nothing but tables needs no header. Headers
come after an empty line unless they open the document. Keys are bare words.
-/

namespace Courier.Toml

mutual

/-- A value on a line. -/
def inlineText : Value → List Char
  | .string s => quote s.toList
  | .integer n => (toString n).toList
  | .float text => text.toList
  | .boolean b => (if b then "true" else "false").toList
  | .datetime text => text.toList
  | .array _ items => '[' :: itemsText items ++ [']']
  | .table _ entries => '{' :: entriesText entries ++ ['}']

/-- The items of a list, separated by commas. -/
def itemsText : List Value → List Char
  | [] => []
  | [v] => inlineText v
  | v :: rest => inlineText v ++ ',' :: ' ' :: itemsText rest

/-- The entries of a table between braces. -/
def entriesText : List (String × Value) → List Char
  | [] => []
  | [(key, v)] => ' ' :: key.toList ++ ' ' :: '=' :: ' ' :: inlineText v ++ [' ']
  | (key, v) :: rest =>
    ' ' :: key.toList ++ ' ' :: '=' :: ' ' :: inlineText v ++ ',' :: entriesText rest

end

/-- Whether a value is a table, or a list of tables that are written under headers. -/
def hasHeaders : Value → Bool
  | .table _ _ => true
  | .array true items => !items.isEmpty
  | _ => false

/-- The line of a plain value. -/
def pairLine (key : String) (v : Value) : List Char :=
  key.toList ++ ' ' :: '=' :: ' ' :: inlineText v ++ ['\n']

/-- The lines of the plain values of a table. -/
def plainLines (t : Table) : List Char :=
  t.flatMap fun (key, v) => if hasHeaders v then [] else pairLine key v

/-- A path of keys with points between them. -/
def pathText (path : List String) : List Char :=
  List.intercalate ['.'] (path.map String.toList)

mutual

/-- The blocks of the tables that a value stands for, each of them a header with its lines. -/
def blocksOfValue (path : List String) : Value → List (List Char)
  | .table _ t =>
    let lines := plainLines t
    (if lines.isEmpty then [] else [['['] ++ pathText path ++ [']', '\n'] ++ lines]) ++
      blocksOfEntries path t
  | .array true items => blocksOfItems path items
  | _ => []

/-- The blocks of the elements of a list of tables. -/
def blocksOfItems (path : List String) : List Value → List (List Char)
  | [] => []
  | .table _ t :: rest =>
    (['[', '['] ++ pathText path ++ [']', ']', '\n'] ++ plainLines t) ::
      (blocksOfEntries path t ++ blocksOfItems path rest)
  | _ :: rest => blocksOfItems path rest

/-- The blocks of the tables within a table. -/
def blocksOfEntries (path : List String) : List (String × Value) → List (List Char)
  | [] => []
  | (key, v) :: rest => blocksOfValue (path ++ [key]) v ++ blocksOfEntries path rest

end

/-- A document as text. -/
def write (t : Table) : String :=
  let lines := plainLines t
  let blocks := blocksOfEntries [] t
  String.ofList (List.intercalate ['\n'] (if lines.isEmpty then blocks else lines :: blocks))

end Courier.Toml
