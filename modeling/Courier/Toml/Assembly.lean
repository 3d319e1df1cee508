import Courier.Toml.Value

/-!
# Putting tables together

A table grows by one pair at a time. A dotted key opens the tables on its way, or goes through
tables that no header and no braces have opened; a header does the same for the keys before its
last. A key is never given twice, and a table is opened at most once.
-/

namespace Courier.Toml

/-- A dotted key: the tables it goes through and the key in the last of them. -/
structure KeyPath where
  through : List String
  key : String
  deriving DecidableEq

/-- A key with its value, as written on a line or between braces. -/
structure Pair where
  path : KeyPath
  value : Value

namespace Table

/-- Changes the table at the end of a path by `change`, which is told how that table came to be.
Tables missing on the way are added as `fresh`. With `strict`, tables that have been opened before
may not be passed. A list of tables under headers is passed through its last element. -/
def descend (fresh : Origin) (strict : Bool) (change : Origin → Table → Option Table) :
    Origin → List String → Table → Option Table
  | origin, [], t => change origin t
  | _, key :: path, t =>
    match t.get? key with
    | none => do
      let sub ← descend fresh strict change fresh path []
      return t ++ [(key, .table fresh sub)]
    | some (.table origin sub) =>
      if origin = .braces || (strict && !origin.isImplicit) then none
      else do
        let sub ← descend fresh strict change origin path sub
        return t.replace key (.table origin sub)
    | some (.array true items) =>
      match items.getLast? with
      | some (.table origin sub) => do
        let sub ← descend fresh strict change origin path sub
        return t.replace key (.array true (items.dropLast ++ [.table origin sub]))
      | _ => none
    | some _ => none

/-- Adds a pair to a table that came to be as `origin` says. The table that takes the pair is made
by dotted keys exactly if the pair's own key is dotted. -/
def insert (origin : Origin) (t : Table) (pair : Pair) : Option Table :=
  descend (.dotted origin.isInline) true (fun origin t =>
      if origin.isDotted = pair.path.through.isEmpty then none
      else match t.get? pair.path.key with
        | none => some (t ++ [(pair.path.key, pair.value)])
        | some _ => none)
    origin pair.path.through t

/-- Adds pairs to a table, one after the other. -/
def insertAll (origin : Origin) (t : Table) (pairs : List Pair) : Option Table :=
  pairs.foldlM (insert origin) t

/-- Opens the table that a header names and fills it. It must be new, or implied by headers
only. -/
def openTable (t : Table) (path : KeyPath) (pairs : List Pair) : Option Table :=
  descend .implied false (fun _ t =>
      match t.get? path.key with
      | none => do return t ++ [(path.key, .table .header (← insertAll .header [] pairs))]
      | some (.table .implied sub) => do
        return t.erase path.key ++ [(path.key, .table .header (← insertAll .header sub pairs))]
      | some _ => none)
    .header path.through t

/-- Adds a filled element to the list of tables that a doubled header names. -/
def openElement (t : Table) (path : KeyPath) (pairs : List Pair) : Option Table :=
  descend .implied false (fun _ t => do
      let element := Value.table .header (← insertAll .header [] pairs)
      match t.get? path.key with
      | none => return t ++ [(path.key, .array true [element])]
      | some (.array true items) => return t.replace path.key (.array true (items ++ [element]))
      | some _ => none)
    .header path.through t

end Table

end Courier.Toml
