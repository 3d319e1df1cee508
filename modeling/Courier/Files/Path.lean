/-!
# Paths

A path is a text whose pieces stand between slashes. Empty pieces and single dots count for
nothing, so a path has a last name even with slashes and dots after it. Two dots are a piece of
their own that is no name.
-/

namespace Courier

/-- A path as it is written. -/
structure Path where
  text : String
  deriving DecidableEq, Inhabited

namespace Path

/-- The pieces of a text between its slashes; there is one more of them than slashes. -/
def splitPieces : List Char → List (List Char)
  | [] => [[]]
  | c :: cs =>
    if c = '/' then [] :: splitPieces cs
    else match splitPieces cs with
      | piece :: pieces => (c :: piece) :: pieces
      | [] => [[c]]

/-- Whether a piece counts for nothing. -/
def isVoid (piece : List Char) : Bool :=
  piece = [] || piece = ['.']

/-- Pieces without those at the end that count for nothing. -/
def dropVoidEnd (pieces : List (List Char)) : List (List Char) :=
  (pieces.reverse.dropWhile isVoid).reverse

/-- Whether the path starts at the root. -/
def isAbsolute (p : Path) : Bool :=
  p.text.toList.head? == some '/'

/-- The pieces that count, in order. -/
def steps (p : Path) : List String :=
  (splitPieces p.text.toList).filterMap fun piece =>
    if isVoid piece then none else some (String.ofList piece)

/-- Another path seen from this one: itself if it is absolute, else joined by a single slash. -/
def join (p q : Path) : Path :=
  if q.isAbsolute then q
  else if p.text.isEmpty || p.text.toList.getLast? = some '/' then ⟨p.text ++ q.text⟩
  else ⟨p.text ++ "/" ++ q.text⟩

/-- A name within the folder that the path leads to. -/
def child (p : Path) (name : String) : Path :=
  p.join ⟨name⟩

/-- The text up to the last name, and the last name. -/
def splitName? (p : Path) : Option (List Char × List Char) :=
  match (dropVoidEnd (splitPieces p.text.toList)).reverse with
  | [] => none
  | name :: before =>
    if name = ['.', '.'] then none
    else some (before.reverse.flatMap (· ++ ['/']), name)

/-- The last name of the path. -/
def fileName? (p : Path) : Option String :=
  p.splitName?.map fun (_, name) => String.ofList name

/-- A name in two parts around its last point. A point at the very start does not count. -/
def splitExtension (name : List Char) : List Char × Option (List Char) :=
  let after := (name.reverse.takeWhile (· ≠ '.')).reverse
  let before := name.take (name.length - after.length - 1)
  if after.length < name.length && !before.isEmpty then (before, some after) else (name, none)

/-- What follows the last point of the last name. -/
def extension? (p : Path) : Option String :=
  p.splitName?.bind fun (_, name) => (splitExtension name).2.map String.ofList

/-- The path with another extension on its last name; slashes and dots after the name are lost. -/
def withExtension (p : Path) (extension : String) : Path :=
  match p.splitName? with
  | none => p
  | some (before, name) =>
    ⟨String.ofList (before ++ (splitExtension name).1 ++ '.' :: extension.toList)⟩

/-- The folders on the way to the end of the path, from the nearest to the farthest. The root and
the empty path are not among them. -/
def ancestors (p : Path) : List Path :=
  let start := if p.isAbsolute then "/" else ""
  let steps := p.steps
  (List.range (steps.length - 1)).reverse.map fun i =>
    ⟨start ++ String.intercalate "/" (steps.take (i + 1))⟩

end Path

end Courier
