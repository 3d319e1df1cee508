import Courier.Files.Path
import Courier.Files.Tree

/-!
# Working with files

A disk is a tree of files with a current folder. Paths are followed step by step: every step but the
last must lead to a folder, and a path that ends in a slash or a dot must end at one. An operation
that fails leaves the disk as it is, apart from folders already made on the way to another.
-/

namespace Courier

/-- Why an operation on files failed. -/
inductive FileError
  | notFound
  | alreadyExists
  | notFolder
  | isFolder
  | nameTooLong
  | nulInPath
  | notText
  deriving DecidableEq

/-- The words for a failed operation, with the system's number where it has one. -/
def FileError.message : FileError → String
  | notFound => "No such file or directory (os error 2)"
  | alreadyExists => "File exists (os error 17)"
  | notFolder => "Not a directory (os error 20)"
  | isFolder => "Is a directory (os error 21)"
  | nameTooLong => "File name too long (os error 36)"
  | nulInPath => "file name contained an unexpected NUL byte"
  | notText => "stream did not contain valid UTF-8"

/-- A tree of files and the folder that relative paths start from. -/
structure Disk where
  root : FileTree
  current : List String

namespace Disk

/-- The path of the current folder. -/
def currentPath (d : Disk) : Path :=
  ⟨"/" ++ String.intercalate "/" d.current⟩

/-- The number of bytes a name may have. -/
def maxNameLength : Nat := 255

/-- The number of bytes a path may have. -/
def maxPathLength : Nat := 4095

/-- Where a path ends once its last piece is set apart. -/
inductive Ending
  /-- At the folder that the steps lead to. -/
  | here
  /-- At a name in that folder, with or without a slash after it. -/
  | name (name : String) (slash : Bool)

/-- The folders to step through and the ending of a path. -/
def route (p : Path) : List String × Ending :=
  let pieces := Path.splitPieces p.text.toList
  let steps := p.steps
  match (pieces.reverse.dropWhile List.isEmpty).head?, steps.getLast? with
  | some ['.'], _ | none, _ | _, none => (steps, .here)
  | some _, some last =>
    if last = ".." then (steps, .here)
    else (steps.dropLast, .name last (pieces.getLast? == some []))

/-- One step from a folder. Two dots lead back, and stay at the root. -/
def step (d : Disk) (place : List String) (name : String) : Except FileError (List String) :=
  match d.root.at? place with
  | none => .error .notFound
  | some tree =>
    if !tree.isFolder then .error .notFolder
    else if name = ".." then .ok place.dropLast
    else if name.utf8ByteSize > maxNameLength then .error .nameTooLong
    else if (tree.child? name).isNone then .error .notFound
    else .ok (place ++ [name])

/-- The folder that steps lead to. -/
def enter (d : Disk) (place : List String) (steps : List String) :
    Except FileError (List String) := do
  let place ← steps.foldlM d.step place
  match d.root.at? place with
  | none => .error .notFound
  | some tree => if tree.isFolder then .ok place else .error .notFolder

/-- Follows a path up to its ending. -/
def follow (d : Disk) (p : Path) : Except FileError (List String × Ending) := do
  if '\x00' ∈ p.text.toList then throw .nulInPath
  if p.text.isEmpty then throw .notFound
  if p.text.utf8ByteSize > maxPathLength then throw .nameTooLong
  let (steps, ending) := route p
  return (← d.enter (if p.isAbsolute then [] else d.current) steps, ending)

/-- What a path leads to. -/
def find (d : Disk) (p : Path) : Except FileError FileTree := do
  let (place, ending) ← d.follow p
  match ending with
  | .here =>
    match d.root.at? place with
    | some tree => return tree
    | none => throw .notFound
  | .name name slash =>
    if name.utf8ByteSize > maxNameLength then throw .nameTooLong
    match d.root.at? (place ++ [name]) with
    | none => throw .notFound
    | some tree => if slash && !tree.isFolder then throw .notFolder else return tree

/-- Whether a path leads anywhere. -/
def exists? (d : Disk) (p : Path) : Bool :=
  (d.find p).isOk

/-- Whether a path leads to a folder. -/
def isFolder (d : Disk) (p : Path) : Bool :=
  match d.find p with
  | .ok tree => tree.isFolder
  | .error _ => false

/-- The text of a file. -/
def readText (d : Disk) (p : Path) : Except FileError String := do
  match ← d.find p with
  | .folder _ => throw .isFolder
  | .file content =>
    match String.fromUTF8? content with
    | some s => return s
    | none => throw .notText

/-- The place of a file to be written, which may exist already. -/
def placeOfFile (d : Disk) (p : Path) : Except FileError (List String) := do
  match ← d.follow p with
  | (_, .here) => throw .isFolder
  | (_, .name _ true) => throw .isFolder
  | (place, .name name false) =>
    if name.utf8ByteSize > maxNameLength then throw .nameTooLong
    match d.root.at? (place ++ [name]) with
    | some (.folder _) => throw .isFolder
    | _ => return place ++ [name]

/-- Writes a file, over the one that is there. -/
def write (d : Disk) (p : Path) (content : ByteArray) : Except FileError Disk := do
  return { d with root := d.root.put (← d.placeOfFile p) (.file content) }

/-- Appends to a file, which is made if it is missing. -/
def append (d : Disk) (p : Path) (content : ByteArray) : Except FileError Disk := do
  let place ← d.placeOfFile p
  let old := (d.root.bytesAt? place).getD ByteArray.empty
  return { d with root := d.root.put place (.file (old ++ content)) }

/-- Makes a folder in one that exists. -/
def makeFolder (d : Disk) (p : Path) : Except FileError Disk := do
  match ← d.follow p with
  | (_, .here) => throw .alreadyExists
  | (place, .name name _) =>
    if name.utf8ByteSize > maxNameLength then throw .nameTooLong
    if (d.root.at? (place ++ [name])).isSome then throw .alreadyExists
    return { d with root := d.root.put (place ++ [name]) .empty }

/-- Makes the first of some folders, where the others, nearest first, are those on the way to it.
Missing ones among these are made as well, and stay made if a later one fails. -/
def makeFolderVia (d : Disk) (p : Path) : List Path → Disk × Except FileError Unit
  | [] => settle d
  | nearest :: farther =>
    match d.makeFolder p with
    | .error .notFound =>
      match d.makeFolderVia nearest farther with
      | (d, .ok ()) => settle d
      | failed => failed
    | _ => settle d
where
  /-- Makes the folder unless it is there. -/
  settle (d : Disk) : Disk × Except FileError Unit :=
    match d.makeFolder p with
    | .ok d => (d, .ok ())
    | .error error =>
      (d, if error = .alreadyExists && d.isFolder p then .ok () else .error error)

/-- Makes a folder and all that are missing on the way to it. The empty path needs none. -/
def makeFolders (d : Disk) (p : Path) : Disk × Except FileError Unit :=
  if p.steps.isEmpty then (d, .ok ()) else d.makeFolderVia p p.ancestors

/-- Removes a file. -/
def removeFile (d : Disk) (p : Path) : Except FileError Disk := do
  match ← d.follow p with
  | (_, .here) => throw .isFolder
  | (place, .name name slash) =>
    if name.utf8ByteSize > maxNameLength then throw .nameTooLong
    match d.root.at? (place ++ [name]) with
    | none => throw .notFound
    | some (.folder _) => throw .isFolder
    | some (.file _) =>
      if slash then throw .notFolder
      return { d with root := d.root.remove (place ++ [name]) }

/-- Moves a file to another path, over a file that is there. -/
def moveFile (d : Disk) (source target : Path) : Except FileError Disk := do
  let sourcePlace ← d.placeOfFile source
  match d.root.at? sourcePlace with
  | some (.file content) =>
    let targetPlace ← d.placeOfFile target
    return { d with root := (d.root.remove sourcePlace).put targetPlace (.file content) }
  | _ => throw .notFound

/-- The extension of a file that is not complete yet. -/
def draftExtension : String := "toml.tmp"

/-- The path of the draft of a file. -/
def draftPath (p : Path) : Path :=
  p.withExtension draftExtension

/-- Writes a file as a draft beside it, which then takes its place. A failure names the path it
concerns. -/
def replace (d : Disk) (p : Path) (content : String) : Disk × Except (Path × FileError) Unit :=
  match d.write (draftPath p) content.toUTF8 with
  | .error error => (d, .error (draftPath p, error))
  | .ok drafted =>
    match drafted.moveFile (draftPath p) p with
    | .error error => (drafted, .error (p, error))
    | .ok replaced => (replaced, .ok ())

end Disk

end Courier
