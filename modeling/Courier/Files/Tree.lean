/-!
# Trees of files

What a disk holds: folders of named entries and files of bytes. A place in a tree is the list of
names that leads to it from the top.
-/

namespace Courier

/-- A file with its bytes, or a folder with its entries. -/
inductive FileTree
  | file (content : ByteArray)
  | folder (entries : List (String × FileTree))

namespace FileTree

/-- An empty folder. -/
def empty : FileTree :=
  folder []

/-- Whether an entry is a folder. -/
def isFolder : FileTree → Bool
  | folder _ => true
  | file _ => false

/-- The entry of a folder under a name. -/
def child? (name : String) : FileTree → Option FileTree
  | folder entries => entries.lookup name
  | file _ => none

/-- What stands at a place. -/
def at? (tree : FileTree) : List String → Option FileTree
  | [] => some tree
  | name :: place => (tree.child? name).bind fun sub => sub.at? place

/-- Gives a name an entry, in the place of the one it has or as the last. -/
def setEntry (name : String) (new : FileTree) :
    List (String × FileTree) → List (String × FileTree)
  | [] => [(name, new)]
  | entry :: rest =>
    if entry.1 = name then (name, new) :: rest else entry :: setEntry name new rest

/-- Puts an entry at a place. Nothing happens where the folder for it is missing. -/
def put (tree : FileTree) (place : List String) (new : FileTree) : FileTree :=
  match place, tree with
  | [], tree => tree
  | _, file content => file content
  | [name], folder entries => folder (setEntry name new entries)
  | name :: place, folder entries =>
    match entries.lookup name with
    | some sub => folder (setEntry name (put sub place new) entries)
    | none => folder entries

/-- Removes what stands at a place. -/
def remove (tree : FileTree) (place : List String) : FileTree :=
  match place, tree with
  | [], tree => tree
  | _, file content => file content
  | [name], folder entries => folder (entries.filter fun entry => entry.1 ≠ name)
  | name :: place, folder entries =>
    match entries.lookup name with
    | some sub => folder (setEntry name (remove sub place) entries)
    | none => folder entries

/-- The bytes of the file at a place. -/
def bytesAt? (tree : FileTree) (place : List String) : Option ByteArray :=
  match tree.at? place with
  | some (file content) => some content
  | _ => none

end FileTree

end Courier
