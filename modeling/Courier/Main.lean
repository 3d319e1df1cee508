import Courier.Command.Program
import Std.Time.DateTime.Timestamp

/-!
# The command line

The outer layer of the program. What a run can touch is read from the system into a disk, the run is
computed, and what it changed on the disk is written back. Nothing is decided here.
-/

namespace Courier.CommandLine

open IO.FS (createDirAll readBinFile removeDirAll removeFile rename writeBinFile)

/-- The path of a place. -/
def pathOf (place : List String) : String :=
  "/" ++ String.intercalate "/" place

/-- The path of a place as the system takes it. -/
def systemPath (place : List String) := do
  return (← IO.currentDir).join (pathOf place)

/-- The place that a path leads to, by its text alone. -/
def placeOf (current : List String) (p : Path) : List String :=
  p.steps.foldl (fun place step => if step = ".." then place.dropLast else place ++ [step])
    (if p.isAbsolute then [] else current)

/-- Reads what is at a place of the system, with all that is in it. -/
partial def readTree (place : List String) : IO (Option FileTree) := do
  match ← (← systemPath place).metadata.toBaseIO with
  | .error _ => return none
  | .ok entry =>
    match entry.type with
    | .dir =>
      let entries ← (← systemPath place).readDir
      let trees ← entries.toList.mapM fun entry => do
        return (entry.fileName, ← readTree (place ++ [entry.fileName]))
      return some (.folder (trees.filterMap fun (name, tree) => tree.map (name, ·)))
    | _ =>
      match ← (readBinFile (pathOf place)).toBaseIO with
      | .ok content => return some (.file content)
      | .error _ => return none

/-- Puts the folders on the way to a place, and the place itself if it is one, into a tree. -/
def reach (tree : FileTree) (place : List String) : IO FileTree := do
  let mut tree := tree
  for i in List.range (place.length + 1) do
    if (tree.at? (place.take i)).isNone && (← (← systemPath (place.take i)).isDir) then
      tree := tree.put (place.take i) .empty
  return tree

/-- Reads what is at a place into a tree, below the folders that lead to it. -/
def readInto (tree : FileTree) (place : List String) : IO FileTree := do
  let tree ← reach tree place.dropLast
  match ← readTree place with
  | some sub => return tree.put place sub
  | none => return tree

/-- Writes a file as a draft beside it, which then takes its place. -/
def writeFile (place : List String) (content : ByteArray) : IO Unit := do
  writeBinFile (pathOf place ++ ".part") content
  rename (pathOf place ++ ".part") (pathOf place)

/-- Turns what is at a place of the system from one tree into another. -/
partial def update (place : List String) : Option FileTree → Option FileTree → IO Unit
  | old, some (.folder entries) => do
    let before := match old with
      | some (.folder entries) => entries
      | _ => []
    unless old.any FileTree.isFolder do createDirAll (pathOf place)
    for (name, sub) in entries do update (place ++ [name]) (before.lookup name) (some sub)
    for (name, sub) in before do
      if (entries.lookup name).isNone then update (place ++ [name]) (some sub) none
  | some (.file old), some (.file content) => do
    unless old == content do writeFile place content
  | _, some (.file content) => writeFile place content
  | some (.file _), none => removeFile (pathOf place)
  | some (.folder _), none => removeDirAll (pathOf place)
  | none, none => return ()

/-- The bits that some bytes make up. -/
def bits (bytes : ByteArray) : Nat :=
  bytes.foldl (fun n b => n * 256 + b.toNat) 0

/-- The time of the system. -/
def time : IO (Nat → Instant) := do
  let nanos := (← Std.Time.Timestamp.now).toNanosecondsSinceUnixEpoch.toInt.toNat
  return fun _ => Instant.ofEpoch (nanos / nanosPerSecond) (nanos % nanosPerSecond)

/-- Random bits, enough for a few identifiers. -/
def random : IO (Nat → Nat) := do
  let bytes ← IO.getRandomBytes 256
  return fun n => bits (bytes.extract (16 * n) (16 * n + 16))

/-- The host of a run with these words. -/
def host (environment : Program.Environment) (words : List String) : IO Host := do
  let here := placeOf [] ⟨(← IO.currentDir).toString⟩
  let mut disk : Disk := { root := ← reach .empty here, current := here }
  for _ in [0, 1] do
    for p in Program.paths environment disk words do
      disk := { disk with root := ← readInto disk.root (placeOf here p) }
  return { disk, clock := ← time, random := ← random }

/-- Runs the program and tells its exit status. -/
def run (words : List String) : IO UInt32 := do
  let environment : Program.Environment :=
    { surroundings := { xdgDataHome := ← IO.getEnv "XDG_DATA_HOME", home := ← IO.getEnv "HOME" }
      logFilter := ← IO.getEnv "RUST_LOG" }
  let before ← host environment words
  let (ending, after) := Program.run environment words before
  update [] (some before.disk.root) (some after.disk.root)
  IO.print (after.console ++ after.output)
  IO.eprint after.diagnostics
  match ending with
  | .done => pure ()
  | .refused .displayHelp => IO.println Command.LineError.displayHelp.message
  | .refused error => IO.eprintln ("error: " ++ error.message)
  | .failed report => IO.eprintln ("Error: " ++ report)
  return ending.status.toUInt32

end Courier.CommandLine

def main (words : List String) : IO UInt32 :=
  Courier.CommandLine.run words
