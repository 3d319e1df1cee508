import Courier.Files.Disk
import Courier.Stored.Field
import Courier.Toml.Document

/-!
# Configuration

What the user can set in the configuration file. Every section and every setting may be missing and
then keeps its default.
-/

namespace Courier

/-- What to log, and where to. -/
structure LogSettings where
  level : String := "info"
  /-- Where events go; without it, to the terminal. -/
  file : Option Path := none
  deriving DecidableEq

/-- All that can be configured. -/
structure Config where
  logging : LogSettings := {}
  /-- Where data is kept instead of the usual place. -/
  dataFolder : Option Path := none
  /-- Whether notifications are shown at all. -/
  notifications : Bool := true
  deriving DecidableEq

namespace Config

open Toml (Value Table)
open Stored (recordTable? optional text? flag?)

/-- The settings of a section. A list in the place of the section must hold all of them. -/
def settings? (names : List String) : Option Value → Option Table
  | none => some []
  | some (.array ofHeaders items) =>
    if items.length < names.length then none
    else recordTable? .direct names (.array ofHeaders items)
  | some v => recordTable? .direct names v

/-- The configuration that a document describes. -/
def ofTable? (t : Table) : Option Config := do
  let logging ← settings? ["level", "file"] (t.get? "logging")
  let storage ← settings? ["data_dir"] (t.get? "storage")
  let notifications ← settings? ["enabled"] (t.get? "notifications")
  let level ← optional text? (logging.get? "level")
  let file ← optional text? (logging.get? "file")
  let dataFolder ← optional text? (storage.get? "data_dir")
  let enabled ← optional flag? (notifications.get? "enabled")
  let default : Config := {}
  return {
    logging := { level := level.getD default.logging.level, file := file.map Path.mk }
    dataFolder := dataFolder.map Path.mk
    notifications := enabled.getD default.notifications }

/-- Why there is no configuration. -/
inductive Failure
  | unreadable (p : Path) (error : FileError)
  | malformed (p : Path)
  deriving DecidableEq

/-- The words for a configuration that cannot be used. -/
def Failure.message : Failure → String
  | unreadable p error => "failed to read config file at " ++ p.text ++ ": " ++ error.message
  | malformed p => "failed to parse config file at " ++ p.text ++ ": " ++ Toml.malformed

/-- The words for what lies behind it. -/
def Failure.cause : Failure → String
  | unreadable _ error => error.message
  | malformed _ => Toml.malformed

/-- The configuration file where none is named. -/
def defaultPath : Path := ⟨"config.toml"⟩

/-- The configuration in a file. Where there is no file everything has its default. -/
def load (d : Disk) (path : Option Path) : Except Failure Config :=
  let p := path.getD defaultPath
  if !d.exists? p then .ok {}
  else match d.readText p with
    | .error error => .error (.unreadable p error)
    | .ok text =>
      match (Toml.read? text).bind ofTable? with
      | some config => .ok config
      | none => .error (.malformed p)

end Config

end Courier
