import Courier.Command.Execute
import Courier.Command.Line
import Courier.Config.Basic
import Courier.Log.Filter
import Courier.Log.Line

/-!
# The program

A run of the program: its words are read, the configuration is loaded, the log and the data folder
are opened, and the command is carried out. Afterwards the events that the filter lets through are
written to the log file, if one is configured, or else to the diagnostics.
-/

namespace Courier

/-- Why the program could not start its work. -/
inductive SetupFailure
  | config (failure : Config.Failure)
  | logFile (p : Path) (error : FileError)
  | noDataFolder
  | folder (p : Path) (error : FileError)
  deriving DecidableEq

/-- The words for a failed start. -/
def SetupFailure.message : SetupFailure → String
  | config failure => failure.message
  | logFile p error => "failed to open log file at " ++ p.text ++ ": " ++ error.message
  | noDataFolder =>
    "storage path resolution failed: unable to resolve data directory "
      ++ "(XDG_DATA_HOME/platform data dir)"
  | folder p error => "failed to create storage directory at " ++ p.text ++ ": " ++ error.message

/-- The words for what lies behind a failed start, if anything does. -/
def SetupFailure.cause? : SetupFailure → Option String
  | config failure => some failure.cause
  | logFile _ error => some error.message
  | noDataFolder => none
  | folder _ error => some error.message

namespace Program

/-- What the surroundings of a run say. -/
structure Environment where
  surroundings : Layout.Surroundings := {}
  /-- A log filter that comes before the configured one. -/
  logFilter : Option String := none

/-- How a run ends. A run that failed reports why. -/
inductive Ending
  | done
  | refused (error : Command.LineError)
  | failed (report : String)
  deriving DecidableEq

/-- The words for a failure, and for what lies behind it on lines that are set in. -/
def report (message : String) : Option String → String
  | none => message
  | some cause =>
    message ++ "\n\nCaused by:\n    " ++ String.intercalate "\n    " (cause.splitOn "\n")

/-- The end of a run that could not start its work. -/
def Ending.ofSetup (failure : SetupFailure) : Ending :=
  failed (report failure.message failure.cause?)

/-- The end of a run whose command was carried out. -/
def Ending.ofResult : Except Command.Failure Unit → Ending
  | .ok () => done
  | .error failure => failed (report failure.message failure.cause?)

/-- The exit status of a run. -/
def Ending.status : Ending → Nat
  | done | refused .displayHelp => 0
  | failed _ => 1
  | refused _ => 2

/-- Makes the data folder ready for commands. -/
def openStore (config : Config) (surroundings : Layout.Surroundings) :
    StateM Host (Except SetupFailure Command.Context) := do
  match Layout.locate? config.dataFolder surroundings with
  | none => return .error .noDataFolder
  | some layout =>
    match ← Host.alter layout.prepare with
    | .error (p, error) => return .error (.folder p error)
    | .ok () => return .ok { layout, notifications := config.notifications }

/-- Makes the log file, if one is configured and missing. -/
def openLog (config : Config) : StateM Host (Except SetupFailure Unit) := do
  match config.logging.file with
  | none => return .ok ()
  | some p =>
    Host.alter fun d =>
      match d.append p ByteArray.empty with
      | .ok d => (d, .ok ())
      | .error error => (d, .error (.logFile p error))

/-- The event for a data folder that is ready. -/
def storeOpenedEvent (layout : Layout) : Log.Event where
  level := .debug
  origin := "portmsg::usecases::bootstrap"
  message := "storage opened"
  details := [("data_dir", .text layout.dataFolder.text)]

/-- Makes everything ready and carries out a command. -/
def work (config : Config) (surroundings : Layout.Surroundings) (command : Command) :
    StateM Host Ending := do
  match ← openLog config with
  | .error failure => return .ofSetup failure
  | .ok () =>
    match ← openStore config surroundings with
    | .error failure => return .ofSetup failure
    | .ok context =>
      Host.record (storeOpenedEvent context.layout)
      return .ofResult (← Command.execute context command)

/-- Writes the events of a run to the log file if they can be written, or without a log file to the
diagnostics. -/
def writeLog (config : Config) (filter : Log.Filter) : StateM Host Unit := do
  let now ← Host.now
  fun host =>
    let lines := String.join ((host.log.filter filter.allows).map fun event => event.line now)
    match config.logging.file with
    | none => ((), { host with diagnostics := host.diagnostics ++ lines })
    | some p =>
      match host.disk.append p lines.toUTF8 with
      | .ok d => ((), { host with disk := d })
      | .error _ => ((), host)

/-- The paths that a run can touch, as far as the disk tells: more are known once the configuration
file is there to be read. -/
def paths (environment : Environment) (d : Disk) (words : List String) : List Path :=
  match Command.readLine words with
  | .error _ => []
  | .ok invocation =>
    let config := (Config.load d invocation.config).toOption.getD {}
    let folder := (Layout.locate? config.dataFolder environment.surroundings).map (·.dataFolder)
    let received := match invocation.command with
      | some (.receive p) => [p]
      | _ => []
    invocation.config.getD Config.defaultPath ::
      (config.logging.file.toList ++ folder.toList ++ received)

/-- Runs the program with the words of its command line. -/
def run (environment : Environment) (words : List String) : StateM Host Ending := do
  match Command.readLine words with
  | .error error => return .refused error
  | .ok invocation =>
    match ← Host.ask fun d => Config.load d invocation.config with
    | .error failure => return .ofSetup (.config failure)
    | .ok config =>
      let ending ← work config environment.surroundings invocation.commandOrDefault
      writeLog config (.choose environment.logFilter config.logging.level)
      return ending

end Program

end Courier
