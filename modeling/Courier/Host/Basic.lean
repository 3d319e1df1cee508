import Courier.Files.Disk
import Courier.Inbox.Receive
import Courier.Log.Event
import Courier.Time.Instant

/-!
# The host of the program

All that the program reads and changes: the disk, a clock and a source of random numbers, both of
them sequences that are taken one by one, and what has been logged, shown and printed so far.
Printing never fails: a writer that refuses a line, after which a command would report a failure
although all else is done, is left out.
-/

namespace Courier

/-- The surroundings a command acts on. -/
structure Host where
  disk : Disk
  /-- The time at each reading of the clock. -/
  clock : Nat → Instant
  /-- The random bits of each new identifier. -/
  random : Nat → Nat
  clockReadings : Nat := 0
  idsDrawn : Nat := 0
  /-- The events so far, in order. -/
  log : List Log.Event := []
  /-- The notifications so far, whether they were shown or not. -/
  notices : List Inbox.Notice := []
  /-- What the notifications wrote to the console. -/
  console : String := ""
  /-- What the commands printed. -/
  output : String := ""
  /-- What was written for whoever runs the program, apart from the output. -/
  diagnostics : String := ""
  /-- What the latest delivery reported to its callback, if it has reported. -/
  delivered : Option Bool := none

namespace Host

/-- Reads the clock. -/
def now : StateM Host Instant := fun host =>
  (host.clock host.clockReadings, { host with clockReadings := host.clockReadings + 1 })

/-- Draws the random bits of a new identifier. -/
def draw : StateM Host Nat := fun host =>
  (host.random host.idsDrawn, { host with idsDrawn := host.idsDrawn + 1 })

/-- Takes an event to the log. -/
def record (event : Log.Event) : StateM Host Unit := fun host =>
  ((), { host with log := host.log ++ [event] })

/-- Prints a line. -/
def print (line : String) : StateM Host Unit := fun host =>
  ((), { host with output := host.output ++ line ++ "\n" })

/-- Asks something of the disk. -/
def ask (question : Disk → α) : StateM Host α := fun host =>
  (question host.disk, host)

/-- Changes the disk. -/
def alter (change : Disk → Disk × α) : StateM Host α := fun host =>
  ((change host.disk).2, { host with disk := (change host.disk).1 })

/-- Writes to the console, which never fails. -/
def writeConsole (text : String) : StateM Host (Option String) := fun host =>
  (none, { host with console := host.console ++ text })

/-- Keeps a notification. -/
def keepNotice (notice : Inbox.Notice) : StateM Host Unit := fun host =>
  ((), { host with notices := host.notices ++ [notice] })

/-- Keeps what a delivery reports. -/
def report (success : Bool) : StateM Host Unit := fun host =>
  ((), { host with delivered := some success })

/-- Forgets what earlier deliveries reported. -/
def forgetReport : StateM Host Unit := fun host =>
  ((), { host with delivered := none })

/-- What the latest delivery reported. -/
def reported : StateM Host (Option Bool) := fun host =>
  (host.delivered, host)

end Host

end Courier
