/-!
# Log events

What the program tells about its work: a message with a level, the part of the program that it comes
from, and named details.
-/

namespace Courier.Log

/-- The importance of an event, the most important first. -/
inductive Level
  | error
  | warn
  | info
  | debug
  | trace
  deriving DecidableEq

namespace Level

/-- The word for a level. -/
def word : Level → String
  | error => "ERROR"
  | warn => "WARN"
  | info => "INFO"
  | debug => "DEBUG"
  | trace => "TRACE"

/-- How much a level lets through: its own number and all smaller ones. -/
def verbosity : Level → Nat
  | error => 1
  | warn => 2
  | info => 3
  | debug => 4
  | trace => 5

end Level

/-- A named detail of an event. -/
inductive Detail
  | text (s : String)
  | flag (b : Bool)
  | count (n : Nat)
  deriving DecidableEq

/-- A detail as it stands in a log line. -/
def Detail.shown : Detail → String
  | text s => s
  | flag b => if b then "true" else "false"
  | count n => toString n

/-- Something worth telling. -/
structure Event where
  level : Level
  /-- The part of the program that tells it. -/
  origin : String
  message : String
  details : List (String × Detail) := []
  deriving DecidableEq

end Courier.Log
