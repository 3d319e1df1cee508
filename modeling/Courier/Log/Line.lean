import Courier.Log.Event
import Courier.Time.Rfc3339

/-!
# Log lines

An event on a line: its time, its level, the part of the program that tells it, its message and its
details.
-/

namespace Courier.Log.Event

/-- The line of an event at a time. -/
def line (event : Event) (now : Instant) : String :=
  Timestamp.write now ++ " " ++ event.level.word ++ " " ++ event.origin ++ ": " ++ event.message ++
    String.join (event.details.map fun (name, detail) => " " ++ name ++ "=" ++ detail.shown) ++ "\n"

end Courier.Log.Event
