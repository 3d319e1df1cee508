import Courier.Chat.Basic
import Courier.Time.Rfc3339

/-!
# Lines of the chat list

A chat on a line of its own: when something happened last, the name, the number of unread messages
if there are any, the kind, whether the chat is disconnected, and the latest text.
-/

namespace Courier.Connection

/-- The time of the latest activity to the minute. -/
def activityText (connection : Connection) : String :=
  match connection.summary.timestamp with
  | some t => Timestamp.writeToMinute t
  | none => "-"

/-- The number of unread messages in parentheses. -/
def unreadText (connection : Connection) : String :=
  if connection.summary.unreadCount.toNat > 0 then
    " (" ++ toString connection.summary.unreadCount.toNat ++ ")"
  else ""

/-- The line of a chat in the chat list. -/
def line (connection : Connection) : String :=
  connection.activityText ++ "  " ++ connection.name ++ connection.unreadText ++
    " [" ++ connection.kind.word ++ "]" ++
    (if connection.disconnected then " [disconnected]" else "") ++
    "  " ++ connection.summary.text

end Courier.Connection
