import Courier.Message.Payload
import Courier.Time.Instant

/-!
# Chats

A chat with its permissions and the summary of its latest message.
-/

namespace Courier

/-- The kinds of chat. -/
inductive ChatKind
  | direct
  | group
  deriving DecidableEq

namespace ChatKind

/-- The word for a kind of chat. -/
def word : ChatKind → String
  | direct => "direct"
  | group => "group"

/-- The kind of chat a word stands for. -/
def ofWord? : String → Option ChatKind
  | "direct" => some direct
  | "group" => some group
  | _ => none

theorem ofWord?_word (kind : ChatKind) : ofWord? kind.word = some kind := by
  cases kind <;> rfl

end ChatKind

/-- What the user allows in a chat. -/
structure Permissions where
  notifications : Bool := true
  autodownload : Bool := false
  displayPicture : Bool := true
  deriving DecidableEq

/-- The state of the latest message of a chat. -/
inductive MessageStatus
  /-- Received and not seen yet. -/
  | latest
  | read
  | sent
  | failed
  deriving DecidableEq

namespace MessageStatus

/-- The word for a state. -/
def word : MessageStatus → String
  | latest => "latest"
  | read => "read"
  | sent => "sent"
  | failed => "failed"

/-- The state a word stands for. -/
def ofWord? : String → Option MessageStatus
  | "latest" => some latest
  | "read" => some read
  | "sent" => some sent
  | "failed" => some failed
  | _ => none

theorem ofWord?_word (status : MessageStatus) : ofWord? status.word = some status := by
  cases status <;> rfl

end MessageStatus

/-- What a chat shows of its latest message. -/
structure Summary where
  text : String := ""
  recentKind : Option ContentKind := none
  latestMessageId : Option String := none
  readStatus : MessageStatus := .read
  timestamp : Option Instant := none
  unreadCount : UInt32 := 0
  deriving DecidableEq

/-- A chat the user takes part in. -/
structure Connection where
  chatId : String
  name : String
  kind : ChatKind := .direct
  disconnected : Bool := false
  summary : Summary := {}
  deriving DecidableEq

/-- What a new message changes in the summary of its chat. -/
structure SummaryUpdate where
  chatId : String
  text : String
  recentKind : ContentKind
  latestMessageId : String
  readStatus : MessageStatus
  timestamp : Instant
  deriving DecidableEq

/-- What a new message does to the count of unread messages. -/
inductive UnreadChange
  | increment
  | reset
  | unchanged
  deriving DecidableEq

/-- The number after a 32-bit number; the greatest one stays as it is. -/
def saturatingSucc (n : UInt32) : UInt32 :=
  if n.toNat = UInt32.size - 1 then n else n + 1

/-- Counting on adds one up to the greatest 32-bit number. -/
theorem toNat_saturatingSucc (n : UInt32) :
    (saturatingSucc n).toNat = min (UInt32.size - 1) (n.toNat + 1) := by
  have hlt := n.toNat_lt
  unfold saturatingSucc
  simp only [UInt32.size] at hlt ⊢
  split
  · omega
  · simp only [UInt32.toNat_add, UInt32.toNat_one]
    omega

/-- A count of unread messages after a change. -/
def UnreadChange.apply : UnreadChange → UInt32 → UInt32
  | increment, n => saturatingSucc n
  | reset, _ => 0
  | unchanged, n => n

/-- A summary after a new message. Everything but the count is overwritten. -/
def Summary.apply (summary : Summary) (update : SummaryUpdate) (change : UnreadChange) :
    Summary where
  text := update.text
  recentKind := some update.recentKind
  latestMessageId := some update.latestMessageId
  readStatus := update.readStatus
  timestamp := some update.timestamp
  unreadCount := change.apply summary.unreadCount

end Courier
