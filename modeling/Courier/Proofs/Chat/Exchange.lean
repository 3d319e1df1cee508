import Courier.Delivery.Router
import Courier.Inbox.Receive
import Courier.Proofs.Chat.Registry

/-!
# What a summary tells

The summary of a chat follows from the messages that were exchanged in it: the latest of them gives
everything but the count of unread messages, and that is the number of messages received since one
was last delivered.
-/

namespace Courier

/-- What became of a message. -/
inductive Fate
  | received
  /-- It was sent and put into an outbox. -/
  | delivered
  /-- It was sent but not put into an outbox. -/
  | failed
  deriving DecidableEq

namespace Fate

/-- The state of a message in the summary of its chat. -/
def status : Fate → MessageStatus
  | received => .latest
  | delivered => .sent
  | failed => .failed

/-- What a message does to the count of unread messages. -/
def change : Fate → UnreadChange
  | received => .increment
  | delivered => .reset
  | failed => .unchanged

end Fate

/-- A message that was exchanged in a chat. -/
structure Exchange where
  chatId : String
  messageId : String
  payload : Payload
  time : Instant
  fate : Fate

namespace Exchange

/-- A message that was received. -/
def ofInbound (message : Inbound) : Exchange where
  chatId := message.chatId
  messageId := message.messageId
  payload := message.payload
  time := message.receivedAt
  fate := .received

/-- A message that was sent, whether it was delivered or not. -/
def ofOutgoing (message : Outgoing) (success : Bool) (now : Instant) : Exchange where
  chatId := message.chatId
  messageId := message.messageId
  payload := message.payload
  time := now
  fate := if success then .delivered else .failed

/-- What a message changes in the summary of its chat. -/
def update (exchange : Exchange) : SummaryUpdate where
  chatId := exchange.chatId
  text := exchange.payload.preview
  recentKind := exchange.payload.kind
  latestMessageId := exchange.messageId
  readStatus := exchange.fate.status
  timestamp := exchange.time

/-- A summary after a message. -/
def enter (summary : Summary) (exchange : Exchange) : Summary :=
  summary.apply exchange.update exchange.fate.change

theorem summaryUpdate_inbound (message : Inbound) :
    Inbox.summaryUpdate message = (ofInbound message).update :=
  rfl

theorem summaryUpdate_outgoing (message : Outgoing) (success : Bool) (now : Instant) :
    Delivery.summaryUpdate message success now =
      ((ofOutgoing message success now).update, (ofOutgoing message success now).fate.change) := by
  cases success <;> rfl

end Exchange

/-- How a summary follows from an earlier one and the messages that were exchanged since. -/
structure Summary.Follows (before : Summary) (exchanges : List Exchange) (after : Summary) :
    Prop where
  unreadCount_of_delivered : ∀ earlier last later, exchanges = earlier ++ last :: later →
    last.fate = .delivered → (∀ exchange ∈ later, exchange.fate ≠ .delivered) →
      after.unreadCount.toNat = min (UInt32.size - 1) (later.countP (·.fate = .received))
  unreadCount_of_not_delivered : (∀ exchange ∈ exchanges, exchange.fate ≠ .delivered) →
    after.unreadCount.toNat =
      min (UInt32.size - 1) (before.unreadCount.toNat + exchanges.countP (·.fate = .received))
  latest : ∀ last, exchanges.getLast? = some last →
    after.text = last.payload.preview ∧ after.recentKind = some last.payload.kind ∧
      after.latestMessageId = some last.messageId ∧ after.readStatus = last.fate.status ∧
      after.timestamp = some last.time
  unchanged : exchanges = [] → after = before

/-- Without deliveries every received message counts. -/
theorem unreadCount_foldl_enter {exchanges : List Exchange} (summary : Summary)
    (hnone : ∀ exchange ∈ exchanges, exchange.fate ≠ .delivered) :
    (exchanges.foldl Exchange.enter summary).unreadCount.toNat =
      min (UInt32.size - 1)
        (summary.unreadCount.toNat + exchanges.countP (·.fate = .received)) := by
  induction exchanges generalizing summary with
  | nil =>
      have hlt := summary.unreadCount.toNat_lt
      simp only [List.foldl_nil, List.countP_nil, UInt32.size] at hlt ⊢
      omega
  | cons exchange rest ih =>
      have hfate := hnone exchange List.mem_cons_self
      have hcount : (exchange.enter summary).unreadCount =
          exchange.fate.change.apply summary.unreadCount := rfl
      rw [List.foldl_cons, ih _ fun other hother => hnone other (List.mem_cons_of_mem _ hother),
        List.countP_cons, hcount]
      cases hcase : exchange.fate with
      | received =>
          rw [Fate.change, UnreadChange.apply, toNat_saturatingSucc]
          simp only [decide_true, if_true]
          omega
      | delivered => exact absurd hcase hfate
      | failed =>
          rw [Fate.change, UnreadChange.apply]
          simp

/-- Entering messages one after another makes the summary that follows from them. -/
theorem follows_foldl_enter (summary : Summary) (exchanges : List Exchange) :
    summary.Follows exchanges (exchanges.foldl Exchange.enter summary) := by
  constructor
  · rintro earlier last later rfl hlast hnone
    rw [List.foldl_append, List.foldl_cons, unreadCount_foldl_enter _ hnone]
    have hreset : ((earlier.foldl Exchange.enter summary).apply last.update
        last.fate.change).unreadCount = 0 := by
      rw [hlast]
      rfl
    rw [Exchange.enter, hreset, UInt32.toNat_zero, Nat.zero_add]
  · exact unreadCount_foldl_enter summary
  · intro last hlast
    obtain ⟨front, rfl⟩ := List.getLast?_eq_some_iff.mp hlast
    rw [List.foldl_append, List.foldl_cons, List.foldl_nil]
    exact ⟨rfl, rfl, rfl, rfl, rfl⟩
  · rintro rfl
    rfl

end Courier
