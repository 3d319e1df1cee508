import Courier.Delivery.Router
import Courier.Host.Basic
import Courier.Inbox.Console
import Courier.Store.Local

/-!
# Router and receiving on a host

The collaborators of the router and of receiving, over the disk of a host: both outboxes, the store
in all of its roles, and notifications on the console.
-/

namespace Courier

open Log (Event)

namespace Outbox

/-- An event about a message and its outbox. -/
def event (level : Log.Level) (code text : String) (kind : ChatKind) (message : Outgoing)
    (detail : String × Log.Detail) : Event where
  level
  origin := "portmsg::infra::spool"
  message := text
  details := [("code", .text code), ("chat_type", .text kind.word),
    ("message_id", .text message.messageId), detail]

/-- The event for the outcome of a delivery. -/
def outcomeEvent (kind : ChatKind) (message : Outgoing) : Except DeliveryError UInt32 → Event
  | .ok attempts =>
    event .info "MESSAGE_SPOOLED" "message spooled for delivery" kind message
      ("attempts", .count attempts.toNat)
  | .error error =>
    event .warn "MESSAGE_SPOOL_FAILED" "message could not be spooled" kind message
      ("error", .text error.message)

/-- Puts a message into an outbox, tells of it, and reports to the callback whether it worked. -/
def deliver (layout : Layout) (kind : ChatKind) : Delivery.DeliveryPath Host :=
  fun mode message callback => do
    let now ← Host.now
    let result ← Host.alter (Outbox.put layout kind mode message now)
    Host.record (outcomeEvent kind message result)
    match callback with
    | some callback => callback result.isOk
    | none => pure ()
    return result.map fun _ => ()

end Outbox

namespace Host

variable (layout : Layout)

/-- The router over the registry and the two outboxes. -/
def router : Delivery.Router Host where
  isGroup chatId := ask fun d => Store.isGroup layout d chatId
  direct := Outbox.deliver layout .direct
  group := Outbox.deliver layout .group
  record := record

/-- Keeps a notification and shows it on the console if notifications are enabled. -/
def notify (enabled : Bool) (notice : Inbox.Notice) : StateM Host Unit := do
  keepNotice notice
  Inbox.Console.display enabled writeConsole record notice

/-- Receiving with the store in all roles but one: `isReceived` says what was received before. -/
def servicesGuardedBy (notifications : Bool)
    (isReceived : String → String → StateM Host (Except StoreError Bool)) :
    Inbox.Services Host where
  connection chatId := ask fun d => Store.connection layout d chatId
  permissions chatId kind := ask fun d => Store.permissions layout d chatId kind
  isReceived
  save message := alter fun d => Store.saveMessage layout d message
  update update change := alter fun d => Store.updateSummary layout d update change
  discard chatId messageId := alter fun d => Store.discardMessage layout d chatId messageId
  notify := notify notifications
  record := record

/-- Receiving with the store in all roles. -/
def services (notifications : Bool) : Inbox.Services Host :=
  servicesGuardedBy layout notifications fun chatId messageId =>
    ask fun d => Store.isReceived layout d chatId messageId

end Host

end Courier
