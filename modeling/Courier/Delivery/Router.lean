import Courier.Log.Event
import Courier.Message.Envelope
import Courier.Message.Preview
import Courier.Store.Outbox

/-!
# Routing

A message goes to the path for the kind of its chat, exactly as it is, together with the caller's
callback. The router never tries twice and never calls the callback itself. Its collaborators act on
a state of any type.
-/

namespace Courier.Delivery

open Log (Event Detail)

/-- Told whether a delivery succeeded. -/
abbrev Callback (σ : Type) := Bool → StateM σ Unit

/-- A way for messages to leave. -/
abbrev DeliveryPath (σ : Type) :=
  DeliveryMode → Outgoing → Option (Callback σ) → StateM σ (Except DeliveryError Unit)

/-- What a router needs. -/
structure Router (σ : Type) where
  /-- Whether a chat is a group. -/
  isGroup : String → StateM σ (Except StoreError Bool)
  direct : DeliveryPath σ
  group : DeliveryPath σ
  /-- Takes an event to the log. -/
  record : Event → StateM σ Unit

/-- Why a message was not routed. -/
inductive RouteError
  | chatLookup (error : StoreError)
  | delivery (error : DeliveryError)
  deriving DecidableEq

/-- The words for a failure to route. -/
def RouteError.message : RouteError → String
  | chatLookup error => "failed to resolve chat kind: " ++ error.message
  | delivery error => error.message

/-- The event for a message on its way. -/
def routedEvent (mode : DeliveryMode) (message : Outgoing) (isGroup : Bool) : Event where
  level := .debug
  origin := "portmsg::usecases::send_message"
  message := "routing outgoing message"
  details := [("code", .text "MESSAGE_ROUTED"), ("operation", .text mode.word),
    ("group", .flag isGroup), ("message_id", .text message.messageId),
    ("content_type", .text message.payload.kind.word)]

namespace Router

variable {σ : Type}

/-- The path for groups or the one for direct chats. -/
def path (router : Router σ) (isGroup : Bool) : DeliveryPath σ :=
  if isGroup then router.group else router.direct

/-- Looks up the kind of the message's chat and hands the message to the path for it. -/
def dispatch (router : Router σ) (mode : DeliveryMode) (message : Outgoing)
    (callback : Option (Callback σ)) : StateM σ (Except RouteError Unit) := do
  match ← router.isGroup message.chatId with
  | .error error => return .error (.chatLookup error)
  | .ok isGroup =>
    router.record (routedEvent mode message isGroup)
    match ← router.path isGroup mode message callback with
    | .ok () => return .ok ()
    | .error error => return .error (.delivery error)

end Router

/-- What a message that was sent changes in the summary of its chat. A delivered message marks the
chat as read, a failed one leaves the unread count alone. -/
def summaryUpdate (message : Outgoing) (delivered : Bool) (now : Instant) :
    SummaryUpdate × UnreadChange :=
  ({ chatId := message.chatId
     text := message.payload.preview
     recentKind := message.payload.kind
     latestMessageId := message.messageId
     readStatus := if delivered then .sent else .failed
     timestamp := now },
   if delivered then .reset else .unchanged)

end Courier.Delivery
