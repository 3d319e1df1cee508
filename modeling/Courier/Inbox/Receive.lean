import Courier.Chat.Basic
import Courier.Log.Event
import Courier.Message.Envelope
import Courier.Message.Preview
import Courier.Store.Failure

/-!
# Receiving messages

A received message is looked up, checked for repetition, saved, entered into the summary of its
chat and shown to the user, in this order. Every lookup comes before the first change. If the
summary cannot be changed the saved message is discarded, so that it can be received again. The
collaborators act on a state of any type.
-/

namespace Courier.Inbox

open Log (Event Detail)

/-- A notification: its title and text, whether it should make a sound, and its chat. -/
structure Notice where
  title : String
  body : String
  alert : Bool
  chatId : String
  deriving DecidableEq

/-- What receiving needs. -/
structure Services (σ : Type) where
  connection : String → StateM σ (Except StoreError Connection)
  permissions : String → ChatKind → StateM σ (Except StoreError Permissions)
  /-- Whether a message of a chat was received before. -/
  isReceived : String → String → StateM σ (Except StoreError Bool)
  /-- Saves a message that is new and tells whether it was. -/
  save : Inbound → StateM σ (Except StoreError Bool)
  update : SummaryUpdate → UnreadChange → StateM σ (Except StoreError Unit)
  discard : String → String → StateM σ (Except StoreError Unit)
  notify : Notice → StateM σ Unit
  /-- Takes an event to the log. -/
  record : Event → StateM σ Unit

/-- What became of a received message. -/
inductive Outcome
  /-- It had been received before; nothing was changed. -/
  | duplicate
  | processed (notified : Bool)
  deriving DecidableEq

/-- Why a message was not received. -/
inductive ReceiveError
  | connection (error : StoreError)
  | notDirectChat (chatId : String) (kind : ChatKind)
  | permissions (error : StoreError)
  | guard (error : StoreError)
  | persist (error : StoreError)
  | connectionUpdate (error : StoreError)
  deriving DecidableEq

namespace ReceiveError

/-- The words for a failure to receive. -/
def message : ReceiveError → String
  | connection error => "failed to load connection: " ++ error.message
  | notDirectChat chatId kind =>
    "chat " ++ chatId ++ " is a " ++ kind.word ++ " chat, not a direct one"
  | permissions error => "failed to read chat permissions: " ++ error.message
  | guard error => "duplicate check failed: " ++ error.message
  | persist error => "failed to save message: " ++ error.message
  | connectionUpdate error => "failed to update connection: " ++ error.message

/-- The failure of the store behind a failure to receive. -/
def cause? : ReceiveError → Option StoreError
  | connection error | permissions error | guard error | persist error
  | connectionUpdate error => some error
  | notDirectChat _ _ => none

end ReceiveError

/-! ## Events -/

/-- An event about a received message. -/
def event (level : Log.Level) (code text : String) (message : Inbound)
    (details : List (String × Detail)) : Event where
  level
  origin := "portmsg::usecases::receive_message"
  message := text
  details := [("code", .text code), ("chat_id", .text message.chatId),
    ("message_id", .text message.messageId)] ++ details

/-- The event for a message that was received before. -/
def duplicateEvent (message : Inbound) : Event :=
  event .info "RECEIVE_DUPLICATE_SKIPPED" "inbound message already processed" message []

/-- The event for a saved message that could not be taken back. -/
def rollbackFailedEvent (message : Inbound) (error : StoreError) : Event :=
  event .error "RECEIVE_ROLLBACK_FAILED" "saved message could not be discarded" message
    [("error", .text error.message)]

/-- The event for a message that was received. -/
def processedEvent (message : Inbound) (notified : Bool) : Event :=
  event .info "RECEIVE_PROCESSED" "inbound message processed" message
    [("content_type", .text message.payload.kind.word), ("notified", .flag notified)]

/-! ## The steps -/

/-- What a received message changes in the summary of its chat. -/
def summaryUpdate (message : Inbound) : SummaryUpdate where
  chatId := message.chatId
  text := message.payload.preview
  recentKind := message.payload.kind
  latestMessageId := message.messageId
  readStatus := .latest
  timestamp := message.receivedAt

/-- The notification of a received message. It makes a sound unless the chat is disconnected. -/
def notice (connection : Connection) (message : Inbound) : Notice where
  title := connection.name
  body := message.payload.notice
  alert := !connection.disconnected
  chatId := message.chatId

variable {σ : Type}

/-- Tells of a message that was received before. -/
def skip (services : Services σ) (message : Inbound) : StateM σ (Except ReceiveError Outcome) := do
  services.record (duplicateEvent message)
  return .ok .duplicate

/-- Takes a saved message back after a failure of the summary. -/
def rollBack (services : Services σ) (message : Inbound) (error : StoreError) :
    StateM σ (Except ReceiveError Outcome) := do
  match ← services.discard message.chatId message.messageId with
  | .ok () => pure ()
  | .error failure => services.record (rollbackFailedEvent message failure)
  return .error (.connectionUpdate error)

/-- Enters a saved message into the summary and shows it where notifications are allowed. -/
def announce (services : Services σ) (connection : Connection) (permissions : Permissions)
    (message : Inbound) : StateM σ (Except ReceiveError Outcome) := do
  match ← services.update (summaryUpdate message) .increment with
  | .error error => rollBack services message error
  | .ok () =>
    if permissions.notifications then
      services.notify (notice connection message)
    services.record (processedEvent message permissions.notifications)
    return .ok (.processed permissions.notifications)

/-- Saves a message that passed every check, and goes on if it is new. -/
def keep (services : Services σ) (connection : Connection) (permissions : Permissions)
    (message : Inbound) : StateM σ (Except ReceiveError Outcome) := do
  match ← services.isReceived message.chatId message.messageId with
  | .error error => return .error (.guard error)
  | .ok true => skip services message
  | .ok false =>
    match ← services.save message with
    | .error error => return .error (.persist error)
    | .ok false => skip services message
    | .ok true => announce services connection permissions message

/-- Receives a message. -/
def receive (services : Services σ) (message : Inbound) :
    StateM σ (Except ReceiveError Outcome) := do
  match ← services.connection message.chatId with
  | .error error => return .error (.connection error)
  | .ok connection =>
    if connection.kind ≠ .direct then
      return .error (.notDirectChat message.chatId connection.kind)
    match ← services.permissions message.chatId connection.kind with
    | .error error => return .error (.permissions error)
    | .ok permissions => keep services connection permissions message

end Courier.Inbox
