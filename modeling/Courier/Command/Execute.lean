import Courier.Chat.Line
import Courier.Chat.Listing
import Courier.Command.Compose
import Courier.Host.Services

/-!
# Carrying out commands

What each command does on a host, and how it fails.
-/

namespace Courier.Command

open Delivery (RouteError)
open Inbox (ReceiveError Outcome)

/-- Why a command failed. -/
inductive Failure
  | compose (error : ComposeError)
  | unknownRecipient (chatId : String) (error : StoreError)
  | undelivered
  | notSpooled (messageId : String)
  | outbox (error : DeliveryError)
  | unreadable (p : Path) (error : FileError)
  | malformed (p : Path)
  | receive (error : ReceiveError)
  | listing (error : ListingError)
  | store (error : StoreError)
  deriving DecidableEq

namespace Failure

/-- The words for a failed command. -/
def message : Failure → String
  | compose error => error.message
  | unknownRecipient chatId _ => "cannot send to chat " ++ chatId
  | undelivered => "Network error in sending message"
  | notSpooled messageId => "no spooled message with id " ++ messageId
  | outbox error => error.message
  | unreadable p _ => "failed to read inbound message at " ++ p.text
  | malformed p => "failed to parse inbound message at " ++ p.text
  | receive error => error.message
  | listing error => error.message
  | store error => error.message

/-- The words for what lies behind a failed command, if anything does. -/
def cause? : Failure → Option String
  | unknownRecipient _ error => some error.message
  | unreadable _ error => some error.message
  | malformed _ => some Toml.malformed
  | receive error => error.cause?.map StoreError.message
  | _ => none

end Failure

/-- What commands act with: where data is kept, and whether notifications are shown. -/
structure Context where
  layout : Layout
  notifications : Bool := true

/-- An event about a command. -/
def event (level : Log.Level) (text : String) (details : List (String × Log.Detail)) :
    Log.Event where
  level
  origin := "portmsg::app"
  message := text
  details

/-- The event for a summary that could not be changed after a delivery. -/
def summaryFailedEvent (message : Outgoing) (error : StoreError) : Log.Event :=
  event .warn "failed to update chat summary after send"
    [("error", .text error.message), ("message_id", .text message.messageId)]

/-- The event for a failed delivery. -/
def undeliveredEvent (message : Outgoing) (error : DeliveryError) : Log.Event :=
  event .error "message delivery failed" [("code", .text "SEND_FAILED"),
    ("error", .text error.message), ("message_id", .text message.messageId)]

/-- Enters the outcome of a delivery into the summary of the chat. -/
def enterOutcome (layout : Layout) (message : Outgoing) (success : Bool) :
    StateM Host (Except StoreError Unit) := do
  let now ← Host.now
  let (update, change) := Delivery.summaryUpdate message success now
  Host.alter fun d => Store.updateSummary layout d update change

/-- Routes a message to its outbox and enters the outcome that was reported, if any was, into the
summary of the chat. -/
def route (layout : Layout) (mode : DeliveryMode) (message : Outgoing) :
    StateM Host (Except Failure Unit) := do
  Host.forgetReport
  let result ← (Host.router layout).dispatch mode message (some Host.report)
  match ← Host.reported with
  | none => pure ()
  | some success =>
    match ← enterOutcome layout message success with
    | .ok () => pure ()
    | .error error => Host.record (summaryFailedEvent message error)
  match result with
  | .ok () => return .ok ()
  | .error (.chatLookup error) => return .error (.unknownRecipient message.chatId error)
  | .error (.delivery error) =>
    Host.record (undeliveredEvent message error)
    return .error .undelivered

/-- A fresh random identifier. -/
def newId : StateM Host String := do
  return Identifier.ofRandom (← Host.draw)

/-- Sends a new message. -/
def sendMessage (context : Context) (arguments : SendArguments) :
    StateM Host (Except Failure Unit) := do
  let folder ← Host.ask Disk.currentPath
  let bundleId ← newId
  match arguments.payload folder bundleId with
  | .error error => return .error (.compose error)
  | .ok payload =>
    let freshId ← newId
    let message : Outgoing :=
      { chatId := arguments.chat
        messageId := arguments.messageId.getD freshId
        replyId := arguments.replyTo
        singleRecipient := arguments.recipient
        payload }
    match ← route context.layout .send message with
    | .error failure => return .error failure
    | .ok () =>
      Host.print message.messageId
      return .ok ()

/-- The line that tells of an attempt. -/
def attemptLine (messageId : String) (attempt : UInt32) : String :=
  messageId ++ " (attempt " ++ toString attempt ++ ")"

/-- Hands a message in an outbox over again. The attempt that is told of has 32 bits: after the
greatest one comes zero. A program that checks its sums stops there instead, and tells nothing. -/
def retryMessage (context : Context) (messageId : String) : StateM Host (Except Failure Unit) := do
  match ← Host.ask fun d => Outbox.find context.layout d messageId with
  | .error error => return .error (.outbox error)
  | .ok none => return .error (.notSpooled messageId)
  | .ok (some spooled) =>
    match ← route context.layout .retry spooled.message with
    | .error failure => return .error failure
    | .ok () =>
      Host.print (attemptLine spooled.message.messageId (spooled.attempts + 1))
      return .ok ()

/-- The received message in a file. -/
def readInbound (p : Path) : StateM Host (Except Failure Inbound) := do
  match ← Host.ask fun d => d.readText p with
  | .error error => return .error (.unreadable p error)
  | .ok text =>
    match (Toml.read? text).bind (Stored.inbound? (← Host.now)) with
    | some message => return .ok message
    | none => return .error (.malformed p)

/-- The line that tells what became of a received message. -/
def outcomeLine (message : Inbound) : Outcome → String
  | .duplicate => message.messageId ++ " already processed"
  | .processed notified =>
    message.messageId ++ " processed" ++ (if notified then ", notified" else "")

/-- Receives the message in a file. -/
def receiveFile (context : Context) (p : Path) : StateM Host (Except Failure Unit) := do
  match ← readInbound p with
  | .error failure => return .error failure
  | .ok message =>
    match ← Inbox.receive (Host.services context.layout context.notifications) message with
    | .error error => return .error (.receive error)
    | .ok outcome =>
      Host.print (outcomeLine message outcome)
      return .ok ()

/-- Prints the chat list. -/
def printChats (context : Context) (limit : Nat) : StateM Host (Except Failure Unit) := do
  match Listing.ofSource (← Host.ask fun d => Store.connections context.layout d) limit with
  | .error error => return .error (.listing error)
  | .ok listed =>
    listed.forM fun connection => Host.print connection.line
    return .ok ()

/-- The chat that the arguments describe, and its permissions. -/
def describedChat (arguments : AddChatArguments) : Connection × Permissions :=
  ({ chatId := arguments.chat
     name := arguments.name
     kind := if arguments.group then .group else .direct
     disconnected := arguments.disconnected },
   { notifications := !arguments.muted })

/-- Registers a chat. -/
def registerChat (context : Context) (arguments : AddChatArguments) :
    StateM Host (Except Failure Unit) := do
  let (connection, permissions) := describedChat arguments
  match ← Host.alter fun d => Store.register context.layout d connection permissions with
  | .error error => return .error (.store error)
  | .ok () =>
    Host.record (event .info "chat registered" [("chat_id", .text arguments.chat)])
    return .ok ()

/-- Carries out a command. -/
def execute (context : Context) : Command → StateM Host (Except Failure Unit)
  | .send arguments => sendMessage context arguments
  | .retry messageId => retryMessage context messageId
  | .receive path => receiveFile context path
  | .chats limit => printChats context limit
  | .addChat arguments => registerChat context arguments

end Courier.Command
