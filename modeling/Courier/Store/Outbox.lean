import Courier.Message.Identifier
import Courier.Store.Failure
import Courier.Store.Layout
import Courier.Stored.Message
import Courier.Toml.Document
import Courier.Toml.Printer

/-!
# Outboxes

Messages wait in an outbox until a transport takes them, each in a document named for the message. A
message is put there once; putting it there again is for retries, which count up its attempts.
-/

namespace Courier

/-- What is asked of an outbox. -/
inductive DeliveryMode
  | send
  | retry
  deriving DecidableEq

/-- The word for what is asked. -/
def DeliveryMode.word : DeliveryMode → String
  | send => "send"
  | retry => "retry"

namespace Outbox

/-- A file that could not be used, and why. -/
def unavailable (p : Path) (error : FileError) : DeliveryError :=
  .unavailable (p.text ++ ": " ++ error.message)

/-- Refuses a text that is no identifier. -/
def checkId (messageId : String) : Except DeliveryError Unit :=
  if Identifier.isValid messageId then .ok ()
  else .error (.rejected (StoreError.invalidId messageId).message)

/-- The message in a file of an outbox, if there is one. -/
def read (d : Disk) (p : Path) : Except DeliveryError (Option Spooled) :=
  match d.readText p with
  | .error .notFound => .ok none
  | .error error => .error (unavailable p error)
  | .ok text =>
    match (Toml.read? text).bind Stored.spooled? with
    | some spooled => .ok (some spooled)
    | none => .error (.rejected (p.text ++ ": " ++ Toml.malformed))

/-- A message as an outbox keeps it: only a group message may be meant for one member. -/
def prepared (kind : ChatKind) (message : Outgoing) : Outgoing :=
  if kind = .direct then { message with singleRecipient := none } else message

/-- The next document of a message, given the one that is there. -/
def next (kind : ChatKind) (mode : DeliveryMode) (message : Outgoing) (now : Instant)
    (present : Option Spooled) : Except DeliveryError Spooled :=
  if mode = .send && present.isSome then
    .error (.rejected ("message " ++ message.messageId ++ " is already spooled"))
  else
    .ok { attempts := saturatingSucc ((present.map (·.attempts)).getD 0)
          spooledAt := now
          message := prepared kind message }

/-- The file of a message and what it is to hold. -/
def plan (layout : Layout) (kind : ChatKind) (mode : DeliveryMode) (message : Outgoing)
    (now : Instant) (d : Disk) : Except DeliveryError (Path × Spooled × Toml.Table) := do
  checkId message.messageId
  let p := Layout.messageFile (layout.outbox kind) message.messageId
  let spooled ← next kind mode message now (← read d p)
  match Stored.spooledTable spooled with
  | .ok t => return (p, spooled, t)
  | .error unwritable => throw (.rejected unwritable.message)

/-- Puts a message into an outbox; tells the number of its attempts. -/
def put (layout : Layout) (kind : ChatKind) (mode : DeliveryMode) (message : Outgoing)
    (now : Instant) (d : Disk) : Disk × Except DeliveryError UInt32 :=
  match plan layout kind mode message now d with
  | .error error => (d, .error error)
  | .ok (p, spooled, t) =>
    match d.replace p (Toml.write t) with
    | (d, .ok ()) => (d, .ok spooled.attempts)
    | (d, .error (_, error)) => (d, .error (unavailable p error))

/-- A message in either outbox, the one for direct chats first. -/
def find (layout : Layout) (d : Disk) (messageId : String) :
    Except DeliveryError (Option Spooled) := do
  checkId messageId
  match ← read d (Layout.messageFile (layout.outbox .direct) messageId) with
  | some spooled => return some spooled
  | none => read d (Layout.messageFile (layout.outbox .group) messageId)

end Outbox

end Courier
