import Courier.Chat.Registry
import Courier.Message.Identifier
import Courier.Store.Failure
import Courier.Store.Layout
import Courier.Stored.Chat
import Courier.Stored.Message
import Courier.Toml.Document
import Courier.Toml.Printer

/-!
# The store of chats and received messages

The registry is one document, and every received message is a document of its own in the folder of
its chat. Reading never changes anything. Writing goes through the lock file, and a document is
written beside the old one before it takes its place.
-/

namespace Courier.Store

variable (layout : Layout)

/-- A file that could not be used, and why. -/
def unavailable (p : Path) (error : FileError) : StoreError :=
  .unavailable (p.text ++ ": " ++ error.message)

/-- Refuses a text that is no identifier. -/
def checkId (id : String) : Except StoreError Unit :=
  if Identifier.isValid id then .ok () else .error (.invalidId id)

/-! ## Looking things up -/

/-- The registry. A missing one is empty. -/
def registry (d : Disk) : Except StoreError Registry :=
  match d.readText layout.registry with
  | .error .notFound => .ok []
  | .error error => .error (unavailable layout.registry error)
  | .ok text =>
    match (Toml.read? text).bind Stored.registry? with
    | some registry => .ok registry
    | none => .error (.corrupt (layout.registry.text ++ ": " ++ Toml.malformed))

/-- The entry of a chat in the registry. -/
def registration (d : Disk) (chatId : String) : Except StoreError Registration := do
  match (← registry layout d).find? chatId with
  | some entry => return entry
  | none => throw (.chatNotFound chatId)

/-- A chat. -/
def connection (d : Disk) (chatId : String) : Except StoreError Connection := do
  return (← registration layout d chatId).connection

/-- All chats. -/
def connections (d : Disk) : Except StoreError (List Connection) := do
  return (← registry layout d).map (·.connection)

/-- Whether a chat is a group. -/
def isGroup (d : Disk) (chatId : String) : Except StoreError Bool := do
  return (← registration layout d chatId).connection.kind = .group

/-- The permissions of a chat of a certain kind. A chat of another kind counts as unknown. -/
def permissions (d : Disk) (chatId : String) (kind : ChatKind) : Except StoreError Permissions := do
  let entry ← registration layout d chatId
  if entry.connection.kind = kind then return entry.permissions else throw (.chatNotFound chatId)

/-- The file of a received message. -/
def messagePath (chatId messageId : String) : Except StoreError Path := do
  checkId chatId
  checkId messageId
  return Layout.messageFile (layout.chatMessages chatId) messageId

/-- Whether a message has been received before. -/
def isReceived (d : Disk) (chatId messageId : String) : Except StoreError Bool := do
  return d.exists? (← messagePath layout chatId messageId)

/-! ## Changing things -/

/-- Runs a change under the lock. -/
def locked (d : Disk) (change : Disk → Disk × Except StoreError α) :
    Disk × Except StoreError α :=
  match d.append layout.lock ByteArray.empty with
  | .ok d => change d
  | .error error => (d, .error (unavailable layout.lock error))

/-- Writes a document. -/
def writeDocument (d : Disk) (p : Path) (t : Toml.Table) : Disk × Except StoreError Unit :=
  match d.replace p (Toml.write t) with
  | (d, .ok ()) => (d, .ok ())
  | (d, .error (p, error)) => (d, .error (unavailable p error))

/-- Changes the registry. The change may refuse, and then nothing is written. -/
def changeRegistry (d : Disk) (change : Registry → Except StoreError Registry) :
    Disk × Except StoreError Unit :=
  locked layout d fun d =>
    match (registry layout d).bind change with
    | .ok changed => writeDocument d layout.registry (Stored.registryTable changed)
    | .error error => (d, .error error)

/-- Registers a chat, or changes a known one without its summary. -/
def register (d : Disk) (connection : Connection) (permissions : Permissions) :
    Disk × Except StoreError Unit :=
  match checkId connection.chatId with
  | .error error => (d, .error error)
  | .ok () => changeRegistry layout d fun known => .ok (known.register connection permissions)

/-- Lets a new message change the summary of its chat. -/
def updateSummary (d : Disk) (update : SummaryUpdate) (change : UnreadChange) :
    Disk × Except StoreError Unit :=
  changeRegistry layout d fun known =>
    match known.find? update.chatId with
    | some _ => .ok (known.applyUpdate update change)
    | none => .error (.chatNotFound update.chatId)

/-- Writes a message that is not there yet into the folder of its chat; tells whether it did. -/
def saveNew (d : Disk) (chatId : String) (p : Path) (t : Toml.Table) :
    Disk × Except StoreError Bool :=
  match registration layout d chatId with
  | .error error => (d, .error error)
  | .ok _ =>
    if d.exists? p then (d, .ok false)
    else
      match d.makeFolders (layout.chatMessages chatId) with
      | (d, .error error) => (d, .error (unavailable (layout.chatMessages chatId) error))
      | (d, .ok ()) =>
        match writeDocument d p t with
        | (d, .ok ()) => (d, .ok true)
        | (d, .error error) => (d, .error error)

/-- Saves a received message of a known chat, unless it was saved before; tells whether it did. -/
def saveMessage (d : Disk) (message : Inbound) : Disk × Except StoreError Bool :=
  match messagePath layout message.chatId message.messageId with
  | .error error => (d, .error error)
  | .ok p =>
    match Stored.inboundTable message with
    | .error unwritable => (d, .error (.corrupt unwritable.message))
    | .ok t => locked layout d fun d => saveNew layout d message.chatId p t

/-- Removes a received message. A missing one is no failure. -/
def discardMessage (d : Disk) (chatId messageId : String) : Disk × Except StoreError Unit :=
  match messagePath layout chatId messageId with
  | .error error => (d, .error error)
  | .ok p =>
    locked layout d fun d =>
      match d.removeFile p with
      | .ok d => (d, .ok ())
      | .error .notFound => (d, .ok ())
      | .error error => (d, .error (unavailable p error))

end Courier.Store
