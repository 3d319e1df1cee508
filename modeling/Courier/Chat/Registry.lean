import Courier.Chat.Basic

/-!
# The registry of chats

The chats that are known, in the order in which they were first registered, each with its
permissions. Where an identifier occurs twice the first entry counts.
-/

namespace Courier

/-- A chat in the registry. -/
structure Registration where
  connection : Connection
  permissions : Permissions := {}
  deriving DecidableEq

/-- The known chats in the order of their registration. -/
abbrev Registry := List Registration

namespace Registry

/-- The entry of a chat. -/
def find? (registry : Registry) (chatId : String) : Option Registration :=
  List.find? (fun entry => entry.connection.chatId = chatId) registry

/-- Changes the first entry of a chat, if it has one. -/
def modify (registry : Registry) (chatId : String) (change : Registration → Registration) :
    Registry :=
  match registry with
  | [] => []
  | entry :: rest =>
    if entry.connection.chatId = chatId then change entry :: rest
    else entry :: Registry.modify rest chatId change

/-- An entry under another name, kind, state and other permissions. Its summary stays. -/
def reregister (connection : Connection) (permissions : Permissions) (entry : Registration) :
    Registration :=
  { connection := { entry.connection with
      name := connection.name
      kind := connection.kind
      disconnected := connection.disconnected }
    permissions }

/-- Registers a chat: a known one keeps its place and its summary, a new one comes last. -/
def register (registry : Registry) (connection : Connection) (permissions : Permissions) :
    Registry :=
  match registry.find? connection.chatId with
  | some _ => registry.modify connection.chatId (reregister connection permissions)
  | none => registry ++ [⟨connection, permissions⟩]

/-- Lets a new message change the summary of its chat. -/
def applyUpdate (registry : Registry) (update : SummaryUpdate) (change : UnreadChange) :
    Registry :=
  registry.modify update.chatId fun entry =>
    { entry with connection := { entry.connection with
        summary := entry.connection.summary.apply update change } }

end Registry

end Courier
