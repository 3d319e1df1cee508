import Courier.Chat.Registry
import Courier.Stored.Field

/-!
# Stored chats

A chat, its summary and its permissions as tables, and the registry as a list of tables. An entry of
the registry holds the fields of its chat next to the permissions.
-/

namespace Courier.Stored

open Toml (Value Table)

/-- The entries of a summary. -/
def summaryTable (summary : Summary) : Table :=
  [("text", .string summary.text)] ++
    entry? "recent_message_type" (fun kind => .string kind.word) summary.recentKind ++
    entry? "latest_message_id" .string summary.latestMessageId ++
    [("read_status", .string summary.readStatus.word)] ++
    entry? "timestamp" ofInstant summary.timestamp ++
    [("unread_count", .integer summary.unreadCount.toNat)]

/-- The fields of a summary in their order. -/
def summaryFields : List String :=
  ["text", "recent_message_type", "latest_message_id", "read_status", "timestamp", "unread_count"]

/-- A summary from its entries. Every field may be missing. -/
def summaryOfTable? (reading : Reading) (t : Table) : Option Summary := do
  return { text := ← withDefault "" text? (t.get? "text")
           recentKind := ←
            optional (word? reading ContentKind.ofWord?) (t.get? "recent_message_type")
           latestMessageId := ← optional text? (t.get? "latest_message_id")
           readStatus := ←
            withDefault .read (word? reading MessageStatus.ofWord?) (t.get? "read_status")
           timestamp := ← optional instant? (t.get? "timestamp")
           unreadCount := ← withDefault 0 word32? (t.get? "unread_count") }

/-- A summary within another record. -/
def summary? (reading : Reading) (v : Value) : Option Summary := do
  summaryOfTable? reading (← recordTable? reading summaryFields v)

/-- The entries of permissions. -/
def permissionsTable (permissions : Permissions) : Table :=
  [("notifications", .boolean permissions.notifications),
    ("autodownload", .boolean permissions.autodownload),
    ("display_picture", .boolean permissions.displayPicture)]

/-- Permissions from their entries. Whether notifications are allowed must be given. -/
def permissionsOfTable? (t : Table) : Option Permissions := do
  return { notifications := ← required flag? (t.get? "notifications")
           autodownload := ← withDefault false flag? (t.get? "autodownload")
           displayPicture := ← withDefault true flag? (t.get? "display_picture") }

/-- Permissions within an entry of the registry. -/
def permissions? (v : Value) : Option Permissions := do
  permissionsOfTable? (←
    recordTable? .direct ["notifications", "autodownload", "display_picture"] v)

/-- The entries of a chat. -/
def connectionTable (connection : Connection) : Table :=
  [("chat_id", .string connection.chatId), ("name", .string connection.name),
    ("chat_type", .string connection.kind.word), ("disconnected", .boolean connection.disconnected),
    ("summary", ofTable (summaryTable connection.summary))]

/-- A chat from its entries. -/
def connection? (reading : Reading) (t : Table) : Option Connection := do
  return { chatId := ← required text? (t.get? "chat_id")
           name := ← required text? (t.get? "name")
           kind := ← withDefault .direct (word? reading ChatKind.ofWord?) (t.get? "chat_type")
           disconnected := ← withDefault false flag? (t.get? "disconnected")
           summary := ← withDefault {} (summary? reading) (t.get? "summary") }

/-- The entries of a registered chat. -/
def registrationTable (entry : Registration) : Table :=
  connectionTable entry.connection ++
    [("permissions", ofTable (permissionsTable entry.permissions))]

/-- A registered chat. The fields of the chat itself are set aside, the permissions are not. -/
def registration? : Value → Option Registration
  | .table _ t => do
    return { connection := ← connection? .setAside t
             permissions := ← withDefault {} permissions? (Table.get? t "permissions") }
  | _ => none

/-- The registry as a document. -/
def registryTable (registry : Registry) : Table :=
  [("connection", .array true (registry.map fun entry => ofTable (registrationTable entry)))]

/-- The registry of a document. -/
def registry? (t : Table) : Option Registry :=
  match t.get? "connection" with
  | none => some []
  | some (.array _ items) => items.mapM registration?
  | some _ => none

end Courier.Stored
