import Courier.Message.Envelope
import Courier.Stored.Field

/-!
# Stored messages

A payload is stored under two keys, one for its kind and one for its content. An envelope holds
these two next to keys of its own.
-/

namespace Courier.Stored

open Toml (Value Table)

/-- What cannot be written down. -/
inductive Unwritable
  /-- A number above the greatest integer of a document. -/
  | numberTooLarge

/-- The words for what cannot be written down. -/
def Unwritable.message : Unwritable → String
  | numberTooLarge => "out-of-range value for u64 type"

/-- A number of 64 bits as a value, if it does not exceed the greatest integer of a document. -/
def ofWord64 (n : UInt64) : Except Unwritable Value :=
  if n.toNat ≤ Toml.maxInteger then .ok (.integer n.toNat) else .error .numberTooLarge

/-! ## Payloads -/

/-- The fields of a shared file. -/
def mediaTable (media : Media) : Table :=
  [("file_name", .string media.fileName), ("file_uri", .string media.fileUri),
    ("mime_type", .string media.mimeType)] ++ entry? "caption" .string media.caption

/-- The content of a payload as a table. -/
def payloadData : Payload → Except Unwritable Table
  | .text body => .ok [("text", .string body)]
  | .link body url => .ok [("text", .string body), ("url", .string url)]
  | .image media | .video media | .file media => .ok (mediaTable media)
  | .audioRecording recording => do
    return [("file_uri", .string recording.fileUri),
      ("duration_ms", ← ofWord64 recording.durationMs)]
  | .contactBundle contact =>
    .ok [("bundle", ofTable [("name", .string contact.name),
      ("bundle_id", .string contact.bundleId)])]

/-- The two entries of a payload. -/
def payloadTable (payload : Payload) : Except Unwritable Table := do
  return [("content_type", .string payload.kind.word), ("data", ofTable (← payloadData payload))]

/-- A shared file. -/
def media? (reading : Reading) (v : Value) : Option Media := do
  let t ← recordTable? reading ["file_name", "file_uri", "mime_type", "caption"] v
  return { fileName := ← required text? (t.get? "file_name")
           fileUri := ← required text? (t.get? "file_uri")
           mimeType := ← required text? (t.get? "mime_type")
           caption := ← optional text? (t.get? "caption") }

/-- A recording. -/
def recording? (reading : Reading) (v : Value) : Option Recording := do
  let t ← recordTable? reading ["file_uri", "duration_ms"] v
  return { fileUri := ← required text? (t.get? "file_uri")
           durationMs := ← required word64? (t.get? "duration_ms") }

/-- A contact. -/
def contact? (reading : Reading) (v : Value) : Option Contact := do
  let t ← recordTable? reading ["name", "bundle_id"] v
  return { name := ← required text? (t.get? "name")
           bundleId := ← required text? (t.get? "bundle_id") }

/-- The content of a payload whose kind is known. -/
def payloadOfKind? (reading : Reading) (v : Value) : ContentKind → Option Payload
  | .text => do
    let t ← recordTable? reading ["text"] v
    return .text (← required text? (t.get? "text"))
  | .link => do
    let t ← recordTable? reading ["text", "url"] v
    return .link (← withDefault "" text? (t.get? "text")) (← required text? (t.get? "url"))
  | .image => (media? reading v).map .image
  | .video => (media? reading v).map .video
  | .file => (media? reading v).map .file
  | .audioRecording => (recording? reading v).map .audioRecording
  | .contactBundle => do
    let t ← recordTable? reading ["bundle"] v
    return .contactBundle (← required (contact? reading) (t.get? "bundle"))

/-- Whether the content of a payload comes before its kind, and so has to be set aside. -/
def dataComesFirst (t : Table) : Bool :=
  (t.map Prod.fst).find? (fun key => key = "content_type" || key = "data") == some "data"

/-- A payload that is a document of its own. -/
def payload? (t : Table) : Option Payload := do
  let kind ← required (word? .direct ContentKind.ofWord?) (t.get? "content_type")
  payloadOfKind? (if dataComesFirst t then .setAside else .direct) (← t.get? "data") kind

/-- The payload among the entries of an envelope, which are set aside as a whole. -/
def enclosedPayload? (t : Table) : Option Payload := do
  let kind ← required (word? .setAside ContentKind.ofWord?) (t.get? "content_type")
  payloadOfKind? .setAside (← t.get? "data") kind

/-! ## Envelopes -/

/-- The entries of a message to be sent. -/
def outgoingTable (message : Outgoing) : Except Unwritable Table := do
  return [("chat_id", .string message.chatId), ("message_id", .string message.messageId)] ++
    entry? "reply_id" .string message.replyId ++
    entry? "single_recipient" .string message.singleRecipient ++
    (← payloadTable message.payload)

/-- A message to be sent. -/
def outgoing? (t : Table) : Option Outgoing := do
  return { chatId := ← required text? (t.get? "chat_id")
           messageId := ← required text? (t.get? "message_id")
           replyId := ← optional text? (t.get? "reply_id")
           singleRecipient := ← optional text? (t.get? "single_recipient")
           payload := ← enclosedPayload? t }

/-- The entries of a received message. -/
def inboundTable (message : Inbound) : Except Unwritable Table := do
  return [("chat_id", .string message.chatId), ("message_id", .string message.messageId)] ++
    entry? "reply_id" .string message.replyId ++
    [("received_at", ofInstant message.receivedAt)] ++ (← payloadTable message.payload)

/-- A received message. Where it lacks a time, it was received `now`. -/
def inbound? (now : Instant) (t : Table) : Option Inbound := do
  return { chatId := ← required text? (t.get? "chat_id")
           messageId := ← required text? (t.get? "message_id")
           replyId := ← optional text? (t.get? "reply_id")
           receivedAt := ← withDefault now instant? (t.get? "received_at")
           payload := ← enclosedPayload? t }

/-- The entries of a message in an outbox. -/
def spooledTable (spooled : Spooled) : Except Unwritable Table := do
  return [("attempts", .integer spooled.attempts.toNat),
    ("spooled_at", ofInstant spooled.spooledAt),
    ("message", ofTable (← outgoingTable spooled.message))]

/-- A message in an outbox. -/
def spooled? (t : Table) : Option Spooled := do
  let message ← match ← t.get? "message" with
    | .table _ t => outgoing? t
    | _ => none
  return { attempts := ← required word32? (t.get? "attempts")
           spooledAt := ← required instant? (t.get? "spooled_at")
           message }

end Courier.Stored
