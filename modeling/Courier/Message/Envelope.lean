import Courier.Message.Payload
import Courier.Time.Instant

/-!
# Envelopes

A payload on its way: out of the program towards a chat, into the program from a peer, or waiting in
an outbox.
-/

namespace Courier

/-- A message to be sent to a chat. -/
structure Outgoing where
  chatId : String
  messageId : String
  replyId : Option String := none
  /-- Restricts a group message to one member. Direct chats ignore it. -/
  singleRecipient : Option String := none
  payload : Payload
  deriving DecidableEq

/-- A received message, already decrypted. -/
structure Inbound where
  chatId : String
  messageId : String
  replyId : Option String := none
  receivedAt : Instant
  payload : Payload
  deriving DecidableEq

/-- A message in an outbox, with the number of times it was handed over. -/
structure Spooled where
  attempts : UInt32
  spooledAt : Instant
  message : Outgoing
  deriving DecidableEq

end Courier
