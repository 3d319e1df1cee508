import Courier.Text.Quoted

/-!
# Failures of stores and outboxes

Why the store of chats and messages, or an outbox, refused to do its work.
-/

namespace Courier

/-- Why the store refused. -/
inductive StoreError
  | chatNotFound (chatId : String)
  | invalidId (id : String)
  | unavailable (details : String)
  | corrupt (details : String)
  deriving DecidableEq

/-- The words for a failure of the store. An identifier is quoted, so that none of its characters is
lost. -/
def StoreError.message : StoreError → String
  | chatNotFound chatId => "chat " ++ chatId ++ " is not a known connection"
  | invalidId id => "identifier " ++ Text.quoted id ++ " is not valid"
  | unavailable details => "storage unavailable: " ++ details
  | corrupt details => "stored data is corrupt: " ++ details

/-- Why an outbox refused a message. -/
inductive DeliveryError
  | unavailable (details : String)
  | rejected (details : String)
  deriving DecidableEq

/-- The words for a failure of an outbox. -/
def DeliveryError.message : DeliveryError → String
  | unavailable details => "delivery transport unavailable: " ++ details
  | rejected details => "message rejected: " ++ details

end Courier
