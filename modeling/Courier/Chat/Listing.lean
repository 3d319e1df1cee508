import Courier.Chat.Basic
import Courier.Store.Failure

/-!
# Listing chats

The chat list starts with the latest activity. Chats without any come last, by name. The list is cut
at a limit.
-/

namespace Courier

/-- Why the chats could not be listed. -/
inductive ListingError
  | temporarilyUnavailable (details : String)
  | invalidData (details : String)
  deriving DecidableEq

/-- The words for a failure to list. -/
def ListingError.message : ListingError → String
  | temporarilyUnavailable details => "chat list temporarily unavailable: " ++ details
  | invalidData details => "chat list data is invalid: " ++ details

/-- What a failure of the store means to a listing. -/
def ListingError.ofStoreError : StoreError → ListingError
  | .corrupt details => .invalidData details
  | error => .temporarilyUnavailable error.message

namespace Listing

/-- Whether a chat may stand before another: later activity first, any activity before none, and
names in ascending order where there is none. -/
def mayPrecede (a b : Connection) : Bool :=
  match a.summary.timestamp, b.summary.timestamp with
  | some s, some t => t.rank ≤ s.rank
  | some _, none => true
  | none, some _ => false
  | none, none => a.name ≤ b.name

/-- The number of chats on a list without a limit of its own. -/
def defaultLimit : Nat := 50

/-- The greatest number of chats on a list. -/
def maxLimit : Nat := 200

/-- The number of chats that a limit stands for. -/
def effectiveLimit (limit : Nat) : Nat :=
  if limit = 0 then defaultLimit else min limit maxLimit

/-- Chats by activity, as many as the limit allows. -/
def top (limit : Nat) (chats : List Connection) : List Connection :=
  (chats.mergeSort mayPrecede).take (effectiveLimit limit)

/-- The list of the chats that a source gives. -/
def ofSource (source : Except StoreError (List Connection)) (limit : Nat) :
    Except ListingError (List Connection) :=
  match source with
  | .ok chats => .ok (top limit chats)
  | .error error => .error (.ofStoreError error)

end Listing

end Courier
