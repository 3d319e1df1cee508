import Courier.Proofs.Stored.Message
import Courier.Proofs.Toml.Proper

/-!
# Messages from a document

The numbers of a document are small enough to be written again. So are those of a message that was
read from one, wherever its payload stood.
-/

namespace Courier.Stored

open Toml (Value Table isInteger64)

variable {v w : Value} {t : Table} {reading : Reading} {fields : List String} {key : String}

/-- The fields of a record are values of the document, also where a list stands for its table. -/
theorem isProper_of_recordTable? (hv : v.IsProper) (h : recordTable? reading fields v = some t)
    (hget : t.get? key = some w) : w.IsProper := by
  have hmem := Table.mem_of_get? hget
  cases v with
  | table origin entries =>
      cases h
      exact (Value.isProper_table_iff.mp hv).values _ hmem
  | array ofHeaders items =>
      rw [recordTable?] at h
      split at h
      · cases h
      · cases h
        exact Value.isProper_array_iff.mp hv w (List.of_mem_zip hmem).2
  | datetime text =>
      cases h
      cases hmem
  | _ => cases h

theorem toNat_le_of_word64? {n : UInt64} (hv : v.IsProper) (h : word64? v = some n) :
    n.toNat ≤ Toml.maxInteger := by
  cases hv with
  | integer hsmall =>
      rw [word64?] at h
      split at h
      next hword =>
        cases h
        simp only [isInteger64, Bool.and_eq_true, decide_eq_true_eq] at hsmall
        have hsize : UInt64.size = 18446744073709551616 := rfl
        rw [UInt64.toNat_ofNat']
        omega
      next => cases h
  | _ => cases h

theorem not_isOverlong_of_payloadOfKind? {kind : ContentKind} {payload : Payload}
    (hv : v.IsProper) (h : payloadOfKind? reading v kind = some payload) :
    ¬ payload.IsOverlong := by
  cases kind with
  | audioRecording =>
      obtain ⟨recording, hrecording, rfl⟩ := Option.map_eq_some_iff.mp h
      obtain ⟨t, ht, hrecording⟩ := Option.bind_eq_some_iff.mp hrecording
      obtain ⟨uri, -, hrecording⟩ := Option.bind_eq_some_iff.mp hrecording
      obtain ⟨length, hlength, hrecording⟩ := Option.bind_eq_some_iff.mp hrecording
      cases hrecording
      obtain ⟨w, hget, hword⟩ := Option.bind_eq_some_iff.mp hlength
      exact Nat.not_lt_of_le
        (toNat_le_of_word64? (isProper_of_recordTable? hv ht hget) hword)
  | text =>
      obtain ⟨t, -, h⟩ := Option.bind_eq_some_iff.mp h
      obtain ⟨body, -, h⟩ := Option.bind_eq_some_iff.mp h
      cases h
      exact id
  | link =>
      obtain ⟨t, -, h⟩ := Option.bind_eq_some_iff.mp h
      obtain ⟨body, -, h⟩ := Option.bind_eq_some_iff.mp h
      obtain ⟨url, -, h⟩ := Option.bind_eq_some_iff.mp h
      cases h
      exact id
  | contactBundle =>
      obtain ⟨t, -, h⟩ := Option.bind_eq_some_iff.mp h
      obtain ⟨contact, -, h⟩ := Option.bind_eq_some_iff.mp h
      cases h
      exact id
  | _ =>
      obtain ⟨media, -, rfl⟩ := Option.map_eq_some_iff.mp h
      exact id

theorem not_isOverlong_of_enclosedPayload? {payload : Payload} (ht : t.IsProper)
    (h : enclosedPayload? t = some payload) : ¬ payload.IsOverlong := by
  obtain ⟨kind, -, h⟩ := Option.bind_eq_some_iff.mp h
  obtain ⟨v, hget, h⟩ := Option.bind_eq_some_iff.mp h
  exact not_isOverlong_of_payloadOfKind? (ht.of_get? hget) h

/-- A message from a document can be written again. -/
theorem inboundTable_of_inbound? {now : Instant} {message : Inbound} (ht : t.IsProper)
    (h : inbound? now t = some message) : ∃ written, inboundTable message = .ok written := by
  obtain ⟨chatId, -, h⟩ := Option.bind_eq_some_iff.mp h
  obtain ⟨messageId, -, h⟩ := Option.bind_eq_some_iff.mp h
  obtain ⟨replyId, -, h⟩ := Option.bind_eq_some_iff.mp h
  obtain ⟨receivedAt, -, h⟩ := Option.bind_eq_some_iff.mp h
  obtain ⟨payload, hpayload, h⟩ := Option.bind_eq_some_iff.mp h
  cases h
  have hfits := not_isOverlong_of_enclosedPayload? ht hpayload
  cases hwritten : inboundTable ⟨chatId, messageId, replyId, receivedAt, payload⟩ with
  | ok written => exact ⟨written, rfl⟩
  | error error => exact absurd ((inboundTable_eq_error_iff _).mp ⟨error, hwritten⟩) hfits

end Courier.Stored
