import Courier.Proofs.Stored.Field
import Courier.Stored.Message

/-!
# Reading messages back

Payloads and the envelopes around them are read back from their text, unless a recording is longer
than the greatest integer of a document.
-/

namespace Courier

/-- Whether a payload is a recording whose length cannot be written. -/
def Payload.IsOverlong : Payload → Prop
  | .audioRecording recording => Toml.maxInteger < recording.durationMs.toNat
  | _ => False

namespace Stored

open Toml (Value Table isLeaf_string isLeaf_integer isReadBack_leaves isReadBack_of_fields)

/-! ## Payloads -/

theorem ofWord64_eq_ok {n : UInt64} (hn : n.toNat ≤ Toml.maxInteger) :
    ofWord64 n = .ok (.integer n.toNat) :=
  if_pos hn

theorem ofWord64_eq_error {n : UInt64} (hn : Toml.maxInteger < n.toNat) :
    ofWord64 n = .error .numberTooLarge :=
  if_neg (Nat.not_le_of_lt hn)

/-- The content of a payload is refused exactly if it is a recording that is too long. -/
theorem payloadData_eq_error_iff (payload : Payload) :
    (∃ error, payloadData payload = .error error) ↔ payload.IsOverlong := by
  cases payload with
  | audioRecording recording =>
      rcases Nat.lt_or_ge Toml.maxInteger recording.durationMs.toNat with hlong | hfits
      · have herror := ofWord64_eq_error hlong
        exact ⟨fun _ => hlong, fun _ => ⟨.numberTooLarge, by rw [payloadData, herror]; rfl⟩⟩
      · have hok := ofWord64_eq_ok hfits
        refine ⟨?_, fun hlong => absurd hlong (Nat.not_lt_of_le hfits)⟩
        rintro ⟨error, herror⟩
        rw [payloadData, hok] at herror
        cases herror
  | _ =>
      constructor
      · rintro ⟨error, herror⟩
        cases herror
      · exact False.elim

theorem isReadBack_mediaTable (media : Media) : (mediaTable media).IsReadBack 2 := by
  refine isReadBack_leaves ["file_name", "file_uri", "mime_type", "caption"] ?_ ?_ (by decide)
  · refine List.forall_mem_append.mpr ⟨?_, forall_mem_optional isLeaf_string⟩
    simp [isLeaf_string]
  · rw [mediaTable, Table.keys_append]
    exact (List.Sublist.refl _).append (keys_optional_sublist _ _ _)

theorem payloadData_recording {recording : Recording} {t : Table}
    (ht : payloadData (.audioRecording recording) = .ok t) :
    recording.durationMs.toNat ≤ Toml.maxInteger ∧
      t = [("file_uri", .string recording.fileUri),
        ("duration_ms", .integer recording.durationMs.toNat)] := by
  rw [payloadData] at ht
  rcases Nat.lt_or_ge Toml.maxInteger recording.durationMs.toNat with hlong | hfits
  · rw [ofWord64_eq_error hlong] at ht
    cases ht
  · rw [ofWord64_eq_ok hfits] at ht
    cases ht
    exact ⟨hfits, rfl⟩

/-- The content of a payload is read back. That of a contact has a level below it. -/
theorem isReadBack_payloadData {payload : Payload} {t : Table} (ht : payloadData payload = .ok t) :
    t.IsReadBack 2 := by
  cases payload with
  | text body =>
      cases ht
      exact isReadBack_leaves ["text"] (by simp [isLeaf_string]) (List.Sublist.refl _) (by decide)
  | link body url =>
      cases ht
      exact isReadBack_leaves ["text", "url"] (by simp [isLeaf_string]) (List.Sublist.refl _)
        (by decide)
  | image media | video media | file media =>
      cases ht
      exact isReadBack_mediaTable media
  | audioRecording recording =>
      obtain ⟨hfits, rfl⟩ := payloadData_recording ht
      exact isReadBack_leaves ["file_uri", "duration_ms"]
        (by simp [isLeaf_string, isLeaf_integer hfits]) (List.Sublist.refl _) (by decide)
  | contactBundle contact =>
      cases ht
      have hbundle : Table.IsReadBack 1
          [("name", .string contact.name), ("bundle_id", .string contact.bundleId)] :=
        isReadBack_leaves ["name", "bundle_id"] (by simp [isLeaf_string]) (List.Sublist.refl _)
          (by decide)
      exact isReadBack_of_fields ["bundle"] (List.forall_mem_nil _)
        (List.forall_mem_singleton.mpr (.table (List.cons_ne_nil _ _) hbundle))
        (List.Sublist.refl _) (by decide)

theorem payloadData_ne_nil {payload : Payload} {t : Table} (ht : payloadData payload = .ok t) :
    t ≠ [] := by
  cases payload with
  | audioRecording recording =>
      obtain ⟨-, rfl⟩ := payloadData_recording ht
      exact List.cons_ne_nil _ _
  | _ =>
      cases ht
      exact List.cons_ne_nil _ _

theorem media?_reread (reading : Reading) (origin : Toml.Origin) (media : Media) :
    media? reading (.table origin (Toml.rereadEntries (mediaTable media))) = some media := by
  have hcaption := optional_map text?_reread media.caption
  simp [media?, recordTable?, mediaTable, required, text?_reread, hcaption]

theorem recording?_reread {length : UInt64} {v : Value} (hv : word64? v.reread = some length)
    (uri : String) (reading : Reading) (origin : Toml.Origin) :
    recording? reading (.table origin (Toml.rereadEntries
      [("file_uri", .string uri), ("duration_ms", v)])) = some ⟨uri, length⟩ := by
  simp [recording?, recordTable?, required, text?_reread, hv]

/-- The content of a payload is told by its kind and what is read back. -/
theorem payloadOfKind?_reread {payload : Payload} {t : Table} (ht : payloadData payload = .ok t)
    (reading : Reading) (origin : Toml.Origin) :
    payloadOfKind? reading (.table origin (Toml.rereadEntries t)) payload.kind = some payload := by
  cases payload with
  | audioRecording recording =>
      obtain ⟨-, rfl⟩ := payloadData_recording ht
      rw [Payload.kind, payloadOfKind?, recording?_reread (word64?_reread recording.durationMs)]
      rfl
  | image media | video media | file media =>
      cases ht
      simp [Payload.kind, payloadOfKind?, media?_reread]
  | text body =>
      cases ht
      rfl
  | link body url =>
      cases ht
      rfl
  | contactBundle contact =>
      cases ht
      rfl

/-! ## Payloads under two keys -/

theorem bind_pure_eq_ok {ε α β : Type} {x : Except ε α} {f : α → β} {b : β}
    (h : (x >>= fun a => pure (f a)) = .ok b) : ∃ a, x = .ok a ∧ f a = b := by
  cases x with
  | error e => cases h
  | ok a => exact ⟨a, rfl, Except.ok.inj h⟩

theorem bind_pure_eq_error_iff {ε α β : Type} {x : Except ε α} {f : α → β} :
    (∃ e, (x >>= fun a => pure (f a)) = .error e) ↔ ∃ e, x = .error e := by
  cases x with
  | error e => exact ⟨fun _ => ⟨e, rfl⟩, fun _ => ⟨e, rfl⟩⟩
  | ok a =>
      constructor
      · rintro ⟨e, herror⟩
        cases herror
      · rintro ⟨e, herror⟩
        cases herror

/-- The two entries of a payload, one with a plain value and one with a table. -/
theorem payloadTable_eq_ok {payload : Payload} {t : Table} (ht : payloadTable payload = .ok t) :
    ∃ data, payloadData payload = .ok data ∧
      [("content_type", .string payload.kind.word)] ++ [("data", ofTable data)] = t :=
  bind_pure_eq_ok ht

theorem payloadTable_eq_error_iff (payload : Payload) :
    (∃ error, payloadTable payload = .error error) ↔ payload.IsOverlong :=
  bind_pure_eq_error_iff.trans (payloadData_eq_error_iff payload)

theorem isBranch_payloadData {payload : Payload} {data : Table}
    (hdata : payloadData payload = .ok data) :
    ∀ entry ∈ [("data", ofTable data)], entry.2.IsBranch (Table.IsReadBack 2) :=
  List.forall_mem_singleton.mpr (.table (payloadData_ne_nil hdata) (isReadBack_payloadData hdata))

theorem isReadBack_payloadTable {payload : Payload} {t : Table}
    (ht : payloadTable payload = .ok t) : t.IsReadBack 3 := by
  obtain ⟨data, hdata, rfl⟩ := payloadTable_eq_ok ht
  exact isReadBack_of_fields ["content_type", "data"] (by simp [isLeaf_string])
    (isBranch_payloadData hdata) (List.Sublist.refl _) (by decide)

theorem word?_reread (reading : Reading) (kind : ContentKind) :
    word? reading ContentKind.ofWord? (Value.string kind.word).reread = some kind :=
  ContentKind.ofWord?_word kind

theorem payload?_reread {payload : Payload} {t : Table} (ht : payloadTable payload = .ok t) :
    payload? (Toml.rereadEntries t) = some payload := by
  obtain ⟨data, hdata, rfl⟩ := payloadTable_eq_ok ht
  have hkind : Table.get? (Toml.rereadEntries
      ([("content_type", .string payload.kind.word)] ++ [("data", ofTable data)]))
      "content_type" = some (Value.string payload.kind.word).reread := rfl
  have hvalue : Table.get? (Toml.rereadEntries
      ([("content_type", .string payload.kind.word)] ++ [("data", ofTable data)]))
      "data" = some (ofTable data).reread := rfl
  rw [payload?, hkind, hvalue, required, Option.bind_some, word?_reread, Option.bind_eq_bind,
    Option.bind_some, Option.bind_eq_bind, Option.bind_some]
  exact payloadOfKind?_reread hdata _ _

theorem enclosedPayload?_eq {payload : Payload} {data t : Table}
    (hdata : payloadData payload = .ok data)
    (hkind : t.get? "content_type" = some (Value.string payload.kind.word).reread)
    (hvalue : t.get? "data" = some (ofTable data).reread) : enclosedPayload? t = some payload := by
  rw [enclosedPayload?, hkind, hvalue, required, Option.bind_some, word?_reread,
    Option.bind_eq_bind, Option.bind_some, Option.bind_eq_bind, Option.bind_some]
  exact payloadOfKind?_reread hdata _ _

/-! ## Envelopes -/

/-- The entries of a message to be sent, but for its content. -/
def outgoingFields (message : Outgoing) : Table :=
  [("chat_id", .string message.chatId), ("message_id", .string message.messageId)] ++
    entry? "reply_id" .string message.replyId ++
    entry? "single_recipient" .string message.singleRecipient ++
    [("content_type", .string message.payload.kind.word)]

theorem outgoingTable_eq_ok {message : Outgoing} {t : Table} (ht : outgoingTable message = .ok t) :
    ∃ data, payloadData message.payload = .ok data ∧
      outgoingFields message ++ [("data", ofTable data)] = t := by
  obtain ⟨u, hu, rfl⟩ := bind_pure_eq_ok ht
  obtain ⟨data, hdata, rfl⟩ := payloadTable_eq_ok hu
  exact ⟨data, hdata, List.append_assoc _ _ _⟩

theorem outgoingTable_eq_error_iff (message : Outgoing) :
    (∃ error, outgoingTable message = .error error) ↔ message.payload.IsOverlong :=
  bind_pure_eq_error_iff.trans (payloadTable_eq_error_iff message.payload)

theorem isReadBack_outgoingTable {message : Outgoing} {t : Table}
    (ht : outgoingTable message = .ok t) : t.IsReadBack 3 := by
  obtain ⟨data, hdata, rfl⟩ := outgoingTable_eq_ok ht
  refine isReadBack_of_fields
    ["chat_id", "message_id", "reply_id", "single_recipient", "content_type", "data"]
    ?_ (isBranch_payloadData hdata) ?_ (by decide)
  · simp only [outgoingFields, List.forall_mem_append]
    refine ⟨⟨⟨?_, forall_mem_optional isLeaf_string⟩, forall_mem_optional isLeaf_string⟩, ?_⟩
    · simp [isLeaf_string]
    · simp [isLeaf_string]
  · simp only [outgoingFields, Table.keys_append, List.append_assoc]
    exact (List.Sublist.refl _).append ((keys_optional_sublist _ _ _).append
      ((keys_optional_sublist _ _ _).append (List.Sublist.refl _)))

theorem outgoing?_reread {message : Outgoing} {t : Table} (ht : outgoingTable message = .ok t) :
    outgoing? (Toml.rereadEntries t) = some message := by
  obtain ⟨data, hdata, rfl⟩ := outgoingTable_eq_ok ht
  have hreply := optional_map text?_reread message.replyId
  have hsingle := optional_map text?_reread message.singleRecipient
  have hpayload : enclosedPayload? (Toml.rereadEntries
      (outgoingFields message ++ [("data", ofTable data)])) = some message.payload :=
    enclosedPayload?_eq hdata (by simp [outgoingFields]) (by simp [outgoingFields])
  simp only [outgoing?, hpayload]
  simp [outgoingFields, required, text?_reread, hreply, hsingle]

/-- The entries of a received message, but for its content. -/
def inboundFields (message : Inbound) : Table :=
  [("chat_id", .string message.chatId), ("message_id", .string message.messageId)] ++
    entry? "reply_id" .string message.replyId ++
    [("received_at", ofInstant message.receivedAt),
      ("content_type", .string message.payload.kind.word)]

theorem inboundTable_eq_ok {message : Inbound} {t : Table} (ht : inboundTable message = .ok t) :
    ∃ data, payloadData message.payload = .ok data ∧
      inboundFields message ++ [("data", ofTable data)] = t := by
  obtain ⟨u, hu, rfl⟩ := bind_pure_eq_ok ht
  obtain ⟨data, hdata, rfl⟩ := payloadTable_eq_ok hu
  refine ⟨data, hdata, ?_⟩
  simp [inboundFields]

theorem inboundTable_eq_error_iff (message : Inbound) :
    (∃ error, inboundTable message = .error error) ↔ message.payload.IsOverlong :=
  bind_pure_eq_error_iff.trans (payloadTable_eq_error_iff message.payload)

theorem isReadBack_inboundTable {message : Inbound} {t : Table}
    (ht : inboundTable message = .ok t) : t.IsReadBack 3 := by
  obtain ⟨data, hdata, rfl⟩ := inboundTable_eq_ok ht
  refine isReadBack_of_fields
    ["chat_id", "message_id", "reply_id", "received_at", "content_type", "data"]
    ?_ (isBranch_payloadData hdata) ?_ (by decide)
  · simp only [inboundFields, List.forall_mem_append]
    refine ⟨⟨?_, forall_mem_optional isLeaf_string⟩, ?_⟩
    · simp [isLeaf_string]
    · simp [ofInstant, isLeaf_string]
  · simp only [inboundFields, Table.keys_append, List.append_assoc]
    exact (List.Sublist.refl _).append ((keys_optional_sublist _ _ _).append (List.Sublist.refl _))

/-- A received message is read back whatever the time is then. -/
theorem inbound?_reread {message : Inbound} {t : Table} (ht : inboundTable message = .ok t)
    (now : Instant) : inbound? now (Toml.rereadEntries t) = some message := by
  obtain ⟨data, hdata, rfl⟩ := inboundTable_eq_ok ht
  have hreply := optional_map text?_reread message.replyId
  have hpayload : enclosedPayload? (Toml.rereadEntries
      (inboundFields message ++ [("data", ofTable data)])) = some message.payload :=
    enclosedPayload?_eq hdata (by simp [inboundFields]) (by simp [inboundFields])
  simp only [inbound?, hpayload]
  simp [inboundFields, required, withDefault, text?_reread, instant?_reread, hreply]

/-- Where a received message tells its time, the time now does not matter. -/
theorem inbound?_of_receivedAt {t : Table} (h : t.get? "received_at" ≠ none) (now later : Instant) :
    inbound? later t = inbound? now t := by
  obtain ⟨v, hv⟩ := Option.ne_none_iff_exists'.mp h
  rw [inbound?, inbound?, hv]
  rfl

/-! ## Messages in an outbox -/

theorem spooledTable_eq_ok {spooled : Spooled} {t : Table} (ht : spooledTable spooled = .ok t) :
    ∃ message, outgoingTable spooled.message = .ok message ∧
      [("attempts", .integer spooled.attempts.toNat),
          ("spooled_at", ofInstant spooled.spooledAt)] ++ [("message", ofTable message)] = t :=
  bind_pure_eq_ok ht

theorem spooledTable_eq_error_iff (spooled : Spooled) :
    (∃ error, spooledTable spooled = .error error) ↔ spooled.message.payload.IsOverlong :=
  bind_pure_eq_error_iff.trans (outgoingTable_eq_error_iff spooled.message)

theorem isReadBack_spooledTable {spooled : Spooled} {t : Table}
    (ht : spooledTable spooled = .ok t) : t.IsReadBack 4 := by
  obtain ⟨message, hmessage, rfl⟩ := spooledTable_eq_ok ht
  have hne : message ≠ [] := by
    obtain ⟨data, -, rfl⟩ := outgoingTable_eq_ok hmessage
    exact List.append_ne_nil_of_right_ne_nil _ (List.cons_ne_nil _ _)
  have hattempts := isLeaf_integer (toNat_le_maxInteger spooled.attempts)
  exact isReadBack_of_fields ["attempts", "spooled_at", "message"]
    (by simp [hattempts, ofInstant, isLeaf_string])
    (List.forall_mem_singleton.mpr (.table hne (isReadBack_outgoingTable hmessage)))
    (List.Sublist.refl _) (by decide)

theorem spooled?_eq {spooled : Spooled} {origin : Toml.Origin} {attempts spooledAt : Value}
    {message t : Table} (hattempts : t.get? "attempts" = some attempts)
    (hspooledAt : t.get? "spooled_at" = some spooledAt)
    (hmessage : t.get? "message" = some (.table origin message))
    (hcount : word32? attempts = some spooled.attempts)
    (htime : instant? spooledAt = some spooled.spooledAt)
    (hback : outgoing? message = some spooled.message) : spooled? t = some spooled := by
  simp [spooled?, required, hattempts, hspooledAt, hmessage, hcount, htime, hback]

theorem spooled?_reread {spooled : Spooled} {t : Table} (ht : spooledTable spooled = .ok t) :
    spooled? (Toml.rereadEntries t) = some spooled := by
  obtain ⟨message, hmessage, rfl⟩ := spooledTable_eq_ok ht
  exact spooled?_eq rfl rfl rfl (word32?_reread spooled.attempts)
    (instant?_reread spooled.spooledAt) (outgoing?_reread hmessage)

end Stored

end Courier
