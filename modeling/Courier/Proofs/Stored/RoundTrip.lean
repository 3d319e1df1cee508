import Courier.Proofs.Stored.Chat
import Courier.Proofs.Stored.Message

/-!
# Storing and reading back

Everything that is stored comes back from its text exactly as it was. The only thing that cannot be
stored is a recording whose length exceeds the greatest integer of a document.
-/

namespace Courier.Stored

open Toml (Table)

/-- Values of a type are refused exactly if they are overlong, and all others are read back from
their text. -/
structure IsReadBack {α : Type} (overlong : α → Prop) (encode : α → Except Unwritable Table)
    (decode? : Table → Option α) : Prop where
  refused_iff : ∀ a, (∃ error, encode a = .error error) ↔ overlong a
  decode_eq : ∀ {a t}, encode a = .ok t → (Toml.read? (Toml.write t)).bind decode? = some a

variable {α : Type}

/-- A type is read back if its tables are, and if their entries tell the value. -/
theorem IsReadBack.of_table {overlong : α → Prop} {encode : α → Except Unwritable Table}
    {decode? : Table → Option α} {levels : Nat} (hlevels : levels ≤ Toml.maxKeyParts)
    (hrefused : ∀ a, (∃ error, encode a = .error error) ↔ overlong a)
    (htable : ∀ {a t}, encode a = .ok t → t.IsReadBack levels)
    (hdecode : ∀ {a t}, encode a = .ok t → decode? (Toml.rereadEntries t) = some a) :
    IsReadBack overlong encode decode? where
  refused_iff := hrefused
  decode_eq ht := by
    rw [((htable ht).mono hlevels).read?_write]
    exact hdecode ht

/-- A type whose values are never refused is read back if its tables are. -/
theorem IsReadBack.of_total {encode : α → Table} {decode? : Table → Option α} {levels : Nat}
    (hlevels : levels ≤ Toml.maxKeyParts) (htable : ∀ a, (encode a).IsReadBack levels)
    (hdecode : ∀ a, decode? (Toml.rereadEntries (encode a)) = some a) :
    IsReadBack (fun _ => False) (fun a => .ok (encode a)) decode? := by
  refine of_table hlevels ?_ ?_ ?_
  · intro a
    constructor
    · rintro ⟨error, herror⟩
      cases herror
    · exact False.elim
  · rintro a _ ⟨⟩
    exact htable a
  · rintro a _ ⟨⟩
    exact hdecode a

theorem payload_isReadBack : IsReadBack Payload.IsOverlong payloadTable payload? :=
  .of_table (by decide) payloadTable_eq_error_iff isReadBack_payloadTable payload?_reread

theorem outgoing_isReadBack :
    IsReadBack (fun message => message.payload.IsOverlong) outgoingTable outgoing? :=
  .of_table (by decide) outgoingTable_eq_error_iff isReadBack_outgoingTable outgoing?_reread

theorem inbound_isReadBack (now : Instant) :
    IsReadBack (fun message => message.payload.IsOverlong) inboundTable (inbound? now) :=
  .of_table (by decide) inboundTable_eq_error_iff isReadBack_inboundTable
    fun ht => inbound?_reread ht now

theorem spooled_isReadBack :
    IsReadBack (fun spooled => spooled.message.payload.IsOverlong) spooledTable spooled? :=
  .of_table (by decide) spooledTable_eq_error_iff isReadBack_spooledTable spooled?_reread

theorem summary_isReadBack :
    IsReadBack (fun _ => False) (fun summary => .ok (summaryTable summary))
      (summaryOfTable? .direct) :=
  .of_total (by decide) isReadBack_summaryTable fun summary =>
    summaryOfTable?_reread summary .direct

theorem permissions_isReadBack :
    IsReadBack (fun _ => False) (fun permissions => .ok (permissionsTable permissions))
      permissionsOfTable? :=
  .of_total (by decide) isReadBack_permissionsTable permissionsOfTable?_reread

theorem connection_isReadBack :
    IsReadBack (fun _ => False) (fun connection => .ok (connectionTable connection))
      (connection? .direct) := by
  refine .of_total (by decide) isReadBack_connectionTable fun connection => ?_
  have hback := connection?_reread connection .direct []
  rwa [List.append_nil] at hback

theorem registry_isReadBack :
    IsReadBack (fun _ => False) (fun registry => .ok (registryTable registry)) registry? :=
  .of_total (by decide) isReadBack_registryTable registry?_reread

/-- Everything that is stored is read back exactly, unless it holds a recording that is too long,
which is the only thing that cannot be written. -/
theorem stored_isReadBack :
    (∀ now, IsReadBack (fun message => message.payload.IsOverlong) inboundTable (inbound? now)) ∧
    IsReadBack (fun message => message.payload.IsOverlong) outgoingTable outgoing? ∧
    IsReadBack Payload.IsOverlong payloadTable payload? ∧
    IsReadBack (fun spooled => spooled.message.payload.IsOverlong) spooledTable spooled? ∧
    IsReadBack (fun _ => False) (fun connection => .ok (connectionTable connection))
      (connection? .direct) ∧
    IsReadBack (fun _ => False) (fun summary => .ok (summaryTable summary))
      (summaryOfTable? .direct) ∧
    IsReadBack (fun _ => False) (fun permissions => .ok (permissionsTable permissions))
      permissionsOfTable? ∧
    IsReadBack (fun _ => False) (fun registry => .ok (registryTable registry)) registry? :=
  ⟨inbound_isReadBack, outgoing_isReadBack, payload_isReadBack, spooled_isReadBack,
    connection_isReadBack, summary_isReadBack, permissions_isReadBack, registry_isReadBack⟩

end Courier.Stored
