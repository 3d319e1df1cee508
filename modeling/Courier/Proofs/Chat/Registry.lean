import Courier.Chat.Registry
import Courier.Message.Identifier

/-!
# Changes of the registry

A change of one chat leaves the order and the identifiers of all entries as they are, and touches
only the first entry of that chat.
-/

namespace Courier.Registry

variable {registry : Registry} {chatId : String}

/-- The identifiers of the chats, in order. -/
def ids (registry : Registry) : List String :=
  registry.map (·.connection.chatId)

theorem find?_ne_none_iff : registry.find? chatId ≠ none ↔ chatId ∈ registry.ids := by
  simp [find?, ids]

theorem mem_ids_of_find? {entry : Registration} (h : registry.find? chatId = some entry) :
    chatId ∈ registry.ids := by
  rw [← find?_ne_none_iff]
  simp [h]

theorem not_mem_ids_of_find? (h : registry.find? chatId = none) : chatId ∉ registry.ids := by
  rw [← find?_ne_none_iff]
  simp [h]

/-! ## Changing an entry -/

/-- The entries before the first one of a chat, that one, and the entries after it. -/
theorem find?_eq_some_iff {entry : Registration} :
    registry.find? chatId = some entry ↔ entry.connection.chatId = chatId ∧
      ∃ front rest, registry = front ++ entry :: rest ∧
        ∀ other ∈ front, other.connection.chatId ≠ chatId := by
  simp [find?, List.find?_eq_some_iff_append]

theorem modify_append {front rest : Registry} {entry : Registration}
    (hfront : ∀ other ∈ front, other.connection.chatId ≠ chatId)
    (hentry : entry.connection.chatId = chatId) (change : Registration → Registration) :
    (front ++ entry :: rest : Registry).modify chatId change = front ++ change entry :: rest := by
  induction front with
  | nil => exact if_pos hentry
  | cons other front ih =>
      have hother := hfront other List.mem_cons_self
      have hrest := ih fun x hx => hfront x (List.mem_cons_of_mem other hx)
      rw [List.cons_append, modify, if_neg hother, hrest]
      rfl

variable {change : Registration → Registration}

theorem ids_modify (hchange : ∀ entry, (change entry).connection.chatId = entry.connection.chatId)
    (registry : Registry) (chatId : String) :
    (registry.modify chatId change).ids = registry.ids := by
  induction registry with
  | nil => rfl
  | cons entry registry ih =>
      rw [modify]
      split
      · simp [ids, hchange]
      · simpa [ids] using ih

theorem find?_modify (hchange : ∀ entry, (change entry).connection.chatId = entry.connection.chatId)
    {entry : Registration} (h : registry.find? chatId = some entry) :
    (registry.modify chatId change).find? chatId = some (change entry) := by
  obtain ⟨hentry, front, rest, rfl, hfront⟩ := find?_eq_some_iff.mp h
  rw [modify_append hfront hentry]
  exact find?_eq_some_iff.mpr ⟨(hchange entry).trans hentry, front, rest, rfl, hfront⟩

/-- The entries of other chats stay. -/
theorem find?_modify_of_ne
    (hchange : ∀ entry, (change entry).connection.chatId = entry.connection.chatId)
    {other : String} (hne : other ≠ chatId) (registry : Registry) :
    (registry.modify chatId change).find? other = registry.find? other := by
  induction registry with
  | nil => rfl
  | cons entry rest ih =>
      rw [modify]
      split
      next hentry =>
        have hother : ¬ entry.connection.chatId = other := fun h => hne (h.symm.trans hentry)
        have hchanged : ¬ (change entry).connection.chatId = other := by
          rw [hchange]
          exact hother
        rw [find?, find?, List.find?_cons_of_neg (by simpa using hchanged),
          List.find?_cons_of_neg (by simpa using hother)]
      next =>
        rw [find?] at ih
        rw [find?, find?, List.find?_cons, List.find?_cons, ih, find?]

/-- An entry after a change was there before, or it is the changed one. -/
theorem mem_modify {entry : Registration} (h : entry ∈ registry.modify chatId change) :
    entry ∈ registry ∨
      ∃ old ∈ registry, old.connection.chatId = chatId ∧ entry = change old := by
  induction registry with
  | nil => exact .inl h
  | cons first rest ih =>
      rw [modify] at h
      split at h
      next hfirst =>
        rcases List.mem_cons.mp h with rfl | hrest
        · exact .inr ⟨first, List.mem_cons_self, hfirst, rfl⟩
        · exact .inl (List.mem_cons_of_mem _ hrest)
      next =>
        rcases List.mem_cons.mp h with rfl | hrest
        · exact .inl List.mem_cons_self
        · rcases ih hrest with hkept | ⟨old, hold, hchanged⟩
          · exact .inl (List.mem_cons_of_mem _ hkept)
          · exact .inr ⟨old, List.mem_cons_of_mem _ hold, hchanged⟩

/-- Two changes of one chat are one change. -/
theorem modify_modify
    (hchange : ∀ entry, (change entry).connection.chatId = entry.connection.chatId)
    (next : Registration → Registration) (registry : Registry) (chatId : String) :
    (registry.modify chatId change).modify chatId next =
      registry.modify chatId fun entry => next (change entry) := by
  induction registry with
  | nil => rfl
  | cons entry rest ih =>
      by_cases hentry : entry.connection.chatId = chatId
      · have hchanged : (change entry).connection.chatId = chatId := (hchange entry).trans hentry
        rw [modify, modify, if_pos hentry, if_pos hentry, modify, if_pos hchanged]
      · rw [modify, modify, if_neg hentry, if_neg hentry, modify, if_neg hentry, ih]

/-- Changes of different chats can be made in either order. -/
theorem modify_comm {change other : Registration → Registration}
    (hchange : ∀ entry, (change entry).connection.chatId = entry.connection.chatId)
    (hother : ∀ entry, (other entry).connection.chatId = entry.connection.chatId)
    {chatId otherId : String} (hne : chatId ≠ otherId) (registry : Registry) :
    (registry.modify chatId change).modify otherId other =
      (registry.modify otherId other).modify chatId change := by
  induction registry with
  | nil => rfl
  | cons entry rest ih =>
      by_cases hentry : entry.connection.chatId = chatId
      · have hskip : ¬ entry.connection.chatId = otherId := fun h => hne (hentry.symm.trans h)
        have hskip' : ¬ (change entry).connection.chatId = otherId := by
          rw [hchange]
          exact hskip
        simp only [modify, hentry, hskip', hne, if_true, if_false]
      · by_cases hentry' : entry.connection.chatId = otherId
        · have hskip : ¬ (other entry).connection.chatId = chatId := by
            rw [hother]
            exact hentry
          simp only [modify, hentry', hskip, hne.symm, if_true, if_false]
        · simp only [modify, hentry, hentry', if_false, ih]

/-- A change of a chat that has no entry is none. -/
theorem modify_of_not_mem (h : chatId ∉ registry.ids) (change : Registration → Registration) :
    registry.modify chatId change = registry := by
  induction registry with
  | nil => rfl
  | cons entry rest ih =>
      have hne : ¬ entry.connection.chatId = chatId := fun heq => h (heq ▸ List.mem_cons_self)
      rw [modify, if_neg hne, ih fun hmem => h (List.mem_cons_of_mem _ hmem)]

/-- Where no chat occurs twice, a change of a chat is one of all its entries. -/
theorem modify_eq_map (hnodup : registry.ids.Nodup) (chatId : String)
    (change : Registration → Registration) :
    registry.modify chatId change =
      registry.map fun entry =>
        if entry.connection.chatId = chatId then change entry else entry := by
  induction registry with
  | nil => rfl
  | cons entry rest ih =>
      obtain ⟨hnew, hrest⟩ := List.nodup_cons.mp hnodup
      rw [modify, List.map_cons, ih hrest]
      split
      next hentry =>
        have hothers : ∀ other ∈ rest, ¬ other.connection.chatId = chatId := by
          intro other hother heq
          exact hnew (List.mem_map.mpr ⟨other, hother, heq.trans hentry.symm⟩)
        rw [List.map_congr_left fun other hother => if_neg (hothers other hother)]
        simp
      next hentry => rfl

/-! ## New messages and registrations -/

/-- New messages of different chats can be entered in either order. -/
theorem applyUpdate_comm {update other : SummaryUpdate} (hne : update.chatId ≠ other.chatId)
    (change : UnreadChange) (registry : Registry) :
    (registry.applyUpdate update change).applyUpdate other change =
      (registry.applyUpdate other change).applyUpdate update change := by
  apply modify_comm _ _ hne
  · intro entry
    rfl
  · intro entry
    rfl

theorem ids_applyUpdate (registry : Registry) (update : SummaryUpdate) (change : UnreadChange) :
    (registry.applyUpdate update change).ids = registry.ids := by
  apply ids_modify
  intro entry
  rfl

/-- Only the first entry of a chat is changed by a new message. -/
theorem applyUpdate_append {front rest : Registry} {entry : Registration} {update : SummaryUpdate}
    (hfront : ∀ other ∈ front, other.connection.chatId ≠ update.chatId)
    (hentry : entry.connection.chatId = update.chatId) (change : UnreadChange) :
    (front ++ entry :: rest : Registry).applyUpdate update change =
      front ++ { entry with connection := { entry.connection with
        summary := entry.connection.summary.apply update change } } :: rest := by
  rw [applyUpdate, modify_append hfront hentry]

/-- The entry of a chat after a new message. -/
theorem find?_applyUpdate {update : SummaryUpdate} {entry : Registration}
    (h : registry.find? update.chatId = some entry) (change : UnreadChange) :
    (registry.applyUpdate update change).find? update.chatId =
      some { entry with connection := { entry.connection with
        summary := entry.connection.summary.apply update change } } := by
  rw [applyUpdate, find?_modify _ h]
  intro other
  rfl

/-- A new message of another chat does not touch the entry of a chat. -/
theorem find?_applyUpdate_of_ne {update : SummaryUpdate} (hne : chatId ≠ update.chatId)
    (registry : Registry) (change : UnreadChange) :
    (registry.applyUpdate update change).find? chatId = registry.find? chatId := by
  rw [applyUpdate, find?_modify_of_ne _ hne]
  intro other
  rfl

/-- A new message changes the kind of no chat. -/
theorem kind_applyUpdate {entry : Registration} (h : registry.find? chatId = some entry)
    (update : SummaryUpdate) (change : UnreadChange) :
    ∃ changed, (registry.applyUpdate update change).find? chatId = some changed ∧
      changed.connection.kind = entry.connection.kind := by
  by_cases hown : chatId = update.chatId
  · subst hown
    exact ⟨_, find?_applyUpdate h change, rfl⟩
  · refine ⟨entry, ?_, rfl⟩
    rw [find?_applyUpdate_of_ne hown, h]

theorem chatId_reregister (connection : Connection) (permissions : Permissions)
    (entry : Registration) :
    (reregister connection permissions entry).connection.chatId = entry.connection.chatId :=
  rfl

/-- Whatever chat is registered, a chat that was known keeps its summary. -/
theorem find?_register {entry : Registration} (h : registry.find? chatId = some entry)
    (connection : Connection) (permissions : Permissions) :
    ∃ changed, (registry.register connection permissions).find? chatId = some changed ∧
      changed.connection.summary = entry.connection.summary := by
  rw [register]
  cases hfind : registry.find? connection.chatId with
  | none =>
      refine ⟨entry, ?_, rfl⟩
      rw [find?, List.find?_append, ← find?, h, Option.some_or]
  | some known =>
      dsimp only
      by_cases hown : chatId = connection.chatId
      · subst hown
        exact ⟨_, find?_modify (chatId_reregister _ _) h, rfl⟩
      · refine ⟨entry, ?_, rfl⟩
        rw [find?_modify_of_ne (chatId_reregister _ _) hown, h]

/-- A chat that is registered has the kind it was registered with. -/
theorem find?_register_self (registry : Registry) (connection : Connection)
    (permissions : Permissions) :
    ∃ entry, (registry.register connection permissions).find? connection.chatId = some entry ∧
      entry.connection.kind = connection.kind := by
  rw [register]
  cases hfind : registry.find? connection.chatId with
  | none =>
      refine ⟨⟨connection, permissions⟩, ?_, rfl⟩
      rw [find?, List.find?_append, ← find?, hfind, Option.none_or]
      simp
  | some known => exact ⟨_, find?_modify (chatId_reregister _ _) hfind, rfl⟩

/-- An entry after a chat was registered was there before, or it is the one of that chat: as it was
registered, with its old summary if there was one. -/
theorem mem_register {entry : Registration} {connection : Connection} {permissions : Permissions}
    (h : entry ∈ registry.register connection permissions) :
    entry ∈ registry ∨ entry = ⟨connection, permissions⟩ ∨
      ∃ old ∈ registry, old.connection.chatId = connection.chatId ∧
        entry = reregister connection permissions old := by
  rw [register] at h
  split at h
  next => exact (mem_modify h).imp_right .inr
  next =>
    rcases List.mem_append.mp h with hold | hnew
    · exact .inl hold
    · exact .inr (.inl (List.mem_singleton.mp hnew))

/-- A registered chat keeps its place, a new one comes last. -/
theorem ids_register (registry : Registry) (connection : Connection) (permissions : Permissions) :
    (registry.register connection permissions).ids =
      if connection.chatId ∈ registry.ids then registry.ids
      else registry.ids ++ [connection.chatId] := by
  rw [register]
  cases hfind : registry.find? connection.chatId with
  | none =>
      rw [if_neg (not_mem_ids_of_find? hfind)]
      simp [ids]
  | some entry =>
      rw [if_pos (mem_ids_of_find? hfind)]
      exact ids_modify (chatId_reregister connection permissions) registry connection.chatId

/-- A registry after a change: no chat is lost, and the identifiers stay distinct and valid if they
were. -/
structure IsExtendedBy (known changed : Registry) : Prop where
  mem_ids : ∀ id ∈ known.ids, id ∈ changed.ids
  nodup : known.ids.Nodup → changed.ids.Nodup
  valid : (∀ id ∈ known.ids, Identifier.isValid id = true) →
    ∀ id ∈ changed.ids, Identifier.isValid id = true

theorem isExtendedBy_of_ids_eq {known changed : Registry} (h : changed.ids = known.ids) :
    known.IsExtendedBy changed := by
  constructor <;> rw [h]
  · intro id hid
    exact hid
  · exact id
  · exact id

theorem isExtendedBy_applyUpdate (registry : Registry) (update : SummaryUpdate)
    (change : UnreadChange) : registry.IsExtendedBy (registry.applyUpdate update change) :=
  isExtendedBy_of_ids_eq (ids_applyUpdate registry update change)

theorem isExtendedBy_register (registry : Registry) {connection : Connection}
    (hvalid : Identifier.isValid connection.chatId = true) (permissions : Permissions) :
    registry.IsExtendedBy (registry.register connection permissions) := by
  by_cases hknown : connection.chatId ∈ registry.ids
  · apply isExtendedBy_of_ids_eq
    rw [ids_register, if_pos hknown]
  · constructor <;> rw [ids_register, if_neg hknown]
    · intro id hid
      exact List.mem_append_left _ hid
    · intro hnodup
      apply List.nodup_append.mpr
      refine ⟨hnodup, List.nodup_cons.mpr ⟨List.not_mem_nil, List.nodup_nil⟩, ?_⟩
      intro id hid other hother heq
      rw [heq, List.mem_singleton.mp hother] at hid
      exact hknown hid
    · intro hall id hid
      rcases List.mem_append.mp hid with hold | hnew
      · exact hall id hold
      · rw [List.mem_singleton.mp hnew]
        exact hvalid

end Courier.Registry
