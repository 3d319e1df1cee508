import Courier.Proofs.Store.Undisturbed

/-!
# Why the store refuses

Once the registry was read it can be read again under the lock, so that a change of it fails for a
reason of its own or because a file could not be used. Where the lock and the draft of the registry
can be written nothing else keeps it from being changed.
-/

namespace Courier

/-- Whether the store refused since a file could not be used. -/
def StoreError.IsUnavailable (error : StoreError) : Prop :=
  ∃ details, error = .unavailable details

namespace Store

open Disk (Passes Opens Admits)

variable {layout : Layout} {d held after : Disk} {known changed : Registry} {error : StoreError}

theorem isUnavailable_unavailable (p : Path) (failure : FileError) :
    (unavailable p failure).IsUnavailable :=
  ⟨_, rfl⟩

/-! ## The lock -/

variable {α : Type}

theorem locked_eq_error {change : Disk → Disk × Except StoreError α}
    (h : locked layout d change = (after, .error error)) :
    error.IsUnavailable ∨ ∃ held, Locks layout d held ∧ d.Admits layout.dataFolder "store.lock" ∧
      change held = (after, .error error) := by
  unfold locked at h
  cases happend : d.append layout.lock ByteArray.empty with
  | error failure =>
      rw [happend] at h
      cases h
      exact .inl (isUnavailable_unavailable _ _)
  | ok held =>
      obtain ⟨hadmits, hcurrent, hlook⟩ := Disk.append_empty_child_eq_ok Layout.isName_lock happend
      rw [happend] at h
      exact .inr ⟨held, ⟨hcurrent, hlook⟩, hadmits, h⟩

/-- A registry that was read is read again under the lock. -/
theorem registry_of_locks (hlock : d.Admits layout.dataFolder "store.lock")
    (hlocks : Locks layout d held) (hknown : registry layout d = .ok known) :
    held.Opens layout.dataFolder "connections.toml" ∧ registry layout held = .ok known := by
  have hopens := opens_of_registry_eq_ok hknown hlock.passes
  have hopensHeld := hlocks.keeps.opens hopens
  refine ⟨hopensHeld, ?_⟩
  rw [registry_eq_ok_iff hopensHeld, hlocks.registryNode_eq, ← registry_eq_ok_iff hopens]
  exact hknown

theorem writeDocument_eq_error {p : Path} {t : Toml.Table}
    (h : writeDocument d p t = (after, .error error)) : error.IsUnavailable := by
  rw [writeDocument_eq] at h
  cases hreplace : (d.replace p (Toml.write t)).2 with
  | error failure =>
      rw [hreplace] at h
      cases h
      exact isUnavailable_unavailable _ _
  | ok done =>
      rw [hreplace] at h
      cases h

/-! ## Changing the registry -/

/-- Whether the lock and the draft of the registry can be written. -/
structure IsWritable (layout : Layout) (d : Disk) : Prop where
  lock : d.Admits layout.dataFolder "store.lock"
  draft : d.Admits layout.dataFolder "connections.toml.tmp"

theorem IsWritable.opens (h : IsWritable layout d) :
    d.Opens layout.dataFolder "connections.toml" :=
  h.draft.toOpens.of_draft Layout.isPiece_connections

theorem IsWritable.locks (h : IsWritable layout d) (hlocks : Locks layout d after) :
    IsWritable layout after :=
  ⟨hlocks.keepsLock.admits hlocks.keeps h.lock,
    hlocks.admits h.draft (Place.registryDraft_ne_lock _)⟩

theorem IsWritable.rewrites (h : IsWritable layout d)
    (hrewrites : Rewrites layout d known changed after) : IsWritable layout after :=
  ⟨hrewrites.keepsLock.admits hrewrites.keeps h.lock,
    h.draft.keeps hrewrites.keeps (.inr hrewrites.draft_eq)⟩

theorem registry_of_rewrites (h : IsWritable layout d)
    (hrewrites : Rewrites layout d known changed after) : registry layout after = .ok changed :=
  registry_of_registryIn (hrewrites.keeps.opens h.opens) hrewrites.registryIn_eq

variable {change : Registry → Except StoreError Registry}

/-- A registry that was read is changed as it should be, and then it could be written, or it is
refused for the reason the change has, or because a file could not be used. -/
theorem changeRegistry_of_registry {result : Except StoreError Unit}
    (hknown : registry layout d = .ok known)
    (h : changeRegistry layout d change = (after, result)) :
    (∃ error, result = .error error ∧ error.IsUnavailable) ∨
    (∃ error, change known = .error error ∧ result = .error error ∧
      d.Admits layout.dataFolder "store.lock" ∧ Locks layout d after) ∨
    ∃ changed, change known = .ok changed ∧ result = .ok () ∧ IsWritable layout d ∧
      Rewrites layout d known changed after := by
  cases result with
  | error error =>
      rcases locked_eq_error h with hunavailable | ⟨held, hlocks, hlock, hheld⟩
      · exact .inl ⟨error, rfl, hunavailable⟩
      · rw [(registry_of_locks hlock hlocks hknown).2] at hheld
        cases hchange : change known with
        | error refusal =>
            simp only [Except.bind, hchange] at hheld
            cases hheld
            exact .inr (.inl ⟨_, rfl, rfl, hlock, hlocks⟩)
        | ok changed =>
            simp only [Except.bind, hchange] at hheld
            exact .inl ⟨error, rfl, writeDocument_eq_error hheld⟩
  | ok done =>
      rcases locked_cases h with ⟨-, error, ⟨⟩⟩ | ⟨held, hlocks, hlock, hheld⟩
      obtain ⟨hopens, hread⟩ := registry_of_locks hlock hlocks hknown
      rw [hread] at hheld
      cases hchange : change known with
      | error refusal =>
          simp only [Except.bind, hchange] at hheld
          cases hheld
      | ok changed =>
          simp only [Except.bind, hchange, writeDocument_eq] at hheld
          cases hreplace : held.replace layout.registry
              (Toml.write (Stored.registryTable changed)) with
          | mk written answer =>
              rw [hreplace] at hheld
              rcases Disk.replace_child_cases Layout.isPiece_connections _ hreplace with
                ⟨rfl, hreplaces⟩ | ⟨⟨failure, rfl⟩, -⟩
              · cases hheld
                refine .inr (.inr ⟨changed, rfl, rfl, ⟨hlock, ?_, ?_⟩,
                  rewrites_of_replaces hlocks hopens hread hreplaces⟩)
                · exact ⟨hreplaces.opens.usable, hlock.passes, hreplaces.opens.size_le⟩
                · have hne := hreplaces.draft_ne
                  rw [hlocks.keeps.placeOf_eq] at hne
                  exact fun hfolder =>
                    hne ((hlocks.look_of_ne (Place.registryDraft_ne_lock _)).trans hfolder)
              · cases hheld

/-- A registry that was read and can be written is changed unless the change refuses. -/
theorem changeRegistry_of_isWritable (hwritable : IsWritable layout d)
    (hknown : registry layout d = .ok known) :
    (changeRegistry layout d change).2 = (change known).map fun _ => () := by
  cases hchange : change known with
  | error error =>
      obtain ⟨held, hlocks, hheld⟩ := @locked_of_admits _ _ Unit hwritable.lock
      rw [changeRegistry, hheld, (registry_of_locks hwritable.lock hlocks hknown).2]
      simp only [Except.bind, hchange]
      rfl
  | ok changed =>
      obtain ⟨after, hafter⟩ := changeRegistry_of_admits hwritable.lock hwritable.draft
        ((registry_eq_ok_iff hwritable.opens).mp hknown) hchange
      rw [hafter]
      rfl

/-! ## Chats and messages that were looked up -/

/-- A chat that is known stays known until its summary is changed. -/
theorem updateSummary_eq_error {update : SummaryUpdate} {unread : UnreadChange}
    (hknown : registry layout d = .ok known) (hfind : known.find? update.chatId ≠ none)
    (h : updateSummary layout d update unread = (after, .error error)) :
    error.IsUnavailable := by
  obtain ⟨entry, hentry⟩ := Option.ne_none_iff_exists'.mp hfind
  rcases changeRegistry_of_registry hknown h with
    ⟨_, ⟨⟩, hunavailable⟩ | ⟨refusal, hchange, -⟩ | ⟨changed, -, ⟨⟩, -⟩
  · exact hunavailable
  · rw [hentry] at hchange
    cases hchange

variable {entry : Registration} {message : Inbound} {chatId : String} {p : Path} {t : Toml.Table}

theorem saveNew_eq_error (hentry : registration layout d chatId = .ok entry)
    (h : saveNew layout d chatId p t = (after, .error error)) : error.IsUnavailable := by
  unfold saveNew at h
  rw [hentry] at h
  dsimp only at h
  split at h
  · cases h
  · cases hmake : d.makeFolders (layout.chatMessages chatId) with
    | mk made answer =>
        rw [hmake] at h
        cases answer with
        | error failure =>
            cases h
            exact isUnavailable_unavailable _ _
        | ok done =>
            dsimp only at h
            cases hwrite : writeDocument made p t with
            | mk written answer =>
                rw [hwrite] at h
                cases answer with
                | error failure =>
                    cases h
                    exact writeDocument_eq_error hwrite
                | ok done => cases h

/-- Where the message has a path and a document, and its chat is known, nothing but a file keeps it
from being saved. -/
theorem saveMessage_eq_error (hentry : registration layout d message.chatId = .ok entry)
    (hpath : messagePath layout message.chatId message.messageId = .ok p)
    (htable : Stored.inboundTable message = .ok t)
    (h : saveMessage layout d message = (after, .error error)) : error.IsUnavailable := by
  unfold saveMessage at h
  rw [hpath] at h
  dsimp only at h
  rw [htable] at h
  rcases locked_eq_error h with hunavailable | ⟨held, hlocks, -, hheld⟩
  · exact hunavailable
  · exact saveNew_eq_error (registration_of_locks hlocks hentry) hheld

end Store

end Courier
