import Courier.Proofs.Inbox.Answer

/-!
# Receiving in either order

Two different messages can be received in either order: the results, the notifications and the files
are the same. Only the summary of a chat that both belong to shows the message that came last.
-/

namespace Courier.Inbox

open Disk (hasFolder)
open Store (Locks Prepares Saves Discards KeepsLock Undisturbed registryIn registryNode)

variable {layout : Layout} {message x y : Inbound} {notifications : Bool} {host after : Host}
  {result : Except ReceiveError Outcome} {d : Disk}

/-! ## What a receive disturbs -/

theorem residue_lock {root : List String} {before after : View}
    (h : Residue root message before after (Place.lock root)) :
    after (Place.lock root) = before (Place.lock root) ∨
      before (Place.lock root) = none ∧ after (Place.lock root) = some (.file ByteArray.empty) := by
  cases h with
  | same hsame => exact .inl hsame
  | lock _ hnone hmade => exact .inr ⟨hnone, hmade⟩
  | folder hq => exact absurd hq (Store.lock_not_mem_chatFolders _ _)
  | draft hq => exact absurd hq.symm (Place.messageDraft_ne_lock _ _ _)

theorem Course.keepsLock (h : Course layout message host result after) :
    KeepsLock layout host.disk after.disk := by
  cases hresult : isProcessed result with
  | false => exact residue_lock ((h.residue hresult).2 _)
  | true =>
      cases h with
      | processed hsaves _ hrewrites =>
          exact hsaves.keepsLock.trans (layout.place_of_keeps hsaves.keeps) hrewrites.keepsLock
      | _ => cases hresult

theorem Course.keeps (h : Course layout message host result after) :
    host.disk.Keeps after.disk := by
  cases h with
  | refused => exact .refl host.disk
  | duplicate hdisk => exact hdisk.keeps
  | unsaved hdisk => exact hdisk.keeps
  | takenBack _ hsaves hlocks _ _ hdiscards =>
      exact (hsaves.keeps.trans hlocks.keeps).trans hdiscards.keeps
  | processed hsaves _ hrewrites => exact hsaves.keeps.trans hrewrites.keeps

/-- Apart from the lock, the registry and the message, each with its draft, a receive changes no
place but those of the folders that it makes. -/
theorem Course.look_cases (h : Course layout message host result after) {q : List String}
    (hlock : q ≠ Place.lock (layout.place host.disk))
    (hregistry : q ≠ Place.registry (layout.place host.disk))
    (hregistryDraft : q ≠ Place.registryDraft (layout.place host.disk))
    (hmessage : q ≠ Place.message (layout.place host.disk) message.chatId message.messageId)
    (hdraft : q ≠ Place.messageDraft (layout.place host.disk) message.chatId message.messageId) :
    after.disk.look q = host.disk.look q ∨
      q ∈ Store.chatFolders (layout.place host.disk) message.chatId ∧
        host.disk.look q = none ∧ after.disk.look q = some .folder := by
  cases hresult : isProcessed result with
  | false =>
      cases (h.residue hresult).2 q with
      | same hsame => exact .inl hsame
      | lock hq => exact absurd hq hlock
      | folder hq hnone hmade => exact .inr ⟨hq, hnone, hmade⟩
      | draft hq => exact absurd hq hdraft
  | true =>
      cases h with
      | @processed _ saved _ _ hsaves _ hrewrites =>
          have hplace := layout.place_of_keeps hsaves.keeps
          have hlater : after.disk.look q = saved.look q := by
            apply hrewrites.look_of_ne
            · rwa [hplace]
            · rwa [hplace]
            · rwa [hplace]
          rw [hlater]
          by_cases hfolder : q ∈ Store.chatFolders (layout.place host.disk) message.chatId
          · exact (hsaves.look_folder q hfolder).imp_right fun hmade => ⟨hfolder, hmade⟩
          · exact .inl (hsaves.look_of_ne q hlock hfolder hdraft hmessage)
      | _ => cases hresult

theorem Course.hasFolder_registryDraft (h : Course layout message host result after) :
    hasFolder after.disk.look (Place.registryDraft (layout.place host.disk)) =
      hasFolder host.disk.look (Place.registryDraft (layout.place host.disk)) := by
  have hkept := h.keeps.folders (Place.registryDraft (layout.place host.disk))
  cases hresult : isProcessed result with
  | false =>
      apply Store.hasFolder_eq_of_look
      exact ((h.residue hresult).2 _).look_eq (by decide) (by decide)
  | true =>
      cases h with
      | processed hsaves _ hrewrites =>
          have hgone := hrewrites.draft_eq
          rw [layout.place_of_keeps hsaves.keeps] at hgone
          rw [Store.hasFolder_eq_false (by simp [hgone]), Store.hasFolder_eq_false]
          exact fun hfolder => by cases hgone.symm.trans (hkept hfolder)
      | _ => cases hresult

/-- Receiving a message disturbs no other one. -/
theorem Course.undisturbed (h : Course layout y host result after)
    (hne : x.chatId ≠ y.chatId ∨ x.messageId ≠ y.messageId) :
    Undisturbed layout x host.disk after.disk := by
  have hother : ¬ (x.chatId = y.chatId ∧ x.messageId = y.messageId) := not_and_or.mpr hne
  have hoff {q : List String} (hq : q ∉ Store.chatFolders (layout.place host.disk) y.chatId)
      (hchange : after.disk.look q = host.disk.look q ∨
        q ∈ Store.chatFolders (layout.place host.disk) y.chatId ∧
          host.disk.look q = none ∧ after.disk.look q = some .folder) :
      after.disk.look q = host.disk.look q :=
    hchange.resolve_right fun hmade => hq hmade.1
  constructor
  · exact h.keeps
  · exact h.keepsLock.hasFolder_eq
  · exact h.hasFolder_registryDraft
  · apply Store.hasFolder_eq_of_look
    apply hoff (Store.messageDraft_not_mem_chatFolders _ _ _ _)
    apply h.look_cases
    · exact Place.messageDraft_ne_lock _ _ _
    · simp [Place.messageDraft_eq, Place.registry]
    · simp [Place.messageDraft_eq, Place.registryDraft]
    · exact (Place.message_ne_messageDraft _ _ _ _ _).symm
    · exact fun hsame => hother (Place.messageDraft_injective _ hsame)
  · apply hoff (Store.message_not_mem_chatFolders _ _ _ _)
    apply h.look_cases
    · exact Place.message_ne_lock _ _ _
    · exact (Place.registry_ne_message _ _ _).symm
    · exact (Place.registryDraft_ne_message _ _ _).symm
    · exact fun hsame => hother (Place.message_injective _ hsame)
    · exact Place.message_ne_messageDraft _ _ _ _ _
  · intro q hq
    have hne {place : List String}
        (hplace : place ∉ Store.chatFolders (layout.place host.disk) x.chatId) : q ≠ place :=
      fun heq => hplace (heq ▸ hq)
    have hcases := h.look_cases (hne ?_) (hne ?_) (hne ?_) (hne ?_) (hne ?_)
    · exact hcases.imp_right fun hmade => hmade.2
    · exact Store.lock_not_mem_chatFolders _ _
    · simp [Store.chatFolders, Place.registry, Place.chat, Place.messages]
    · simp [Store.chatFolders, Place.registryDraft, Place.chat, Place.messages]
    · exact Store.message_not_mem_chatFolders _ _ _ _
    · exact Store.messageDraft_not_mem_chatFolders _ _ _ _

/-! ## What a receive keeps of the registry -/

theorem registration_eq (hopens : d.Opens layout.dataFolder "connections.toml") {known : Registry}
    (hknown : registryIn (registryNode layout d) = some known) (chatId : String) :
    Store.registration layout d chatId =
      ((known.find? chatId).map Except.ok).getD (.error (.chatNotFound chatId)) := by
  rw [Store.registration, Store.registry_of_registryIn hopens hknown]
  simp only [bind, Except.bind]
  cases known.find? chatId <;> rfl

theorem withoutSummary_applyUpdate (known : Registry) (update : SummaryUpdate)
    (change : UnreadChange) (chatId : String) :
    ((known.applyUpdate update change).find? chatId).map withoutSummary =
      (known.find? chatId).map withoutSummary := by
  by_cases hown : chatId = update.chatId
  · subst hown
    cases hfind : known.find? update.chatId with
    | none =>
        have hnone : (known.applyUpdate update change).find? update.chatId = none := by
          rw [← not_ne_iff, Registry.find?_ne_none_iff, Registry.ids_applyUpdate,
            ← Registry.find?_ne_none_iff, not_ne_iff]
          exact hfind
        rw [hnone]
    | some entry =>
        rw [Registry.find?_applyUpdate hfind]
        rfl
  · rw [Registry.find?_applyUpdate_of_ne hown]

/-- What a receive does to the registry: it is entered there if it is processed. -/
theorem Course.registry_cases (h : Course layout message host result after) :
    isProcessed result = false ∧ registryNode layout after.disk = registryNode layout host.disk ∨
    isProcessed result = true ∧ ∃ known, registryIn (registryNode layout host.disk) = some known ∧
      known.find? message.chatId ≠ none ∧
      registryNode layout after.disk = some (.file (Toml.write (Stored.registryTable
        (known.applyUpdate (summaryUpdate message) .increment))).toUTF8) := by
  cases hresult : isProcessed result with
  | false => exact .inl ⟨rfl, h.registryNode_eq hresult⟩
  | true =>
      cases h with
      | processed hsaves hknown hrewrites =>
          obtain ⟨known, hin, hfind⟩ := hsaves.known
          rw [hsaves.registryNode_eq, hin] at hknown
          cases hknown
          exact .inr ⟨rfl, _, hin, hfind, hrewrites.node_eq⟩
      | _ => cases hresult

/-- Receiving a message keeps the entries of all chats. -/
theorem keepsEntry_of_receive
    (h : receive (Host.services layout notifications) message host = (result, after))
    (chatId : String) : KeepsEntry layout chatId host.disk after.disk := by
  have hcourse := course_of_receive h
  by_cases hregistered : ∃ entry, Store.registration layout host.disk message.chatId = .ok entry ∧
      entry.connection.kind = .direct
  · obtain ⟨entry, hentry, -⟩ := hregistered
    obtain ⟨known, hopens, hknown, -⟩ := Store.registration_eq_ok hentry
    have hopens' := hcourse.keeps.opens hopens
    rw [KeepsEntry, registration_eq hopens hknown]
    rcases hcourse.registry_cases with ⟨-, hsame⟩ | ⟨-, known', hknown', -, hnode⟩
    · rw [registration_eq hopens' (hsame ▸ hknown)]
    · rw [hknown] at hknown'
      cases hknown'
      have hchanged : registryIn (registryNode layout after.disk) =
          some (known.applyUpdate (summaryUpdate message) .increment) := by
        rw [hnode]
        exact Store.registryIn_write _
      have hfind := withoutSummary_applyUpdate known (summaryUpdate message) .increment chatId
      rw [registration_eq hopens' hchanged]
      generalize (known.applyUpdate (summaryUpdate message) .increment).find? chatId = changed
        at hfind ⊢
      generalize known.find? chatId = found at hfind ⊢
      cases changed with
      | none =>
          cases found with
          | none => rfl
          | some entry => cases hfind
      | some entry' =>
          cases found with
          | none => cases hfind
          | some entry => exact congrArg Except.ok (Option.some.inj hfind)
  · obtain ⟨error, -, hrefused⟩ := @receive_of_not_registered layout message notifications
      (fun chatId messageId => Host.ask fun d => Store.isReceived layout d chatId messageId)
      host fun entry hentry hkind => hregistered ⟨entry, hentry, hkind⟩
    rw [Host.services, hrefused] at h
    cases h
    rfl

/-! ## What a receive does to the files -/

/-- The bytes of the file at a place. -/
def fileAt (view : View) (q : List String) : Option ByteArray :=
  match view q with
  | some (.file content) => some content
  | _ => none

theorem fileAt_eq_some_iff {view : View} {q : List String} {content : ByteArray} :
    fileAt view q = some content ↔ view q = some (.file content) := by
  unfold fileAt
  cases view q with
  | none => simp
  | some node => cases node <;> simp

theorem fileAt_congr {view other : View} {q : List String}
    (h : other q = view q ∨ view q = none ∧ other q = some .folder) :
    fileAt other q = fileAt view q := by
  rcases h with hsame | ⟨hnone, hfolder⟩
  · rw [fileAt, fileAt, hsame]
  · rw [fileAt, fileAt, hnone, hfolder]

/-- What a receive leaves in the place of a file, where it changes one: the message, or nothing. -/
def leaves (root : List String) (message : Inbound) (result : Except ReceiveError Outcome)
    (q : List String) : Option (Option ByteArray) :=
  match result with
  | .ok (.processed _) =>
    if q = Place.message root message.chatId message.messageId then
      some ((Stored.inboundTable message).toOption.map fun t => (Toml.write t).toUTF8)
    else if q = Place.messageDraft root message.chatId message.messageId ∨
        q = Place.registryDraft root then some none
    else none
  | .error (.connectionUpdate _) =>
    if q = Place.messageDraft root message.chatId message.messageId then some none else none
  | _ => none

theorem fileAt_of_prepares {d after : Disk} (h : Prepares layout d message.chatId after)
    {q : List String} (hlock : q ≠ Place.lock (layout.place d)) :
    fileAt after.look q = fileAt d.look q := by
  obtain ⟨held, hlocks, hmakes⟩ := h
  apply fileAt_congr
  rw [← hlocks.look_of_ne hlock]
  exact (hmakes.look_eq q).imp_right fun hmade => hmade.2

theorem fileAt_of_saves {d saved : Disk} (h : Saves layout d message saved) {q : List String}
    (hlock : q ≠ Place.lock (layout.place d))
    (hmessage : q ≠ Place.message (layout.place d) message.chatId message.messageId)
    (hdraft : q ≠ Place.messageDraft (layout.place d) message.chatId message.messageId) :
    fileAt saved.look q = fileAt d.look q := by
  apply fileAt_congr
  by_cases hfolder : q ∈ Store.chatFolders (layout.place d) message.chatId
  · exact h.look_folder q hfolder
  · exact .inl (h.look_of_ne q hlock hfolder hdraft hmessage)

theorem fileAt_of_discards {d saved failed after : Disk} (hsaves : Saves layout d message saved)
    (hlocks : Locks layout saved failed)
    (hdiscards : Discards layout failed message.chatId message.messageId after) {q : List String}
    (hlock : q ≠ Place.lock (layout.place d))
    (hdraft : q ≠ Place.messageDraft (layout.place d) message.chatId message.messageId) :
    fileAt after.look q = fileAt d.look q := by
  apply fileAt_congr
  cases residue_of_discards hsaves hlocks hdiscards q with
  | same hsame => exact .inl hsame
  | lock hq => exact absurd hq hlock
  | folder _ hnone hmade => exact .inr ⟨hnone, hmade⟩
  | draft hq => exact absurd hq hdraft

/-- Apart from the lock and the registry, the files after a receive are those before it but for what
it leaves. -/
theorem Course.fileAt_eq (h : Course layout message host result after) {q : List String}
    (hlock : q ≠ Place.lock (layout.place host.disk))
    (hregistry : q ≠ Place.registry (layout.place host.disk)) :
    fileAt after.disk.look q = (leaves (layout.place host.disk) message result q).getD
      (fileAt host.disk.look q) := by
  cases h with
  | @refused error herror =>
      cases error with
      | connectionUpdate error => exact absurd rfl (herror error)
      | _ => rfl
  | duplicate hdisk => exact fileAt_of_prepares hdisk hlock
  | unsaved hdisk => exact fileAt_of_prepares hdisk hlock
  | takenBack _ hsaves hlocks _ _ hdiscards =>
      unfold leaves
      by_cases hdraft : q = Place.messageDraft (layout.place host.disk) message.chatId
          message.messageId
      · have hne : q ≠ Place.message (layout.place host.disk) message.chatId message.messageId :=
          hdraft ▸ (Place.message_ne_messageDraft _ _ _ _ _).symm
        have hgone := look_of_discards hsaves hlocks hdiscards hlock hne
        rw [hdraft, hsaves.draft_eq, ← hdraft] at hgone
        rw [if_pos hdraft, Option.getD_some, fileAt, hgone]
      · rw [if_neg hdraft, Option.getD_none]
        exact fileAt_of_discards hsaves hlocks hdiscards hlock hdraft
  | @processed _ saved _ _ hsaves _ hrewrites =>
      have hplace := layout.place_of_keeps hsaves.keeps
      unfold leaves
      by_cases hregistryDraft : q = Place.registryDraft (layout.place host.disk)
      · have hother : q ≠ Place.message (layout.place host.disk) message.chatId message.messageId :=
          hregistryDraft ▸ Place.registryDraft_ne_message _ _ _
        have hgone := hrewrites.draft_eq
        rw [hplace, ← hregistryDraft] at hgone
        rw [if_neg hother, if_pos (.inr hregistryDraft), Option.getD_some, fileAt, hgone]
      -- Entering the message into its summary touches nothing else, so only the save counts.
      have hsaved : fileAt after.disk.look q = fileAt saved.look q := by
        apply fileAt_congr
        left
        apply hrewrites.look_of_ne <;> rwa [hplace]
      rw [hsaved]
      by_cases hmessage : q = Place.message (layout.place host.disk) message.chatId
          message.messageId
      · obtain ⟨t, htable, hwritten⟩ := hsaves.written
        rw [if_pos hmessage, Option.getD_some, htable, hmessage]
        exact fileAt_eq_some_iff.mpr hwritten
      by_cases hdraft : q = Place.messageDraft (layout.place host.disk) message.chatId
          message.messageId
      · rw [if_neg hmessage, if_pos (.inl hdraft), Option.getD_some, fileAt, hdraft,
          hsaves.draft_eq]
      · rw [if_neg hmessage, if_neg (not_or.mpr ⟨hdraft, hregistryDraft⟩), Option.getD_none]
        exact fileAt_of_saves hsaves hlock hmessage hdraft

theorem leaves_eq_some {root q : List String} {left : Option ByteArray}
    (h : leaves root message result q = some left) :
    q = Place.message root message.chatId message.messageId ∨
      left = none ∧ (q = Place.messageDraft root message.chatId message.messageId ∨
        q = Place.registryDraft root) := by
  unfold leaves at h
  split at h
  · split at h
    · exact .inl ‹_›
    · split at h
      next hdraft => exact .inr ⟨(Option.some.inj h).symm, hdraft⟩
      · cases h
  · split at h
    next hdraft => exact .inr ⟨(Option.some.inj h).symm, .inl hdraft⟩
    · cases h
  · cases h

theorem message_ne_of_isDraft {root q : List String} {chatId messageId : String}
    (h : q = Place.messageDraft root chatId messageId ∨ q = Place.registryDraft root)
    (other otherId : String) : q ≠ Place.message root other otherId := by
  rcases h with rfl | rfl
  · exact (Place.message_ne_messageDraft _ _ _ _ _).symm
  · exact Place.registryDraft_ne_message _ _ _

/-- Two messages never leave different things in one place. -/
theorem eq_of_leaves {root q : List String} {first second : Except ReceiveError Outcome}
    (hne : x.chatId ≠ y.chatId ∨ x.messageId ≠ y.messageId) {left other : Option ByteArray}
    (hx : leaves root x first q = some left) (hy : leaves root y second q = some other) :
    left = other := by
  rcases leaves_eq_some hx with hmessage | ⟨hleft, hdraft⟩
  · rcases leaves_eq_some hy with hmessage' | ⟨-, hdraft'⟩
    · obtain ⟨hchat, hid⟩ := Place.message_injective _ (hmessage.symm.trans hmessage')
      exact absurd hid (hne.resolve_left fun h => h hchat)
    · exact absurd hmessage (message_ne_of_isDraft hdraft' _ _)
  · rcases leaves_eq_some hy with hmessage' | ⟨hother, -⟩
    · exact absurd hmessage' (message_ne_of_isDraft hdraft _ _)
    · rw [hleft, hother]

/-! ## What a receive does to the registry -/

/-- The registry after a message was received with a result. -/
def entering (message : Inbound) (result : Except ReceiveError Outcome) (node : Option Node) :
    Option Node :=
  if isProcessed result then
    (registryIn node).map fun known => .file (Toml.write (Stored.registryTable
      (known.applyUpdate (summaryUpdate message) .increment))).toUTF8
  else node

theorem Course.registryNode_eq_entering (h : Course layout message host result after) :
    registryNode layout after.disk = entering message result (registryNode layout host.disk) := by
  unfold entering
  rcases h.registry_cases with ⟨hresult, hsame⟩ | ⟨hresult, known, hknown, -, hnode⟩
  · rw [hresult, hsame]
    rfl
  · rw [if_pos hresult, hknown, hnode]
    rfl

theorem entering_entering {first second : Except ReceiveError Outcome}
    (hfirst : isProcessed first = true) (hsecond : isProcessed second = true)
    (node : Option Node) :
    entering y second (entering x first node) = (registryIn node).map fun known =>
      .file (Toml.write (Stored.registryTable
        ((known.applyUpdate (summaryUpdate x) .increment).applyUpdate (summaryUpdate y)
          .increment))).toUTF8 := by
  rw [entering, entering, if_pos hfirst, if_pos hsecond]
  cases registryIn node with
  | none => rfl
  | some known =>
      rw [Option.map_some, Store.registryIn_write]
      rfl

theorem entering_comm {first second : Except ReceiveError Outcome}
    (h : isProcessed first = true → isProcessed second = true → x.chatId ≠ y.chatId)
    (node : Option Node) :
    entering y second (entering x first node) = entering x first (entering y second node) := by
  by_cases hfirst : isProcessed first = true
  · by_cases hsecond : isProcessed second = true
    · rw [entering_entering hfirst hsecond, entering_entering hsecond hfirst]
      have hcomm (known : Registry) :
          (known.applyUpdate (summaryUpdate x) .increment).applyUpdate (summaryUpdate y)
              .increment =
            (known.applyUpdate (summaryUpdate y) .increment).applyUpdate (summaryUpdate x)
              .increment :=
        Registry.applyUpdate_comm (h hfirst hsecond) .increment known
      simp only [hcomm]
    · simp only [entering, if_neg hsecond]
  · simp only [entering, if_neg hfirst]

/-- A registry in which a chat shows a message as its latest one. How many messages are unread, and
whether the latest one is, stays as it was. -/
def showing (message : Inbound) (known : Registry) : Registry :=
  known.modify message.chatId (withSummary fun summary =>
    { summary with
      text := message.payload.preview
      recentKind := some message.payload.kind
      latestMessageId := some message.messageId
      timestamp := some message.receivedAt })

theorem modify_withSummary (first second : Summary → Summary) (known : Registry)
    (chatId : String) :
    (known.modify chatId (withSummary first)).modify chatId (withSummary second) =
      known.modify chatId (withSummary fun summary => second (first summary)) := by
  rw [Registry.modify_modify]
  · rfl
  · intro entry
    rfl

theorem applyUpdate_eq_modify (message : Inbound) (known : Registry) :
    known.applyUpdate (summaryUpdate message) .increment = known.modify message.chatId
      (withSummary fun summary => summary.apply (summaryUpdate message) .increment) :=
  rfl

/-- Two new messages of one chat count alike in either order. Only what the chat shows is that of
the later one. -/
theorem showing_applyUpdate (hchat : x.chatId = y.chatId) (known : Registry) :
    (known.applyUpdate (summaryUpdate x) .increment).applyUpdate (summaryUpdate y) .increment =
      showing y ((known.applyUpdate (summaryUpdate y) .increment).applyUpdate (summaryUpdate x)
        .increment) := by
  rw [showing, applyUpdate_eq_modify, applyUpdate_eq_modify, applyUpdate_eq_modify,
    applyUpdate_eq_modify, hchat, modify_withSummary, modify_withSummary, modify_withSummary]
  rfl

theorem showing_applyUpdate_self (message : Inbound) (known : Registry) :
    showing message (known.applyUpdate (summaryUpdate message) .increment) =
      known.applyUpdate (summaryUpdate message) .increment := by
  rw [showing, applyUpdate_eq_modify, modify_withSummary]
  rfl

/-! ## Either order -/

/-- Receives two messages, one after the other. -/
def receiveBoth {σ : Type} (services : Services σ) (first second : Inbound) :
    StateM σ (Except ReceiveError Outcome × Except ReceiveError Outcome) := do
  let earlier ← receive services first
  let later ← receive services second
  return (earlier, later)

/-- What two messages lead to in either order: the results, with those of the first message first,
and the hosts after the first message came first and after it came last. -/
structure Commutes (layout : Layout) (x y : Inbound)
    (forth back : (Except ReceiveError Outcome × Except ReceiveError Outcome) × Host) : Prop where
  results_eq : back.1 = forth.1.swap
  notices_perm : back.2.notices.Perm forth.2.notices
  place_eq : layout.place back.2.disk = layout.place forth.2.disk
  /-- Every file but the lock and the registry is the same. -/
  file_eq : ∀ q, q ≠ Place.lock (layout.place forth.2.disk) →
    q ≠ Place.registry (layout.place forth.2.disk) →
    fileAt back.2.disk.look q = fileAt forth.2.disk.look q
  /-- The registry is the same unless both messages are entered into the summary of one chat. -/
  registryNode_eq : (isProcessed forth.1.1 = true → isProcessed forth.1.2 = true →
      x.chatId ≠ y.chatId) →
    registryNode layout back.2.disk = registryNode layout forth.2.disk
  /-- Then the registries are the same but for the message that the chat shows. -/
  shown : isProcessed forth.1.1 = true → isProcessed forth.1.2 = true → x.chatId = y.chatId →
    ∃ shared : Registry, shared.find? x.chatId ≠ none ∧
      registryNode layout forth.2.disk =
        some (.file (Toml.write (Stored.registryTable (showing y shared))).toUTF8) ∧
      registryNode layout back.2.disk =
        some (.file (Toml.write (Stored.registryTable (showing x shared))).toUTF8)

theorem getD_getD_comm {α : Type} {left other : Option α}
    (h : ∀ a b, left = some a → other = some b → a = b) (before : α) :
    other.getD (left.getD before) = left.getD (other.getD before) := by
  cases left with
  | none => rfl
  | some a =>
      cases other with
      | none => rfl
      | some b => exact (h a b rfl rfl).symm

section Order

variable {hostX hostY hostXY hostYX : Host} {ofX ofY : Except ReceiveError Outcome}
  (hx : Course layout x host ofX hostX) (hxy : Course layout y hostX ofY hostXY)
  (hy : Course layout y host ofY hostY) (hyx : Course layout x hostY ofX hostYX)
include hx hxy hy hyx

theorem fileAt_comm (hne : x.chatId ≠ y.chatId ∨ x.messageId ≠ y.messageId) {q : List String}
    (hlock : q ≠ Place.lock (layout.place host.disk))
    (hregistry : q ≠ Place.registry (layout.place host.disk)) :
    fileAt hostYX.disk.look q = fileAt hostXY.disk.look q := by
  have hplace := layout.place_of_keeps hx.keeps
  have hplace' := layout.place_of_keeps hy.keeps
  rw [hxy.fileAt_eq (hplace ▸ hlock) (hplace ▸ hregistry), hx.fileAt_eq hlock hregistry,
    hyx.fileAt_eq (hplace' ▸ hlock) (hplace' ▸ hregistry), hy.fileAt_eq hlock hregistry,
    hplace, hplace']
  exact (getD_getD_comm (fun _ _ => eq_of_leaves hne) _).symm

theorem registryNode_comm (hchat : isProcessed ofX = true → isProcessed ofY = true →
    x.chatId ≠ y.chatId) :
    registryNode layout hostYX.disk = registryNode layout hostXY.disk := by
  rw [hxy.registryNode_eq_entering, hx.registryNode_eq_entering, hyx.registryNode_eq_entering,
    hy.registryNode_eq_entering, entering_comm hchat]

/-- Two messages of one chat that are both processed leave the same registry, but for what the chat
shows. -/
theorem exists_shown (hofX : isProcessed ofX = true) (hofY : isProcessed ofY = true)
    (hchat : x.chatId = y.chatId) :
    ∃ shared : Registry, shared.find? x.chatId ≠ none ∧
      registryNode layout hostXY.disk =
        some (.file (Toml.write (Stored.registryTable (showing y shared))).toUTF8) ∧
      registryNode layout hostYX.disk =
        some (.file (Toml.write (Stored.registryTable (showing x shared))).toUTF8) := by
  obtain ⟨-, known, hknown, hfind, -⟩ := hx.registry_cases.resolve_left fun h => by
    cases h.1.symm.trans hofX
  refine ⟨(known.applyUpdate (summaryUpdate y) .increment).applyUpdate (summaryUpdate x)
    .increment, ?_, ?_, ?_⟩
  · rw [Registry.find?_ne_none_iff, Registry.ids_applyUpdate, Registry.ids_applyUpdate,
      ← Registry.find?_ne_none_iff]
    exact hfind
  · rw [hxy.registryNode_eq_entering, hx.registryNode_eq_entering, entering_entering hofX hofY,
      hknown, Option.map_some, showing_applyUpdate hchat]
  · rw [hyx.registryNode_eq_entering, hy.registryNode_eq_entering, entering_entering hofY hofX,
      hknown, Option.map_some, showing_applyUpdate_self]

end Order

/-- Neither of two different messages disturbs the other one, so each is answered as if it had come
first. -/
theorem receiveBoth_cases (layout : Layout) (notifications : Bool) (host : Host)
    (hne : x.chatId ≠ y.chatId ∨ x.messageId ≠ y.messageId) :
    ∃ hostX hostXY,
      receiveBoth (Host.services layout notifications) x y host =
        ((answer layout x host.disk, answer layout y host.disk), hostXY) ∧
      Course layout x host (answer layout x host.disk) hostX ∧
      Course layout y hostX (answer layout y host.disk) hostXY ∧
      hostXY.notices = host.notices ++ told layout x host.disk ++ told layout y host.disk := by
  cases hx : receive (Host.services layout notifications) x host with
  | mk ofX hostX =>
      cases hxy : receive (Host.services layout notifications) y hostX with
      | mk ofY hostXY =>
          have hboth : receiveBoth (Host.services layout notifications) x y host =
              ((ofX, ofY), hostXY) := by
            simp only [receiveBoth, bind, StateT.bind, hx, hxy]
            rfl
          have hcourse := course_of_receive hx
          have hcourse' := course_of_receive hxy
          obtain ⟨hsame, htold⟩ := answer_eq (hcourse.undisturbed (hne.imp Ne.symm Ne.symm))
            (keepsEntry_of_receive hx y.chatId)
          obtain ⟨hofX, hnotices⟩ := receive_answer hx
          obtain ⟨hofY, hnotices'⟩ := receive_answer hxy
          rw [hsame] at hofY
          rw [← hofX, ← hofY]
          refine ⟨hostX, hostXY, hboth, hcourse, hcourse', ?_⟩
          rw [hnotices', hnotices, htold]

/-- Receives commute: two different messages are answered alike in either order, the same
notifications are shown, and the files are the same, but for what a chat that both belong to
shows. -/
theorem receive_comm (layout : Layout) (notifications : Bool) (host : Host)
    (hne : (x.chatId, x.messageId) ≠ (y.chatId, y.messageId)) :
    Commutes layout x y (receiveBoth (Host.services layout notifications) x y host)
      (receiveBoth (Host.services layout notifications) y x host) := by
  have hother : x.chatId ≠ y.chatId ∨ x.messageId ≠ y.messageId := by
    rw [← not_and_or]
    exact fun h => hne (Prod.ext h.1 h.2)
  obtain ⟨hostX, hostXY, hforth, hx, hxy, hnotices⟩ :=
    receiveBoth_cases layout notifications host hother
  obtain ⟨hostY, hostYX, hback, hy, hyx, hnotices'⟩ :=
    receiveBoth_cases layout notifications host (hother.imp Ne.symm Ne.symm)
  have hplace : layout.place hostXY.disk = layout.place host.disk :=
    layout.place_of_keeps (hx.keeps.trans hxy.keeps)
  have hplace' : layout.place hostYX.disk = layout.place host.disk :=
    layout.place_of_keeps (hy.keeps.trans hyx.keeps)
  rw [hforth, hback]
  constructor
  · rfl
  · dsimp only
    rw [hnotices, hnotices', List.append_assoc, List.append_assoc]
    exact List.perm_append_comm.append_left host.notices
  · exact hplace'.trans hplace.symm
  · intro q hlock hregistry
    rw [hplace] at hlock hregistry
    exact fileAt_comm hx hxy hy hyx hother hlock hregistry
  · exact registryNode_comm hx hxy hy hyx
  · exact exists_shown hx hxy hy hyx

/-- Another message of the chat of the greeting. -/
def farewell : Inbound :=
  { greeting with messageId := "n", payload := .text "bye" }

/-- Both messages are received, on a host that knows their chat. -/
def receiveOpen (first second : Inbound) :
    (Except ReceiveError Outcome × Except ReceiveError Outcome) × Host :=
  receiveBoth (Host.services ⟨⟨"/data"⟩⟩ true) first second openHost

theorem fst_receiveOpen (first second : Inbound) :
    (receiveOpen first second).1.1 =
      (receive (Host.services ⟨⟨"/data"⟩⟩ true) first openHost).1 :=
  rfl

theorem receive_comm_openHost :
    (greeting.chatId, greeting.messageId) ≠ (farewell.chatId, farewell.messageId) ∧
    (receiveOpen greeting farewell).1 = (.ok (.processed true), .ok (.processed true)) ∧
    Commutes ⟨⟨"/data"⟩⟩ greeting farewell (receiveOpen greeting farewell)
      (receiveOpen farewell greeting) := by
  have hne : (greeting.chatId, greeting.messageId) ≠ (farewell.chatId, farewell.messageId) := by
    decide
  have hcommutes : Commutes ⟨⟨"/data"⟩⟩ greeting farewell (receiveOpen greeting farewell)
      (receiveOpen farewell greeting) := by
    unfold receiveOpen
    exact receive_comm ⟨⟨"/data"⟩⟩ true openHost hne
  refine ⟨hne, ?_, hcommutes⟩
  -- Each message is answered as it is when it comes first.
  have hgreeting : (receiveOpen greeting farewell).1.1 = .ok (.processed true) := by
    rw [fst_receiveOpen]
    decide +kernel
  have hfarewell : (receiveOpen farewell greeting).1.1 = .ok (.processed true) := by
    rw [fst_receiveOpen]
    decide +kernel
  rw [hcommutes.results_eq, Prod.fst_swap] at hfarewell
  exact Prod.ext hgreeting hfarewell

end Courier.Inbox
