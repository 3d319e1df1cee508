import Courier.Proofs.Inbox.Receive

/-!
# Failed receives

A message that is not received leaves no file behind, and the user is not told of it. If the reason
was the summary of the chat, then the message was saved and taken back, and it can be received as
soon as nothing stands in the way of the registry's draft.
-/

namespace Courier.Inbox

open Store (Saves Locks Discards Prepares KeepsLock)

variable {layout : Layout} {message : Inbound} {notifications : Bool} {host after : Host}

/-! ## What is left -/

/-- What a failed receive may leave at a place: what stood there, a lock, a folder on the way to the
message, or nothing in the place of the message's draft. -/
inductive Residue (root : List String) (message : Inbound) (before after : View)
    (q : List String) : Prop
  | same (hsame : after q = before q)
  | lock (hq : q = Place.lock root) (hbefore : before q = none)
      (hafter : after q = some (.file ByteArray.empty))
  | folder (hq : q ∈ Store.chatFolders root message.chatId) (hbefore : before q = none)
      (hafter : after q = some .folder)
  | draft {content : ByteArray}
      (hq : q = Place.messageDraft root message.chatId message.messageId)
      (hbefore : before q = some (.file content)) (hafter : after q = none)

/-- Apart from the lock and the draft of the message, the files are the same. -/
theorem Residue.file_iff {root q : List String} {before after : View}
    (h : Residue root message before after q) (hlock : q ≠ Place.lock root)
    (hdraft : q ≠ Place.messageDraft root message.chatId message.messageId)
    (content : ByteArray) : after q = some (.file content) ↔ before q = some (.file content) := by
  cases h with
  | same hsame => rw [hsame]
  | lock hq => exact absurd hq hlock
  | folder _ hbefore hafter => simp [hbefore, hafter]
  | draft hq => exact absurd hq hdraft

/-- Outside of the received messages only the lock can change. -/
theorem Residue.look_eq {root : List String} {before after : View} {name : String}
    {more : List String} (h : Residue root message before after (root ++ name :: more))
    (hlock : name ≠ "store.lock") (hmessages : name ≠ "messages") :
    after (root ++ name :: more) = before (root ++ name :: more) := by
  cases h with
  | same hsame => exact hsame
  | lock hq => simp [Place.lock, hlock] at hq
  | folder hq => simp [Store.chatFolders, Place.chat, Place.messages, hmessages] at hq
  | draft hq => simp [Place.messageDraft_eq, hmessages] at hq

theorem residue_of_keepsLock {d after : Disk} (h : KeepsLock layout d after) :
    Residue (layout.place d) message d.look after.look (Place.lock (layout.place d)) := by
  rcases h with hsame | ⟨hnone, hmade⟩
  · exact .same hsame
  · exact .lock rfl hnone hmade

theorem residue_of_prepares {d after : Disk} (h : Prepares layout d message.chatId after)
    (q : List String) : Residue (layout.place d) message d.look after.look q := by
  by_cases hlock : q = Place.lock (layout.place d)
  · rw [hlock]
    exact residue_of_keepsLock h.keepsLock
  · obtain ⟨held, hlocks, hmakes⟩ := h
    have hheld := hlocks.look_of_ne hlock
    rcases hmakes.look_eq q with hsame | ⟨hmem, hnone, hmade⟩
    · exact .same (hsame.trans hheld)
    · exact .folder hmem (hheld.symm.trans hnone) hmade

theorem look_of_discards {d saved failed after : Disk} (hsaves : Saves layout d message saved)
    (hlocks : Locks layout saved failed)
    (hdiscards : Discards layout failed message.chatId message.messageId after) {q : List String}
    (hlock : q ≠ Place.lock (layout.place d))
    (hmessage : q ≠ Place.message (layout.place d) message.chatId message.messageId) :
    after.look q = saved.look q := by
  have hplace := layout.place_of_keeps hsaves.keeps
  have hplace' := (layout.place_of_keeps hlocks.keeps).trans hplace
  rw [hdiscards.look_of_ne q (hplace'.symm ▸ hlock) (hplace'.symm ▸ hmessage)]
  exact hlocks.look_of_ne (hplace.symm ▸ hlock)

theorem keepsLock_of_discards {d saved failed after : Disk} (hsaves : Saves layout d message saved)
    (hlocks : Locks layout saved failed)
    (hdiscards : Discards layout failed message.chatId message.messageId after) :
    KeepsLock layout d after := by
  apply hsaves.keepsLock.trans (layout.place_of_keeps hsaves.keeps)
  exact hlocks.keepsLock.trans (layout.place_of_keeps hlocks.keeps) hdiscards.keepsLock

/-- Discarding a message that was saved undoes the save, up to the folders on the way. -/
theorem residue_of_discards {d saved failed after : Disk} (hsaves : Saves layout d message saved)
    (hlocks : Locks layout saved failed)
    (hdiscards : Discards layout failed message.chatId message.messageId after)
    (q : List String) : Residue (layout.place d) message d.look after.look q := by
  by_cases hlock : q = Place.lock (layout.place d)
  · rw [hlock]
    exact residue_of_keepsLock (keepsLock_of_discards hsaves hlocks hdiscards)
  by_cases hmessage : q = Place.message (layout.place d) message.chatId message.messageId
  · have hplace := layout.place_of_keeps (hsaves.keeps.trans hlocks.keeps)
    apply Residue.same
    rw [hmessage, hsaves.absent, ← hplace]
    exact hdiscards.look_eq
  -- Elsewhere only the save counts.
  have hsaved := look_of_discards hsaves hlocks hdiscards hlock hmessage
  by_cases hdraft : q = Place.messageDraft (layout.place d) message.chatId message.messageId
  · have hgone : after.look q = none := by
      rw [hsaved, hdraft]
      exact hsaves.draft_eq
    cases hbefore : d.look q with
    | none => exact .same (hgone.trans hbefore.symm)
    | some node =>
        cases node with
        | file content => exact .draft hdraft hbefore hgone
        | folder => exact absurd (hdraft ▸ hbefore) hsaves.draft_ne
  by_cases hfolder : q ∈ Store.chatFolders (layout.place d) message.chatId
  · rcases hsaves.look_folder q hfolder with hsame | ⟨hnone, hmade⟩
    · exact .same (hsaved.trans hsame)
    · exact .folder hfolder hnone (hsaved.trans hmade)
  · exact .same (hsaved.trans (hsaves.look_of_ne q hlock hfolder hdraft hmessage))

/-! ## Receiving again -/

/-- Whether receiving a message over a disk enters it as one more unread message of its chat. -/
def IsReceivable (layout : Layout) (notifications : Bool) (message : Inbound) (d : Disk) : Prop :=
  ∀ again : Host, again.disk = d → ∃ notified final connection updated,
    receive (Host.services layout notifications) message again =
      (.ok (.processed notified), final) ∧
    Store.connection layout d message.chatId = .ok connection ∧
    Store.connection layout final.disk message.chatId = .ok updated ∧
    updated.summary.unreadCount.toNat =
      min (UInt32.size - 1) (connection.summary.unreadCount.toNat + 1)

theorem isReceived_eq_false {d : Disk} (hchat : Identifier.isValid message.chatId = true)
    (hmessage : Identifier.isValid message.messageId = true)
    (hnone : d.look (Place.message (layout.place d) message.chatId message.messageId) = none) :
    Store.isReceived layout d message.chatId message.messageId = .ok false := by
  have hmissing : d.exists? ((layout.chatMessages message.chatId).child
      (message.messageId ++ ".toml")) = false := by
    rw [← Bool.not_eq_true, Disk.exists?_child_iff
      (Disk.isName_document (Identifier.isPiece_of_isValid hmessage)),
      layout.placeOf_chatMessages d (Identifier.isName_of_isValid hchat)]
    intro h
    exact h.2 hnone
  rw [Store.isReceived, Store.messagePath_of_isValid hchat hmessage]
  simp only [bind, Except.bind, hmissing]
  rfl

/-- A new message that can be saved is received if the registry can be rewritten. -/
theorem isReceivable_of_admits {d : Disk} {t : Toml.Table} {known : Registry} {entry : Registration}
    (hchat : Identifier.isValid message.chatId = true)
    (hmessage : Identifier.isValid message.messageId = true)
    (htable : Stored.inboundTable message = .ok t)
    (hlock : d.Admits layout.dataFolder "store.lock")
    (hregistryDraft : d.Admits layout.dataFolder "connections.toml.tmp")
    (hknown : Store.registryIn (Store.registryNode layout d) = some known)
    (hfind : known.find? message.chatId = some entry) (hkind : entry.connection.kind = .direct)
    (hdraft : d.Admits (layout.chatMessages message.chatId) (message.messageId ++ ".toml.tmp"))
    (hnone : d.look (Place.message (layout.place d) message.chatId message.messageId) = none) :
    IsReceivable layout notifications message d := by
  rintro again rfl
  have hregistry := hregistryDraft.toOpens.of_draft Layout.isPiece_connections
  obtain ⟨saved, hsave⟩ := Store.saveMessage_of_admits hchat hmessage htable hlock hregistry hknown
    hfind hdraft hnone
  obtain ⟨h, -⟩ | ⟨-, hsaves⟩ := Store.saveMessage_cases hsave
  · exact absurd rfl h
  -- Saving touched nothing that stands in the way of the registry.
  have hlockSaved : saved.Admits layout.dataFolder "store.lock" :=
    hsaves.keepsLock.admits hsaves.keeps hlock
  have hdraftSaved : saved.Admits layout.dataFolder "connections.toml.tmp" := by
    refine ⟨hsaves.keeps.opens hregistryDraft.toOpens, ?_⟩
    have hsame : saved.look (Place.registryDraft (layout.place again.disk)) =
        again.disk.look (Place.registryDraft (layout.place again.disk)) :=
      hsaves.look_outside (by decide) (by decide) []
    rw [hsaves.keeps.placeOf_eq]
    exact fun hfolder => hregistryDraft.ne_folder (hsame.symm.trans hfolder)
  have hknownSaved : Store.registryIn (Store.registryNode layout saved) = some known := by
    rw [hsaves.registryNode_eq]
    exact hknown
  obtain ⟨updated, hupdate⟩ := @Store.updateSummary_of_admits layout saved (summaryUpdate message)
    known entry hlockSaved hdraftSaved hknownSaved hfind .increment
  have hguard : Store.isReceived layout again.disk message.chatId message.messageId = .ok false :=
    isReceived_eq_false hchat hmessage hnone
  obtain ⟨final, hreceive⟩ : ∃ final, receive (Host.services layout notifications) message again =
      (.ok (.processed entry.permissions.notifications), final) := by
    rw [Host.services, receive_of_registration
      (Store.registration_of_registryIn hregistry hknown hfind) hkind]
    unfold keep
    simp only [bind, StateT.bind, Host.servicesGuardedBy, Host.ask, Host.alter, hguard, hsave]
    obtain ⟨final, htold, -⟩ := announce_of_updated hupdate
    exact ⟨final, htold⟩
  obtain ⟨connection, updated, hbefore, hafter, hcount⟩ :=
    (course_of_receive hreceive).unreadCount_eq
  refine ⟨_, final, connection, updated, hreceive, hbefore, hafter, ?_⟩
  rw [hcount]
  exact toNat_saturatingSucc _

/-! ## The ways to fail -/

theorem look_clear_registryDraft (d : Disk) (root : List String) {name : String}
    (hne : name ≠ "connections.toml.tmp") (more : List String) :
    (d.clear (Place.registryDraft root)).look (root ++ name :: more) =
      d.look (root ++ name :: more) := by
  apply Disk.look_clear_of_not_prefix
  simpa [List.prefix_append_right_inj] using hne.symm

/-- A message that was taken back can be received once nothing stands in the way of the registry's
draft, if the data folder is still reached. -/
theorem isReceivable_of_discards {d saved failed after : Disk} {known : Registry}
    {entry : Registration} (hsaves : Saves layout d message saved)
    (hknown : Store.registryIn (Store.registryNode layout d) = some known)
    (hfind : known.find? message.chatId = some entry) (hkind : entry.connection.kind = .direct)
    (hlocks : Locks layout saved failed)
    (hdiscards : Discards layout failed message.chatId message.messageId after)
    (hexists : (after.clear (Place.registryDraft (layout.place after))).exists? layout.registry =
      true) :
    IsReceivable layout notifications message
      (after.clear (Place.registryDraft (layout.place after))) := by
  have hsavedPlace := layout.place_of_keeps hsaves.keeps
  have hkeeps := (hsaves.keeps.trans hlocks.keeps).trans hdiscards.keeps
  have hplace : layout.place after = layout.place d := layout.place_of_keeps hkeeps
  have hlockAfter : after.Admits layout.dataFolder "store.lock" :=
    (keepsLock_of_discards hsaves hlocks hdiscards).admits hkeeps hsaves.admitsLock
  have hname := Identifier.isName_of_isValid hsaves.validChat
  rw [hplace] at hexists ⊢
  generalize hcleared : after.clear (Place.registryDraft (layout.place d)) = cleared at hexists ⊢
  have hclearedPlace : layout.place cleared = layout.place d := by
    rw [← hcleared]
    exact hplace
  obtain ⟨hregistry, -⟩ := (Disk.exists?_child_iff Layout.isName_registry).mp hexists
  have hclear {name : String} (hne : name ≠ "connections.toml.tmp") (more : List String) :
      cleared.look (layout.place d ++ name :: more) =
        after.look (layout.place d ++ name :: more) :=
    hcleared ▸ look_clear_registryDraft after (layout.place d) hne more
  -- Taking back left all that saving had left, but for the message.
  have hback {q : List String} (hlock : q ≠ Place.lock (layout.place d))
      (hmessage : q ≠ Place.message (layout.place d) message.chatId message.messageId) :
      after.look q = saved.look q :=
    look_of_discards hsaves hlocks hdiscards hlock hmessage
  obtain ⟨-, hmessages, hsize, hchat⟩ :=
    (Store.passes_chatMessages_iff hname).mp hsaves.opensDraft.passes
  rw [hsavedPlace] at hmessages hchat
  have hinside (q : List String) (hq : "messages" :: q ≠
      "messages" :: [message.chatId, message.messageId ++ ".toml"]) :
      cleared.look (layout.place d ++ "messages" :: q) =
        saved.look (layout.place d ++ "messages" :: q) := by
    rw [hclear (by decide)]
    apply hback
    · simp [Place.lock]
    · rw [Place.message_eq]
      exact fun h => hq (List.append_cancel_left h)
  obtain ⟨t, htable, -⟩ := hsaves.written
  refine isReceivable_of_admits hsaves.validChat hsaves.validMessage htable ⟨?_, ?_⟩ ⟨?_, ?_⟩ ?_
    hfind hkind ⟨?_, ?_⟩ ?_
  · exact ⟨hsaves.admitsLock.usable, hregistry.passes, by decide⟩
  · change cleared.look (Place.lock (layout.place cleared)) ≠ some .folder
    rw [hclearedPlace, Place.lock, hclear (by decide), ← hplace]
    exact hlockAfter.ne_folder
  · exact Store.opens_registryDraft hsaves.validChat hsaves.validMessage hregistry.passes
      hsaves.opensDraft.usable
  · change cleared.look (Place.registryDraft (layout.place cleared)) ≠ some .folder
    rw [hclearedPlace, ← hcleared, Place.registryDraft, Disk.look_clear_self]
    simp
  · rw [Store.registryNode, hclearedPlace, Place.registry, hclear (by decide),
      hback (by simp [Place.lock]) (by simp [Place.message_eq]),
      hsaves.look_outside (by decide) (by decide)]
    exact hknown
  · refine ⟨hsaves.opensDraft.usable, ?_, hsaves.opensDraft.size_le⟩
    apply (Store.passes_chatMessages_iff hname).mpr
    refine ⟨hregistry.passes, ?_, hsize, ?_⟩
    · rw [hclearedPlace, Place.messages, hinside [] (by simp)]
      exact hmessages
    · rw [hclearedPlace, Place.chat_eq, hinside _ (by simp), ← Place.chat_eq]
      exact hchat
  · rw [layout.placeOf_chatMessages cleared hname, hclearedPlace, ← Place.messageDraft,
      Place.messageDraft_eq, hinside _ (by simp), ← Place.messageDraft_eq, hsaves.draft_eq]
    simp
  · rw [hclearedPlace, Place.message_eq, hclear (by decide), ← Place.message_eq,
      ← layout.place_of_keeps (hsaves.keeps.trans hlocks.keeps)]
    exact hdiscards.look_eq

/-- What can be said of a failed receive: what it left at each place, what became of the files, and
that the user was not told. -/
structure LeavesNothing (layout : Layout) (message : Inbound) (before after : Host) : Prop where
  residue : ∀ q, Residue (layout.place before.disk) message before.disk.look after.disk.look q
  file_iff : ∀ q content, q ≠ Place.lock (layout.place before.disk) →
    q ≠ Place.messageDraft (layout.place before.disk) message.chatId message.messageId →
    (after.disk.look q = some (.file content) ↔ before.disk.look q = some (.file content))
  place_eq : layout.place after.disk = layout.place before.disk
  notices_eq : after.notices = before.notices
  console_eq : after.console = before.console

/-- The steps of a receive that failed at the summary: the message was saved, the summary could not
be changed, and the message was discarded without a failure to tell of. -/
structure IsTakenBack (layout : Layout) (message : Inbound) (error : StoreError)
    (before after : Host) : Prop where
  steps : ∃ saved failed,
    Store.saveMessage layout before.disk message = (saved, .ok true) ∧
    Store.updateSummary layout saved (summaryUpdate message) .increment = (failed, .error error) ∧
    Store.discardMessage layout failed message.chatId message.messageId = (after.disk, .ok ())
  log_eq : after.log = before.log

theorem leavesNothing_of_residue {d : Disk}
    (hresidue : ∀ q, Residue (layout.place host.disk) message host.disk.look d.look q)
    (hkeeps : host.disk.Keeps d) : LeavesNothing layout message host { host with disk := d } := by
  constructor
  · exact hresidue
  · intro q content hlock hdraft
    exact (hresidue q).file_iff hlock hdraft content
  · exact layout.place_of_keeps hkeeps
  · rfl
  · rfl

theorem leavesNothing_of_course {error : ReceiveError}
    (h : Course layout message host (.error error) after) :
    LeavesNothing layout message host after := by
  have hrefl := (Locks.refl layout host.disk).prepares message.chatId
  cases h with
  | refused => exact leavesNothing_of_residue (residue_of_prepares hrefl) hrefl.keeps
  | unsaved hdisk => exact leavesNothing_of_residue (residue_of_prepares hdisk) hdisk.keeps
  | takenBack _ hsaves hlocks _ _ hdiscards =>
      apply leavesNothing_of_residue (residue_of_discards hsaves hlocks hdiscards)
      exact (hsaves.keeps.trans hlocks.keeps).trans hdiscards.keeps

/-- A receive that fails leaves every place as it was, but for a lock, folders on the way to the
message and the draft of the message. If it was the summary that could not be changed, the message
was saved and discarded again, and it can be received once whatever stands at the draft of the
registry is gone, unless the data folder itself was reached through that. -/
theorem receive_error {error : ReceiveError}
    (h : receive (Host.services layout notifications) message host = (.error error, after)) :
    LeavesNothing layout message host after ∧
      ∀ failure, error = .connectionUpdate failure →
        IsTakenBack layout message failure host after ∧
        ((after.disk.clear (Place.registryDraft (layout.place after.disk))).exists?
            layout.registry = true →
          IsReceivable layout notifications message
            (after.disk.clear (Place.registryDraft (layout.place after.disk)))) := by
  have hcourse := course_of_receive h
  refine ⟨leavesNothing_of_course hcourse, ?_⟩
  rintro failure rfl
  by_cases hregistered : ∃ entry, Store.registration layout host.disk message.chatId = .ok entry ∧
      entry.connection.kind = .direct
  · obtain ⟨entry, hentry, hkind⟩ := hregistered
    obtain ⟨known, -, hknown, hfind⟩ := Store.registration_eq_ok hentry
    cases hcourse with
    | refused herror => exact absurd rfl (herror failure)
    | takenBack hsave hsaves hlocks hupdate hdiscard hdiscards =>
        refine ⟨⟨⟨_, _, hsave, hupdate, hdiscard⟩, rfl⟩, ?_⟩
        exact isReceivable_of_discards hsaves hknown hfind hkind hlocks hdiscards
  · obtain ⟨e, he, hrefused⟩ := @receive_of_not_registered layout message notifications
      (fun chatId messageId => Host.ask fun d => Store.isReceived layout d chatId messageId)
      host fun entry hentry hkind => hregistered ⟨entry, hentry, hkind⟩
    rw [Host.services, hrefused] at h
    cases h
    exact absurd rfl (he failure)

/-! ## A blocked registry -/

instance decidableEqResult : DecidableEq (Except ReceiveError Outcome)
  | .ok a, .ok b => decidable_of_iff (a = b) (by simp)
  | .error e, .error f => decidable_of_iff (e = f) (by simp)
  | .ok _, .error _ => isFalse (by simp)
  | .error _, .ok _ => isFalse (by simp)

/-- A message of a chat. -/
def greeting : Inbound :=
  { chatId := "a", messageId := "m", receivedAt := .ofEpoch 0 0, payload := .text "hi" }

/-- A host that knows one chat, where a folder stands at the draft of the registry. -/
def blockedHost (unread : String) : Host where
  disk :=
    { root := .folder [("data", .folder
        [("connections.toml", .file ("[[connection]]\nchat_id=\"a\"\nname=\"A\"\n" ++
          "summary.unread_count=" ++ unread ++ "\n").toUTF8),
         ("connections.toml.tmp", .empty)])]
      current := [] }
  clock _ := .ofEpoch 0 0
  random _ := 0

/-- The message is received. -/
def receiveGreeting (folder : String) (host : Host) : Except ReceiveError Outcome × Host :=
  receive (Host.services ⟨⟨folder⟩⟩ true) greeting host

/-- A host after the message was received and the draft of the registry was removed. -/
def unblocked (folder : String) (host : Host) : Host :=
  let tried := (receiveGreeting folder host).2
  let draft := Place.registryDraft (Layout.place ⟨⟨folder⟩⟩ tried.disk)
  { tried with disk := tried.disk.clear draft }

/-- The number of unread messages of the chat. -/
def unreadGreetings (folder : String) (host : Host) : Option Nat :=
  (Store.connection ⟨⟨folder⟩⟩ host.disk greeting.chatId).toOption.map
    fun connection => connection.summary.unreadCount.toNat

theorem receiveGreeting_blocked : (receiveGreeting "/data" (blockedHost "4294967295")).1 =
    .error (.connectionUpdate
      (.unavailable "/data/connections.toml.tmp: Is a directory (os error 21)")) := by
  decide +kernel

theorem receive_error_blocked : ∃ after,
    receive (Host.services ⟨⟨"/data"⟩⟩ true) greeting (blockedHost "4294967295") =
      (.error (.connectionUpdate
        (.unavailable "/data/connections.toml.tmp: Is a directory (os error 21)")), after) ∧
    LeavesNothing ⟨⟨"/data"⟩⟩ greeting (blockedHost "4294967295") after ∧
    IsTakenBack ⟨⟨"/data"⟩⟩ greeting
      (.unavailable "/data/connections.toml.tmp: Is a directory (os error 21)")
      (blockedHost "4294967295") after ∧
    IsReceivable ⟨⟨"/data"⟩⟩ true greeting
      (after.disk.clear (Place.registryDraft (Layout.place ⟨⟨"/data"⟩⟩ after.disk))) := by
  refine ⟨_, Prod.ext receiveGreeting_blocked rfl, ?_⟩
  obtain ⟨hnothing, hrest⟩ := receive_error (Prod.ext receiveGreeting_blocked rfl)
  obtain ⟨htaken, hagain⟩ := hrest _ rfl
  refine ⟨hnothing, htaken, hagain ?_⟩
  decide +kernel

/-- Receiving again does not always raise the count by one: it stays at the greatest number, and
nothing is received if the data folder was reached through what was removed. -/
theorem receive_again_limits :
    ((receiveGreeting "/data" (blockedHost "4294967295")).1 = .error (.connectionUpdate
        (.unavailable "/data/connections.toml.tmp: Is a directory (os error 21)")) ∧
      (receiveGreeting "/data" (unblocked "/data" (blockedHost "4294967295"))).1 =
        .ok (.processed true) ∧
      unreadGreetings "/data" (unblocked "/data" (blockedHost "4294967295")) =
        some 4294967295 ∧
      unreadGreetings "/data"
        (receiveGreeting "/data" (unblocked "/data" (blockedHost "4294967295"))).2 =
        some 4294967295) ∧
    (receiveGreeting "/data/connections.toml.tmp/.." (blockedHost "0")).1 =
      .error (.connectionUpdate (.unavailable
        "/data/connections.toml.tmp/../connections.toml.tmp: Is a directory (os error 21)")) ∧
    (receiveGreeting "/data/connections.toml.tmp/.."
      (unblocked "/data/connections.toml.tmp/.." (blockedHost "0"))).1 =
        .error (.connection (.chatNotFound "a")) := by
  have hagain : (receiveGreeting "/data" (unblocked "/data" (blockedHost "4294967295"))).1 =
      .ok (.processed true) := by decide +kernel
  have hbefore : unreadGreetings "/data" (unblocked "/data" (blockedHost "4294967295")) =
      some 4294967295 := by decide +kernel
  refine ⟨⟨receiveGreeting_blocked, hagain, hbefore, ?_⟩, by decide +kernel, by decide +kernel⟩
  -- The written registry is not evaluated: the count follows from the one before.
  obtain ⟨connection, updated, hconnection, hupdated, hcount⟩ :=
    (course_of_receive (Prod.ext hagain rfl)).unreadCount_eq
  rw [unreadGreetings, hconnection] at hbefore
  rw [unreadGreetings, receiveGreeting, hupdated]
  have hfull : connection.summary.unreadCount.toNat = 4294967295 := Option.some.inj hbefore
  change some updated.summary.unreadCount.toNat = _
  rw [hcount, toNat_saturatingSucc, hfull]
  rfl

end Courier.Inbox
