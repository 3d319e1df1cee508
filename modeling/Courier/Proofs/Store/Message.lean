import Courier.Proofs.Store.Local

/-!
# Saving and discarding messages

A message is saved where nothing was before, and only for a chat of the registry. Saving that fails
leaves no file behind, and discarding removes the file of the message only.
-/

namespace Courier.Store

open Disk (Passes Opens Admits Keeps Makes Replaces)

variable {layout : Layout} {d : Disk}

theorem checkId_eq_ok {id : String} (h : checkId id = .ok ()) : Identifier.isValid id = true := by
  unfold checkId at h
  split at h
  · assumption
  · cases h

/-- The path of a received message, if both of its identifiers are valid. -/
theorem messagePath_eq_ok {chatId messageId : String} {p : Path}
    (h : messagePath layout chatId messageId = .ok p) :
    Identifier.isValid chatId = true ∧ Identifier.isValid messageId = true ∧
      p = (layout.chatMessages chatId).child (messageId ++ ".toml") := by
  rw [messagePath] at h
  obtain ⟨_, hchat, hrest⟩ := bind_eq_ok h
  obtain ⟨_, hmessage, hpath⟩ := bind_eq_ok hrest
  exact ⟨checkId_eq_ok hchat, checkId_eq_ok hmessage, (Except.ok.inj hpath).symm⟩

theorem messagePath_of_isValid {chatId messageId : String}
    (hchat : Identifier.isValid chatId = true) (hmessage : Identifier.isValid messageId = true) :
    messagePath layout chatId messageId =
      .ok ((layout.chatMessages chatId).child (messageId ++ ".toml")) := by
  rw [messagePath, checkId, checkId, if_pos hchat, if_pos hmessage]
  rfl

/-! ## The folder of a chat -/

/-- The folder of a chat is reached through the data folder and the folder of all messages. -/
theorem passes_chatMessages_iff {chatId : String} (hchat : Path.IsName chatId) :
    Passes d.look (d.start (layout.chatMessages chatId)) (layout.chatMessages chatId).steps ↔
      Passes d.look (d.start layout.dataFolder) layout.dataFolder.steps ∧
        d.look (Place.messages (layout.place d)) = some .folder ∧
        chatId.utf8ByteSize ≤ Disk.maxNameLength ∧
        d.look (Place.chat (layout.place d) chatId) = some .folder := by
  have hmessages : d.placeOf layout.messages = Place.messages (layout.place d) :=
    Disk.placeOf_child d layout.dataFolder Layout.isName_messages
  have hsize : "messages".utf8ByteSize ≤ Disk.maxNameLength := by decide
  rw [Layout.chatMessages, Disk.passes_child_iff hchat, hmessages, Layout.messages,
    Disk.passes_child_iff Layout.isName_messages]
  constructor
  · rintro ⟨⟨hpasses, -, hlook⟩, hchatSize, hchatLook⟩
    exact ⟨hpasses, hlook, hchatSize, hchatLook⟩
  · rintro ⟨hpasses, hlook, hchatSize, hchatLook⟩
    exact ⟨⟨hpasses, hsize, hlook⟩, hchatSize, hchatLook⟩

/-- The folders that may be made for a message. -/
def chatFolders (root : List String) (chatId : String) : List (List String) :=
  [Place.messages root, Place.chat root chatId]

theorem makeFolders_chatMessages {chatId : String} (hchat : Path.IsName chatId)
    (hpasses : Passes d.look (d.start layout.dataFolder) layout.dataFolder.steps) {made : Disk}
    {result : Except FileError Unit}
    (h : d.makeFolders (layout.chatMessages chatId) = (made, result)) :
    d.Makes (chatFolders (layout.place d) chatId) made ∧
      (result = .ok () → made.look (Place.chat (layout.place d) chatId) = some .folder) :=
  Disk.makeFolders_child_child Layout.isName_messages hchat hpasses h

/-- A message that is not found and could be written, once folders are there, is not there. -/
theorem look_message_eq_none {chatId messageId : String} {made : Disk}
    (hchat : Identifier.isValid chatId = true) (hmessage : Identifier.isValid messageId = true)
    (hpasses : Passes d.look (d.start layout.dataFolder) layout.dataFolder.steps)
    (hopens : made.Opens (layout.chatMessages chatId) (messageId ++ ".toml"))
    (hmissing : ¬ d.exists? ((layout.chatMessages chatId).child (messageId ++ ".toml")) = true) :
    d.look (Place.message (layout.place d) chatId messageId) = none := by
  have hname := Identifier.isName_of_isValid hchat
  have hdocument := Disk.isName_document (Identifier.isPiece_of_isValid hmessage)
  cases hlook : d.look (Place.message (layout.place d) chatId messageId) with
  | none => rfl
  | some node =>
      -- What stands there stands in folders, so that its path can be followed.
      have hsome : d.look (Place.message (layout.place d) chatId messageId) ≠ none := by
        simp [hlook]
      have hchatFolder : d.look (Place.chat (layout.place d) chatId) = some .folder :=
        FileTree.look_eq_folder_of_append (List.cons_ne_nil _ _) hsome
      have hchatSome : d.look (Place.chat (layout.place d) chatId) ≠ none := by
        simp [hchatFolder]
      have hmessages : d.look (Place.messages (layout.place d)) = some .folder :=
        FileTree.look_eq_folder_of_append (List.cons_ne_nil _ _) hchatSome
      have hsize := ((passes_chatMessages_iff hname).mp hopens.passes).2.2.1
      have hfound : d.Opens (layout.chatMessages chatId) (messageId ++ ".toml") :=
        ⟨hopens.usable, (passes_chatMessages_iff hname).mpr
          ⟨hpasses, hmessages, hsize, hchatFolder⟩, hopens.size_le⟩
      refine absurd ((Disk.exists?_child_iff hdocument).mpr ⟨hfound, ?_⟩) hmissing
      rw [layout.placeOf_chatMessages d hname]
      exact hsome

/-! ## Saving -/

/-- A disk that has at most a lock more and folders for the messages of a chat. -/
def Prepares (layout : Layout) (d : Disk) (chatId : String) (after : Disk) : Prop :=
  ∃ held, Locks layout d held ∧ held.Makes (chatFolders (layout.place d) chatId) after

theorem Locks.prepares {held : Disk} (h : Locks layout d held) (chatId : String) :
    Prepares layout d chatId held :=
  ⟨held, h, .refl held _⟩

theorem Prepares.keeps {chatId : String} {after : Disk} (h : Prepares layout d chatId after) :
    d.Keeps after := by
  obtain ⟨held, hlocks, hmakes⟩ := h
  exact hlocks.keeps.trans hmakes.keeps

theorem lock_not_mem_chatFolders (root : List String) (chatId : String) :
    Place.lock root ∉ chatFolders root chatId := by
  simp [chatFolders, Place.lock, Place.chat, Place.messages]

theorem Prepares.keepsLock {chatId : String} {after : Disk} (h : Prepares layout d chatId after) :
    KeepsLock layout d after := by
  obtain ⟨held, hlocks, hmakes⟩ := h
  rcases hmakes.look_eq (Place.lock (layout.place d)) with hsame | ⟨hmem, -, -⟩
  · rw [KeepsLock, hsame]
    exact hlocks.keepsLock
  · exact absurd hmem (lock_not_mem_chatFolders _ _)

theorem Prepares.look_of_ne {chatId : String} {after : Disk} (h : Prepares layout d chatId after)
    {q : List String} (hlock : q ≠ Place.lock (layout.place d))
    (hfolders : q ∉ chatFolders (layout.place d) chatId) : after.look q = d.look q := by
  obtain ⟨held, hlocks, hmakes⟩ := h
  rcases hmakes.look_eq q with hsame | ⟨hmem, -, -⟩
  · exact hsame.trans (hlocks.look_of_ne hlock)
  · exact absurd hmem hfolders

/-- What saving a message did if it was saved. -/
structure Saves (layout : Layout) (d : Disk) (message : Inbound) (after : Disk) : Prop where
  validChat : Identifier.isValid message.chatId = true
  validMessage : Identifier.isValid message.messageId = true
  known : ∃ known, registryIn (registryNode layout d) = some known ∧
    known.find? message.chatId ≠ none
  opensRegistry : d.Opens layout.dataFolder "connections.toml"
  admitsLock : d.Admits layout.dataFolder "store.lock"
  keepsLock : KeepsLock layout d after
  absent : d.look (Place.message (layout.place d) message.chatId message.messageId) = none
  written : ∃ t, Stored.inboundTable message = .ok t ∧
    after.look (Place.message (layout.place d) message.chatId message.messageId) =
      some (.file (Toml.write t).toUTF8)
  draft_ne : d.look (Place.messageDraft (layout.place d) message.chatId message.messageId) ≠
    some .folder
  draft_eq : after.look (Place.messageDraft (layout.place d) message.chatId message.messageId) =
    none
  opensDraft : after.Opens (layout.chatMessages message.chatId) (message.messageId ++ ".toml.tmp")
  keeps : d.Keeps after
  look_folder : ∀ q ∈ chatFolders (layout.place d) message.chatId, after.look q = d.look q ∨
    d.look q = none ∧ after.look q = some .folder
  look_of_ne : ∀ q, q ≠ Place.lock (layout.place d) →
    q ∉ chatFolders (layout.place d) message.chatId →
    q ≠ Place.messageDraft (layout.place d) message.chatId message.messageId →
    q ≠ Place.message (layout.place d) message.chatId message.messageId → after.look q = d.look q

theorem message_not_mem_chatFolders (root : List String) (chatId messageId other : String) :
    Place.message root chatId messageId ∉ chatFolders root other := by
  simp [chatFolders, Place.message, Place.chat, Place.messages]

theorem messageDraft_not_mem_chatFolders (root : List String) (chatId messageId other : String) :
    Place.messageDraft root chatId messageId ∉ chatFolders root other := by
  simp [chatFolders, Place.messageDraft, Place.chat, Place.messages]

theorem saveNew_cases {held after : Disk} {message : Inbound} {t : Toml.Table}
    {result : Except StoreError Bool} (hchat : Identifier.isValid message.chatId = true)
    (hmessage : Identifier.isValid message.messageId = true)
    (h : saveNew layout held message.chatId
      ((layout.chatMessages message.chatId).child (message.messageId ++ ".toml")) t =
        (after, result)) :
    result ≠ .ok true ∧ held.Makes (chatFolders (layout.place held) message.chatId) after ∨
      result = .ok true ∧ ∃ entry made, registration layout held message.chatId = .ok entry ∧
        held.look (Place.message (layout.place held) message.chatId message.messageId) = none ∧
        held.Makes (chatFolders (layout.place held) message.chatId) made ∧
        made.Replaces (layout.chatMessages message.chatId) message.messageId (Toml.write t)
          after := by
  unfold saveNew at h
  cases hregistration : registration layout held message.chatId with
  | error e =>
      rw [hregistration] at h
      cases h
      exact .inl ⟨by simp, .refl held _⟩
  | ok entry =>
      obtain ⟨known, hopens, -, -⟩ := registration_eq_ok hregistration
      rw [hregistration] at h
      dsimp only at h
      split at h
      · cases h
        exact .inl ⟨by simp, .refl held _⟩
      next hmissing =>
        cases hmake : held.makeFolders (layout.chatMessages message.chatId) with
        | mk made answer =>
            obtain ⟨hmakes, -⟩ := makeFolders_chatMessages (Identifier.isName_of_isValid hchat)
              hopens.passes hmake
            rw [hmake] at h
            cases answer with
            | error e =>
                cases h
                exact .inl ⟨by simp, hmakes⟩
            | ok _ =>
                simp only [writeDocument_eq] at h
                have hplace := layout.placeOf_chatMessages made (Identifier.isName_of_isValid hchat)
                rw [layout.place_of_keeps hmakes.keeps] at hplace
                cases hreplace : made.replace
                    ((layout.chatMessages message.chatId).child (message.messageId ++ ".toml"))
                    (Toml.write t) with
                | mk written reply =>
                    rw [hreplace] at h
                    have hpiece := Identifier.isPiece_of_isValid hmessage
                    rcases Disk.replace_child_cases hpiece _ hreplace with
                      ⟨rfl, hreplaces⟩ | ⟨⟨e, rfl⟩, rfl | ⟨hfolder, hopensDraft, -⟩⟩
                    · cases h
                      exact .inr ⟨rfl, entry, made, rfl, look_message_eq_none hchat hmessage
                        hopens.passes (hreplaces.opens.of_draft hpiece) hmissing, hmakes, hreplaces⟩
                    · cases h
                      exact .inl ⟨by simp, hmakes⟩
                    -- Nothing was in the place of the message, so no folder keeps it out.
                    · have hnone := look_message_eq_none hchat hmessage hopens.passes
                        (hopensDraft.of_draft hpiece) hmissing
                      rw [hplace] at hfolder
                      rcases hmakes.look_eq
                          (Place.message (layout.place held) message.chatId message.messageId) with
                        hsame | ⟨hmem, -, -⟩
                      · cases (hsame.trans hnone).symm.trans hfolder
                      · exact absurd hmem (message_not_mem_chatFolders _ _ _ _)

theorem saves_of_replaces {held made after : Disk} {message : Inbound} {entry : Registration}
    {t : Toml.Table} (hchat : Identifier.isValid message.chatId = true)
    (hmessage : Identifier.isValid message.messageId = true)
    (htable : Stored.inboundTable message = .ok t) (hlocks : Locks layout d held)
    (hlock : d.Admits layout.dataFolder "store.lock")
    (hentry : registration layout held message.chatId = .ok entry)
    (hnone : held.look (Place.message (layout.place d) message.chatId message.messageId) = none)
    (hmakes : held.Makes (chatFolders (layout.place d) message.chatId) made)
    (hreplaces : made.Replaces (layout.chatMessages message.chatId) message.messageId
      (Toml.write t) after) : Saves layout d message after := by
  have hkeeps : d.Keeps made := hlocks.keeps.trans hmakes.keeps
  have hprepares : Prepares layout d message.chatId made := ⟨held, hlocks, hmakes⟩
  have hplace : made.placeOf (layout.chatMessages message.chatId) =
      Place.chat (layout.place d) message.chatId := by
    rw [layout.placeOf_chatMessages made (Identifier.isName_of_isValid hchat),
      layout.place_of_keeps hkeeps]
  have hlook : after.look =
      (made.look.set (Place.messageDraft (layout.place d) message.chatId message.messageId)
        none).set (Place.message (layout.place d) message.chatId message.messageId)
        (some (.file (Toml.write t).toUTF8)) := by
    rw [Place.messageDraft, Place.message, ← hplace]
    exact hreplaces.look_eq
  obtain ⟨known, hopensHeld, hin, hfind⟩ := registration_eq_ok hentry
  -- The lock and the registry are in the same folder.
  have hopensRegistry : d.Opens layout.dataFolder "connections.toml" :=
    ⟨hopensHeld.usable, hlock.passes, hopensHeld.size_le⟩
  constructor
  · exact hchat
  · exact hmessage
  · exact ⟨known, hlocks.registryNode_eq ▸ hin, by simp [hfind]⟩
  · exact hopensRegistry
  · exact hlock
  · rw [KeepsLock, hlook, View.set_of_ne _ (Place.message_ne_lock _ _ _).symm,
      View.set_of_ne _ (Place.messageDraft_ne_lock _ _ _).symm]
    exact hprepares.keepsLock
  · rw [← hlocks.look_of_ne (Place.message_ne_lock _ _ _)]
    exact hnone
  · exact ⟨t, htable, by rw [hlook, View.set_self]⟩
  · rw [← hprepares.look_of_ne (Place.messageDraft_ne_lock _ _ _)
      (messageDraft_not_mem_chatFolders _ _ _ _), Place.messageDraft, ← hplace]
    exact hreplaces.draft_ne
  · rw [hlook, View.set_of_ne _ (Place.message_ne_messageDraft _ _ _ _ _).symm, View.set_self]
  · exact hreplaces.keeps.opens hreplaces.opens
  · exact hkeeps.trans hreplaces.keeps
  · intro q hq
    have hqLock : q ≠ Place.lock (layout.place d) := by
      rintro rfl
      exact lock_not_mem_chatFolders _ _ hq
    have hqDraft : q ≠ Place.messageDraft (layout.place d) message.chatId message.messageId := by
      rintro rfl
      exact messageDraft_not_mem_chatFolders _ _ _ _ hq
    have hqMessage : q ≠ Place.message (layout.place d) message.chatId message.messageId := by
      rintro rfl
      exact message_not_mem_chatFolders _ _ _ _ hq
    rw [hlook, View.set_of_ne _ hqMessage, View.set_of_ne _ hqDraft, ← hlocks.look_of_ne hqLock]
    rcases hmakes.look_eq q with hsame | ⟨-, hmade⟩
    · exact .inl hsame
    · exact .inr hmade
  · intro q hqLock hqFolders hqDraft hqMessage
    rw [hlook, View.set_of_ne _ hqMessage, View.set_of_ne _ hqDraft,
      hprepares.look_of_ne hqLock hqFolders]

/-- Nothing is touched in the data folder but the lock and the received messages. -/
theorem Saves.look_outside {message : Inbound} {after : Disk} (h : Saves layout d message after)
    {name : String} (hlock : name ≠ "store.lock") (hmessages : name ≠ "messages")
    (more : List String) :
    after.look (layout.place d ++ name :: more) = d.look (layout.place d ++ name :: more) := by
  apply h.look_of_ne
  · simp [Place.lock, hlock]
  · simp [chatFolders, Place.chat, Place.messages, hmessages]
  · simp [Place.messageDraft, Place.chat, Place.messages, hmessages]
  · simp [Place.message, Place.chat, Place.messages, hmessages]

theorem Saves.registryNode_eq {message : Inbound} {after : Disk}
    (h : Saves layout d message after) : registryNode layout after = registryNode layout d := by
  rw [registryNode, registryNode, layout.place_of_keeps h.keeps]
  exact h.look_outside (by decide) (by decide) []

/-- A message is saved as a whole, or no file but the lock is touched. -/
theorem saveMessage_cases {after : Disk} {message : Inbound} {result : Except StoreError Bool}
    (h : saveMessage layout d message = (after, result)) :
    result ≠ .ok true ∧ Prepares layout d message.chatId after ∨
      result = .ok true ∧ Saves layout d message after := by
  have hrefl : Prepares layout d message.chatId d := (Locks.refl layout d).prepares _
  unfold saveMessage at h
  cases hpath : messagePath layout message.chatId message.messageId with
  | error e =>
      rw [hpath] at h
      cases h
      exact .inl ⟨by simp, hrefl⟩
  | ok p =>
      obtain ⟨hchat, hmessage, rfl⟩ := messagePath_eq_ok hpath
      rw [hpath] at h
      cases htable : Stored.inboundTable message with
      | error e =>
          rw [htable] at h
          cases h
          exact .inl ⟨by simp, hrefl⟩
      | ok t =>
          rw [htable] at h
          dsimp only at h
          rcases locked_cases h with ⟨rfl, e, rfl⟩ | ⟨held, hlocks, hlock, hsave⟩
          · exact .inl ⟨by simp, hrefl⟩
          · have hplace := layout.place_of_keeps hlocks.keeps
            rcases saveNew_cases hchat hmessage hsave with
              ⟨hresult, hmakes⟩ | ⟨rfl, entry, made, hentry, hnone, hmakes, hreplaces⟩
            · exact .inl ⟨hresult, held, hlocks, hplace ▸ hmakes⟩
            · rw [hplace] at hnone hmakes
              exact .inr ⟨rfl, saves_of_replaces hchat hmessage htable hlocks hlock hentry
                hnone hmakes hreplaces⟩

/-- The draft of the registry can be reached where that of a message can, since its path is
shorter. -/
theorem opens_registryDraft {chatId messageId : String}
    (hchat : Identifier.isValid chatId = true) (hmessage : Identifier.isValid messageId = true)
    (hpasses : Passes d.look (d.start layout.dataFolder) layout.dataFolder.steps)
    (husable : ((layout.chatMessages chatId).child (messageId ++ ".toml.tmp")).IsUsable) :
    d.Opens layout.dataFolder "connections.toml.tmp" := by
  have hchatName := Identifier.isName_of_isValid hchat
  have hdraft := (Disk.isName_draft (Identifier.isPiece_of_isValid hmessage)).no_slash
  have hregistry : '/' ∉ "connections.toml.tmp".toList := by decide
  have hchatSize := Identifier.utf8ByteSize_pos hchat
  have hmessageSize := Identifier.utf8ByteSize_pos hmessage
  have hmessages := Disk.isUsable_of_child Layout.isName_messages hchatName.no_slash
    (Disk.isUsable_of_child hchatName hdraft husable)
  have hfree := hmessages.no_nul
  have hbound := husable.size_le
  rw [Path.nul_mem_child _ Layout.isName_messages.no_slash] at hfree
  rw [Path.size_child _ hdraft, Layout.chatMessages, Path.lead_child _ hchatName.toIsPiece,
    String.utf8ByteSize_append, Path.size_child _ hchatName.no_slash, Layout.messages,
    Path.lead_child _ Layout.isName_messages.toIsPiece, String.utf8ByteSize_append,
    Path.size_child _ Layout.isName_messages.no_slash, String.utf8ByteSize_append] at hbound
  constructor
  · constructor
    · rw [Path.nul_mem_child _ hregistry]
      exact fun hmem => hfree (hmem.imp_right fun h => absurd h (by decide))
    · rw [Path.child_text _ hregistry]
      exact fun hempty => absurd (String.append_eq_empty_iff.mp hempty).2 (by decide)
    · have hsizes : "messages".utf8ByteSize = 8 ∧ "/".utf8ByteSize = 1 ∧
          ".toml.tmp".utf8ByteSize = 9 ∧ "connections.toml.tmp".utf8ByteSize = 20 := by decide
      rw [Path.size_child _ hregistry]
      omega
  · exact hpasses
  · decide

/-- A message that is new in the folder of its chat is saved there if its draft can be written. -/
theorem saveMessage_of_admits {message : Inbound} {t : Toml.Table} {known : Registry}
    {entry : Registration} (hchat : Identifier.isValid message.chatId = true)
    (hmessage : Identifier.isValid message.messageId = true)
    (htable : Stored.inboundTable message = .ok t)
    (hlock : d.Admits layout.dataFolder "store.lock")
    (hregistry : d.Opens layout.dataFolder "connections.toml")
    (hknown : registryIn (registryNode layout d) = some known)
    (hfind : known.find? message.chatId = some entry)
    (hdraft : d.Admits (layout.chatMessages message.chatId) (message.messageId ++ ".toml.tmp"))
    (hnone : d.look (Place.message (layout.place d) message.chatId message.messageId) = none) :
    ∃ after, saveMessage layout d message = (after, .ok true) := by
  obtain ⟨held, hlocks, hheld⟩ := @locked_of_admits layout d Bool hlock
  have hname := Identifier.isName_of_isValid hchat
  have hpiece := Identifier.isPiece_of_isValid hmessage
  have hfolder : d.placeOf (layout.chatMessages message.chatId) =
      Place.chat (layout.place d) message.chatId := layout.placeOf_chatMessages d hname
  have hdraftHeld : held.Admits (layout.chatMessages message.chatId)
      (message.messageId ++ ".toml.tmp") := by
    apply hlocks.admits hdraft
    rw [hfolder]
    exact Place.messageDraft_ne_lock _ _ _
  have hopens := hdraftHeld.toOpens
  obtain ⟨hpasses, -, hsize, hchatLook⟩ := (passes_chatMessages_iff hname).mp hopens.passes
  have hentry : registration layout held message.chatId = .ok entry :=
    registration_of_registryIn (hlocks.keeps.opens hregistry)
      (hlocks.registryNode_eq ▸ hknown) hfind
  have hheldNone : held.look (held.placeOf (layout.chatMessages message.chatId) ++
      [message.messageId ++ ".toml"]) = none := by
    rw [hlocks.keeps.placeOf_eq, hfolder]
    exact (hlocks.look_of_ne (Place.message_ne_lock _ _ _)).trans hnone
  have hmissing : ¬ held.exists? ((layout.chatMessages message.chatId).child
      (message.messageId ++ ".toml")) = true := by
    rw [Disk.exists?_child_iff (Disk.isName_document hpiece)]
    exact fun h => h.2 hheldNone
  have hmake : held.makeFolders (layout.chatMessages message.chatId) = (held, .ok ()) := by
    apply Disk.makeFolders_child_child_folder Layout.isName_messages hname hpasses
    · exact ⟨Disk.isUsable_of_child hname (Disk.isName_draft hpiece).no_slash hopens.usable,
        ((Disk.passes_child_iff hname).mp hopens.passes).1, hsize⟩
    · exact hchatLook
  obtain ⟨after, hreplace, -⟩ := Disk.replace_child hpiece (Toml.write t) hdraftHeld
    (by simp [hheldNone])
  -- None of the steps fails, and none but the last changes anything.
  refine ⟨after, ?_⟩
  unfold saveMessage
  rw [messagePath_of_isValid hchat hmessage]
  dsimp only
  rw [htable]
  dsimp only
  rw [hheld]
  unfold saveNew
  rw [hentry]
  dsimp only
  rw [if_neg hmissing, hmake]
  dsimp only
  rw [writeDocument_eq, hreplace]
  rfl

/-! ## Discarding -/

/-- What discarding a message did if there was one. -/
structure Discards (layout : Layout) (d : Disk) (chatId messageId : String) (after : Disk) :
    Prop where
  keeps : d.Keeps after
  keepsLock : KeepsLock layout d after
  look_eq : after.look (Place.message (layout.place d) chatId messageId) = none
  look_of_ne : ∀ q, q ≠ Place.lock (layout.place d) →
    q ≠ Place.message (layout.place d) chatId messageId → after.look q = d.look q

theorem discards_of_sets {held after : Disk} {chatId messageId : String}
    (hchat : Path.IsName chatId) (hlocks : Locks layout d held)
    (hplace : held.look (held.placeOf (layout.chatMessages chatId) ++ [messageId ++ ".toml"]) ≠
      some .folder)
    (hsets : held.Sets (held.placeOf (layout.chatMessages chatId) ++ [messageId ++ ".toml"]) none
      after) : Discards layout d chatId messageId after := by
  have hmessage : held.placeOf (layout.chatMessages chatId) ++ [messageId ++ ".toml"] =
      Place.message (layout.place d) chatId messageId := by
    rw [layout.placeOf_chatMessages held hchat, layout.place_of_keeps hlocks.keeps]
    rfl
  have hkeeps := hsets.keeps hplace
  have hlook := hsets.look_eq
  rw [hmessage] at hlook
  constructor
  · exact hlocks.keeps.trans hkeeps
  · rw [KeepsLock, hlook, View.set_of_ne _ (Place.message_ne_lock _ _ _).symm]
    exact hlocks.keepsLock
  · rw [hlook, View.set_self]
  · intro q hqLock hqMessage
    rw [hlook, View.set_of_ne _ hqMessage, hlocks.look_of_ne hqLock]

/-- A file of a message that can be reached is discarded. -/
theorem discardMessage_of_opens {chatId messageId : String} {content : ByteArray}
    (hchat : Identifier.isValid chatId = true) (hmessage : Identifier.isValid messageId = true)
    (hlock : d.Admits layout.dataFolder "store.lock")
    (hopens : d.Opens (layout.chatMessages chatId) (messageId ++ ".toml"))
    (hfile : d.look (Place.message (layout.place d) chatId messageId) = some (.file content)) :
    ∃ after, discardMessage layout d chatId messageId = (after, .ok ()) ∧
      Discards layout d chatId messageId after := by
  obtain ⟨held, hlocks, hheld⟩ := @locked_of_admits layout d Unit hlock
  have hname := Identifier.isName_of_isValid hchat
  have hplace : held.placeOf (layout.chatMessages chatId) ++ [messageId ++ ".toml"] =
      Place.message (layout.place d) chatId messageId := by
    rw [layout.placeOf_chatMessages held hname, layout.place_of_keeps hlocks.keeps]
    rfl
  have hheldFile : held.look (held.placeOf (layout.chatMessages chatId) ++
      [messageId ++ ".toml"]) = some (.file content) := by
    rw [hplace, hlocks.look_of_ne (Place.message_ne_lock _ _ _)]
    exact hfile
  obtain ⟨after, hremove, hsets⟩ := Disk.removeFile_child
    (Disk.isName_document (Identifier.isPiece_of_isValid hmessage))
    (hlocks.keeps.opens hopens) hheldFile
  refine ⟨after, ?_, discards_of_sets hname hlocks (by simp [hheldFile]) hsets⟩
  unfold discardMessage
  rw [messagePath_of_isValid hchat hmessage]
  dsimp only
  rw [hheld, hremove]

end Courier.Store
