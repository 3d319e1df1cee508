import Courier.Message.Identifier
import Courier.Proofs.Files.Document
import Courier.Proofs.Files.Folder
import Courier.Store.Layout

/-!
# Places of the store

Where the files of a layout stand, given the place of its data folder. Identifiers are safe as
names of files and folders, so that different chats and messages never share a place.
-/

namespace Courier

namespace Identifier

theorem not_mem_of_isValid {id : String} (hid : isValid id = true) {c : Char}
    (hc : isIdChar c = false) : c ∉ id.toList := by
  rw [isValid, Bool.and_eq_true, List.all_eq_true] at hid
  intro hmem
  exact Bool.false_ne_true (hc.symm.trans (hid.2 c hmem))

theorem ne_empty_of_isValid {id : String} (hid : isValid id = true) : id ≠ "" := by
  rintro rfl
  exact absurd hid (by decide)

theorem utf8ByteSize_pos {id : String} (hid : isValid id = true) : 0 < id.utf8ByteSize :=
  Nat.pos_of_ne_zero fun h => ne_empty_of_isValid hid (String.utf8ByteSize_eq_zero_iff.mp h)

theorem isPiece_of_isValid {id : String} (hid : isValid id = true) : Path.IsPiece id := by
  refine ⟨ne_empty_of_isValid hid, ?_, not_mem_of_isValid hid (by decide)⟩
  rintro rfl
  exact absurd hid (by decide)

theorem isName_of_isValid {id : String} (hid : isValid id = true) : Path.IsName id := by
  refine ⟨isPiece_of_isValid hid, ?_⟩
  rintro rfl
  exact absurd hid (by decide)

end Identifier

theorem ChatKind.word_injective {kind other : ChatKind} (h : kind.word = other.word) :
    kind = other := by
  cases kind <;> cases other
  · rfl
  · exact absurd h (by decide)
  · exact absurd h (by decide)
  · rfl

/-! ## Places below a data folder -/

namespace Place

variable (root : List String)

/-- The place of the registry. -/
def registry : List String :=
  root ++ ["connections.toml"]

/-- The place of the draft of the registry. -/
def registryDraft : List String :=
  root ++ ["connections.toml.tmp"]

/-- The place of the lock. -/
def lock : List String :=
  root ++ ["store.lock"]

/-- The place of all received messages. -/
def messages : List String :=
  root ++ ["messages"]

/-- The place of the received messages of a chat. -/
def chat (chatId : String) : List String :=
  messages root ++ [chatId]

/-- The place of a received message. -/
def message (chatId messageId : String) : List String :=
  chat root chatId ++ [messageId ++ ".toml"]

/-- The place of the draft of a received message. -/
def messageDraft (chatId messageId : String) : List String :=
  chat root chatId ++ [messageId ++ ".toml.tmp"]

/-- The place of an outbox. -/
def outbox (kind : ChatKind) : List String :=
  root ++ ["outbox"] ++ [kind.word]

/-- The place of a message in an outbox. -/
def spooled (kind : ChatKind) (messageId : String) : List String :=
  outbox root kind ++ [messageId ++ ".toml"]

/-- The place of the draft of a message in an outbox. -/
def spooledDraft (kind : ChatKind) (messageId : String) : List String :=
  outbox root kind ++ [messageId ++ ".toml.tmp"]

theorem registry_eq : registry root = root ++ ["connections" ++ ".toml"] :=
  rfl

theorem registryDraft_eq : registryDraft root = root ++ ["connections" ++ ".toml.tmp"] :=
  rfl

theorem chat_eq (chatId : String) : chat root chatId = root ++ "messages" :: [chatId] := by
  simp [chat, messages]

theorem message_eq (chatId messageId : String) :
    message root chatId messageId = root ++ "messages" :: [chatId, messageId ++ ".toml"] := by
  simp [message, chat, messages]

theorem messageDraft_eq (chatId messageId : String) :
    messageDraft root chatId messageId =
      root ++ "messages" :: [chatId, messageId ++ ".toml.tmp"] := by
  simp [messageDraft, chat, messages]

theorem spooled_eq (kind : ChatKind) (messageId : String) :
    spooled root kind messageId = root ++ "outbox" :: [kind.word, messageId ++ ".toml"] := by
  simp [spooled, outbox]

/-- A message in an outbox lies in the data folder. -/
theorem spooled_below (root : List String) (kind : ChatKind) (messageId : String) :
    root <+: spooled root kind messageId :=
  ⟨_, (spooled_eq root kind messageId).symm⟩

theorem spooledDraft_eq (kind : ChatKind) (messageId : String) :
    spooledDraft root kind messageId =
      root ++ "outbox" :: [kind.word, messageId ++ ".toml.tmp"] := by
  simp [spooledDraft, outbox]

theorem registry_ne_lock : registry root ≠ lock root := by
  simp [registry, lock]

theorem registry_ne_draft : registry root ≠ registryDraft root := by
  simp [registry, registryDraft]

theorem registryDraft_ne_lock : registryDraft root ≠ lock root := by
  simp [registryDraft, lock]

theorem message_ne_lock (chatId messageId : String) :
    message root chatId messageId ≠ lock root := by
  simp [message, chat, messages, lock]

theorem messageDraft_ne_lock (chatId messageId : String) :
    messageDraft root chatId messageId ≠ lock root := by
  simp [messageDraft, chat, messages, lock]

/-- The name of a document is never that of a draft. -/
theorem document_ne_draft (stem other : String) : stem ++ ".toml" ≠ other ++ ".toml.tmp" := by
  intro h
  have hlast := congrArg (fun s : String => s.toList.getLast?) h
  simp at hlast

theorem append_injective {stem other suffix : String} (h : stem ++ suffix = other ++ suffix) :
    stem = other := by
  have hlist := congrArg String.toList h
  rw [String.toList_append, String.toList_append] at hlist
  exact String.toList_inj.mp (List.append_cancel_right hlist)

theorem document_injective {stem other : String} (h : stem ++ ".toml" = other ++ ".toml") :
    stem = other :=
  append_injective h

theorem draft_injective {stem other : String} (h : stem ++ ".toml.tmp" = other ++ ".toml.tmp") :
    stem = other :=
  append_injective h

/-- Neither a document nor a draft has the name of the lock. -/
theorem lock_ne_document (stem : String) : "store.lock" ≠ stem ++ ".toml" := by
  intro h
  have hlast := congrArg (fun s : String => s.toList.getLast?) h
  simp at hlast

theorem lock_ne_draft (stem : String) : "store.lock" ≠ stem ++ ".toml.tmp" := by
  intro h
  have hlast := congrArg (fun s : String => s.toList.getLast?) h
  simp at hlast

/-- Different messages in the outboxes have different places. -/
theorem spooled_injective {kind kind' : ChatKind} {messageId messageId' : String}
    (h : spooled root kind messageId = spooled root kind' messageId') :
    kind = kind' ∧ messageId = messageId' := by
  simp only [spooled, outbox, List.append_assoc] at h
  obtain ⟨hword, hname⟩ := List.cons.inj (List.append_cancel_left (List.append_cancel_left h))
  exact ⟨ChatKind.word_injective hword, document_injective (List.singleton_inj.mp hname)⟩

theorem spooled_ne_draft (kind kind' : ChatKind) (messageId messageId' : String) :
    spooled root kind messageId ≠ spooledDraft root kind' messageId' := by
  simp [spooled, spooledDraft, outbox, document_ne_draft]

theorem message_ne_messageDraft (chatId messageId chatId' messageId' : String) :
    message root chatId messageId ≠ messageDraft root chatId' messageId' := by
  simp [message_eq, messageDraft_eq, document_ne_draft]

theorem registry_ne_message (chatId messageId : String) :
    registry root ≠ message root chatId messageId := by
  simp [registry, message, chat, messages]

theorem registryDraft_ne_message (chatId messageId : String) :
    registryDraft root ≠ message root chatId messageId := by
  simp [registryDraft, message, chat, messages]

/-- Different received messages have different places, and so have their drafts. -/
theorem message_injective {chatId messageId chatId' messageId' : String}
    (h : message root chatId messageId = message root chatId' messageId') :
    chatId = chatId' ∧ messageId = messageId' := by
  simpa [message_eq] using h

theorem messageDraft_injective {chatId messageId chatId' messageId' : String}
    (h : messageDraft root chatId messageId = messageDraft root chatId' messageId') :
    chatId = chatId' ∧ messageId = messageId' := by
  simpa [messageDraft_eq] using h

end Place

/-! ## Paths of a layout -/

namespace Layout

variable (layout : Layout)

/-- The place of the data folder on a disk. -/
def place (d : Disk) : List String :=
  d.placeOf layout.dataFolder

theorem isName_messages : Path.IsName "messages" := by
  refine ⟨⟨?_, ?_, ?_⟩, ?_⟩ <;> decide

theorem isName_outbox : Path.IsName "outbox" := by
  refine ⟨⟨?_, ?_, ?_⟩, ?_⟩ <;> decide

theorem isName_lock : Path.IsName "store.lock" := by
  refine ⟨⟨?_, ?_, ?_⟩, ?_⟩ <;> decide

theorem isPiece_connections : Path.IsPiece "connections" := by
  refine ⟨?_, ?_, ?_⟩ <;> decide

theorem isName_word (kind : ChatKind) : Path.IsName kind.word := by
  cases kind <;> refine ⟨⟨?_, ?_, ?_⟩, ?_⟩ <;> decide

theorem registry_eq : layout.registry = layout.dataFolder.child ("connections" ++ ".toml") :=
  rfl

theorem isName_registry : Path.IsName "connections.toml" :=
  Disk.isName_document isPiece_connections

theorem isName_registryDraft : Path.IsName "connections.toml.tmp" :=
  Disk.isName_draft isPiece_connections

/-- What stands at the place of a received message's folder decides with the data folder whether it
can be reached. -/
theorem placeOf_chatMessages (d : Disk) {chatId : String} (hchat : Path.IsName chatId) :
    d.placeOf (layout.chatMessages chatId) = Place.chat (layout.place d) chatId := by
  rw [chatMessages, messages, Disk.placeOf_child d _ hchat, Disk.placeOf_child d _ isName_messages]
  rfl

theorem placeOf_outbox (d : Disk) (kind : ChatKind) :
    d.placeOf (layout.outbox kind) = Place.outbox (layout.place d) kind := by
  rw [outbox, outboxes, Disk.placeOf_child d _ (isName_word kind),
    Disk.placeOf_child d _ isName_outbox]
  rfl

theorem place_of_keeps {d kept : Disk} (h : d.Keeps kept) : layout.place kept = layout.place d :=
  h.placeOf_eq layout.dataFolder

end Layout

end Courier
