import Courier.Proofs.Files.Answer
import Courier.Proofs.Store.Message

/-!
# Changes that do not disturb a message

What the store answers about a message depends on little: the entry of its chat, its own file and
draft, and what stands in the way of folders and drafts. A change that leaves these alone, or makes
folders that the store would make itself, is not noticed.
-/

namespace Courier

theorem Identifier.size_le_of_isValid {id : String} (hid : isValid id = true) :
    id.utf8ByteSize ≤ Disk.maxNameLength := by
  rw [isValid, Bool.and_eq_true, Bool.and_eq_true, decide_eq_true_eq] at hid
  exact Nat.le_trans hid.1.2 (by decide)

namespace Store

open Disk (Passes Keeps AgreesOn hasFolder hasFolder_iff)

variable {layout : Layout} {d e : Disk}

/-- Whether a change of the disk does not disturb a message. -/
structure Undisturbed (layout : Layout) (message : Inbound) (d e : Disk) : Prop where
  keeps : d.Keeps e
  lock_eq : hasFolder e.look (Place.lock (layout.place d)) =
    hasFolder d.look (Place.lock (layout.place d))
  registryDraft_eq : hasFolder e.look (Place.registryDraft (layout.place d)) =
    hasFolder d.look (Place.registryDraft (layout.place d))
  messageDraft_eq :
    hasFolder e.look (Place.messageDraft (layout.place d) message.chatId message.messageId) =
      hasFolder d.look (Place.messageDraft (layout.place d) message.chatId message.messageId)
  message_eq : e.look (Place.message (layout.place d) message.chatId message.messageId) =
    d.look (Place.message (layout.place d) message.chatId message.messageId)
  folder_eq : ∀ q ∈ chatFolders (layout.place d) message.chatId,
    e.look q = d.look q ∨ d.look q = none ∧ e.look q = some .folder

theorem hasFolder_eq_of_look {view other : View} {q : List String} (h : other q = view q) :
    hasFolder other q = hasFolder view q := by
  rw [hasFolder, hasFolder, h]

theorem hasFolder_eq_false {view : View} {q : List String} (h : view q ≠ some .folder) :
    hasFolder view q = false :=
  Bool.eq_false_iff.mpr fun hfolder => h (hasFolder_iff.mp hfolder)

/-! ## The lock -/

theorem KeepsLock.hasFolder_eq (h : KeepsLock layout d e) :
    hasFolder e.look (Place.lock (layout.place d)) =
      hasFolder d.look (Place.lock (layout.place d)) := by
  rcases h with hsame | ⟨hnone, hmade⟩
  · exact hasFolder_eq_of_look hsame
  · rw [hasFolder_eq_false (by simp [hmade]), hasFolder_eq_false (by simp [hnone])]

variable {α : Type}

/-- Changes under the lock are answered alike if they are once it is held. -/
theorem locked_answer (hagrees : d.AgreesOn layout.dataFolder e)
    (hlock : hasFolder e.look (Place.lock (layout.place d)) =
      hasFolder d.look (Place.lock (layout.place d)))
    {change change' : Disk → Disk × Except StoreError α}
    (hchange : ∀ {held held' : Disk}, Locks layout d held → Locks layout e held' →
      d.Admits layout.dataFolder "store.lock" → (change' held').2 = (change held).2) :
    (locked layout e change').2 = (locked layout d change).2 := by
  have hsame := hagrees.placeOfFile_child Layout.isName_lock hlock
  cases hplace : d.placeOfFile (layout.dataFolder.child "store.lock") with
  | error error =>
      rw [hplace] at hsame
      have happend (c : Disk)
          (hc : c.placeOfFile (layout.dataFolder.child "store.lock") = .error error) :
          c.append layout.lock ByteArray.empty = .error error := by
        rw [Disk.append, Layout.lock, hc]
        rfl
      rw [locked, locked, happend d hplace, happend e hsame]
  | ok q =>
      rw [hplace] at hsame
      have hadmits := (Disk.placeOfFile_child_eq_ok Layout.isName_lock hplace).1
      have hadmits' := (Disk.placeOfFile_child_eq_ok Layout.isName_lock hsame).1
      obtain ⟨held, hlocks, hheld⟩ := @locked_of_admits layout d α hadmits
      obtain ⟨held', hlocks', hheld'⟩ := @locked_of_admits layout e α hadmits'
      rw [hheld, hheld']
      exact hchange hlocks hlocks' hadmits

theorem writeDocument_answer {folder : Path} {stem : String} (h : d.AgreesOn folder e)
    (hstem : Path.IsPiece stem)
    (hdraft : hasFolder e.look (d.placeOf folder ++ [stem ++ ".toml.tmp"]) =
      hasFolder d.look (d.placeOf folder ++ [stem ++ ".toml.tmp"]))
    (hfree : d.Opens folder (stem ++ ".toml.tmp") →
      d.look (d.placeOf folder ++ [stem ++ ".toml"]) ≠ some .folder)
    (hfree' : e.Opens folder (stem ++ ".toml.tmp") →
      e.look (d.placeOf folder ++ [stem ++ ".toml"]) ≠ some .folder)
    (t t' : Toml.Table) :
    (writeDocument e (folder.child (stem ++ ".toml")) t').2 =
      (writeDocument d (folder.child (stem ++ ".toml")) t).2 := by
  rw [writeDocument_eq, writeDocument_eq,
    h.replace_answer hstem hdraft hfree hfree' (Toml.write t) (Toml.write t')]

/-! ## The registry -/

theorem Locks.look_registryDraft {held : Disk} (h : Locks layout d held) :
    held.look (Place.registryDraft (layout.place d)) =
      d.look (Place.registryDraft (layout.place d)) :=
  h.look_of_ne (Place.registryDraft_ne_lock _)

/-- Registries that can both be changed are changed alike, or neither can be written. -/
theorem changeRegistry_answer {change : Registry → Except StoreError Registry}
    (hagrees : d.AgreesOn layout.dataFolder e)
    (hlock : hasFolder e.look (Place.lock (layout.place d)) =
      hasFolder d.look (Place.lock (layout.place d)))
    (hdraft : hasFolder e.look (Place.registryDraft (layout.place d)) =
      hasFolder d.look (Place.registryDraft (layout.place d)))
    (hopens : d.Opens layout.dataFolder "connections.toml")
    {known known' changed changed' : Registry}
    (hknown : registryIn (registryNode layout d) = some known)
    (hknown' : registryIn (registryNode layout e) = some known')
    (hchange : change known = .ok changed) (hchange' : change known' = .ok changed') :
    (changeRegistry layout e change).2 = (changeRegistry layout d change).2 := by
  refine locked_answer hagrees hlock fun {held held'} hlocks hlocks' _ => ?_
  have hplace : layout.place e = layout.place d := hagrees.placeOf_eq
  have hopens' : held.Opens layout.dataFolder "connections.toml" := hlocks.keeps.opens hopens
  have hagreesHeld : held.AgreesOn layout.dataFolder held' :=
    hagrees.keeps hopens.passes hlocks.keeps hlocks'.keeps
  have hregistry : registry layout held = .ok known :=
    registry_of_registryIn hopens' (hlocks.registryNode_eq ▸ hknown)
  have hregistry' : registry layout held' = .ok known' :=
    registry_of_registryIn (hagreesHeld.opens hopens') (hlocks'.registryNode_eq ▸ hknown')
  have hfree := registryNode_ne_folder hopens' hregistry
  have hfree' := registryNode_ne_folder (hagreesHeld.opens hopens') hregistry'
  rw [hregistry, hregistry']
  simp only [Except.bind, hchange, hchange']
  apply writeDocument_answer hagreesHeld Layout.isPiece_connections
  · rw [hlocks.keeps.placeOf_eq]
    change hasFolder held'.look (Place.registryDraft (layout.place d)) =
      hasFolder held.look (Place.registryDraft (layout.place d))
    rw [hasFolder_eq_of_look hlocks.look_registryDraft, ← hdraft, ← hplace]
    exact hasFolder_eq_of_look hlocks'.look_registryDraft
  · exact fun _ => hfree
  · intro _
    rw [hlocks.keeps.placeOf_eq, ← hagrees.placeOf_eq, ← hlocks'.keeps.placeOf_eq]
    exact hfree'

theorem updateSummary_answer
    (hagrees : d.AgreesOn layout.dataFolder e)
    (hlock : hasFolder e.look (Place.lock (layout.place d)) =
      hasFolder d.look (Place.lock (layout.place d)))
    (hdraft : hasFolder e.look (Place.registryDraft (layout.place d)) =
      hasFolder d.look (Place.registryDraft (layout.place d)))
    (hopens : d.Opens layout.dataFolder "connections.toml") {update : SummaryUpdate}
    {known known' : Registry} (hknown : registryIn (registryNode layout d) = some known)
    (hknown' : registryIn (registryNode layout e) = some known')
    (hfind : known.find? update.chatId ≠ none) (hfind' : known'.find? update.chatId ≠ none)
    (change : UnreadChange) :
    (updateSummary layout e update change).2 = (updateSummary layout d update change).2 := by
  obtain ⟨entry, hentry⟩ := Option.ne_none_iff_exists'.mp hfind
  obtain ⟨entry', hentry'⟩ := Option.ne_none_iff_exists'.mp hfind'
  apply changeRegistry_answer hagrees hlock hdraft hopens hknown hknown'
  · rw [hentry]
  · rw [hentry']

/-! ## Messages -/

theorem Locks.folder_of_held {held : Disk} (h : Locks layout d held) {q : List String}
    (hq : held.look q = some .folder) : d.look q = some .folder := by
  rcases h.keepsLock with hsame | ⟨-, hmade⟩
  · by_cases hlock : q = Place.lock (layout.place d)
    · rw [hlock] at hq ⊢
      exact hsame.symm.trans hq
    · exact (h.look_of_ne hlock).symm.trans hq
  · by_cases hlock : q = Place.lock (layout.place d)
    · rw [hlock] at hq
      cases hmade.symm.trans hq
    · exact (h.look_of_ne hlock).symm.trans hq

/-- Taking the lock on both disks disturbs nothing. -/
theorem Undisturbed.locks {message : Inbound} (h : Undisturbed layout message d e)
    {held held' : Disk} (hd : Locks layout d held) (he : Locks layout e held') :
    Undisturbed layout message held held' := by
  have hplace := layout.place_of_keeps hd.keeps
  have hplace' := layout.place_of_keeps h.keeps
  have hsame {q : List String} (hq : q ≠ Place.lock (layout.place d)) :
      held'.look q = e.look q ∧ held.look q = d.look q :=
    ⟨he.look_of_ne (hplace'.symm ▸ hq), hd.look_of_ne hq⟩
  have hasFolder_same {q : List String} (hq : q ≠ Place.lock (layout.place d))
      (heq : hasFolder e.look q = hasFolder d.look q) :
      hasFolder held'.look q = hasFolder held.look q := by
    rw [hasFolder_eq_of_look (hsame hq).1, hasFolder_eq_of_look (hsame hq).2, heq]
  constructor
  · refine ⟨he.current_eq.trans (h.keeps.current_eq.trans hd.current_eq.symm), fun q hq => ?_⟩
    exact he.keeps.folders q (h.keeps.folders q (hd.folder_of_held hq))
  · have hlock := he.keepsLock.hasFolder_eq
    rw [hplace'] at hlock
    rw [hplace, hlock, h.lock_eq, hd.keepsLock.hasFolder_eq]
  · rw [hplace]
    exact hasFolder_same (Place.registryDraft_ne_lock _) h.registryDraft_eq
  · rw [hplace]
    exact hasFolder_same (Place.messageDraft_ne_lock _ _ _) h.messageDraft_eq
  · have hne := Place.message_ne_lock (layout.place d) message.chatId message.messageId
    rw [hplace, (hsame hne).1, (hsame hne).2, h.message_eq]
  · intro q hq
    rw [hplace] at hq
    have hne : q ≠ Place.lock (layout.place d) := by
      rintro rfl
      exact lock_not_mem_chatFolders _ _ hq
    rw [(hsame hne).1, (hsame hne).2]
    exact h.folder_eq q hq

/-- A folder that was made is reached. -/
theorem passes_of_makeFolders {chatId : String} (hchat : Identifier.isValid chatId = true)
    (hpasses : Passes d.look (d.start layout.dataFolder) layout.dataFolder.steps) {made : Disk}
    (h : d.makeFolders (layout.chatMessages chatId) = (made, .ok ())) :
    Passes made.look (made.start (layout.chatMessages chatId))
      (layout.chatMessages chatId).steps := by
  have hname := Identifier.isName_of_isValid hchat
  obtain ⟨hmakes, hfolder⟩ := makeFolders_chatMessages hname hpasses h
  have hchatFolder := hfolder rfl
  have hsome : made.look (Place.chat (layout.place d) chatId) ≠ none := by simp [hchatFolder]
  rw [passes_chatMessages_iff hname, layout.place_of_keeps hmakes.keeps]
  refine ⟨?_, ?_, Identifier.size_le_of_isValid hchat, hchatFolder⟩
  · rw [Disk.start, hmakes.current_eq]
    exact hpasses.mono hmakes.keeps.folders
  · exact FileTree.look_eq_folder_of_append (List.cons_ne_nil _ _) hsome

theorem registration_of_locks {held : Disk} (h : Locks layout d held) {chatId : String}
    {entry : Registration} (hentry : registration layout d chatId = .ok entry) :
    registration layout held chatId = .ok entry := by
  obtain ⟨known, hopens, hknown, hfind⟩ := registration_eq_ok hentry
  exact registration_of_registryIn (h.keeps.opens hopens) (h.registryNode_eq ▸ hknown) hfind

section Message

variable {message : Inbound} (h : Undisturbed layout message d e)
  (hpasses : Passes d.look (d.start layout.dataFolder) layout.dataFolder.steps)
include h hpasses

/-- Whether the file of a message is there is answered alike. -/
theorem Undisturbed.exists?_eq (hchat : Identifier.isValid message.chatId = true)
    (hmessage : Identifier.isValid message.messageId = true) :
    e.exists? ((layout.chatMessages message.chatId).child (message.messageId ++ ".toml")) =
      d.exists? ((layout.chatMessages message.chatId).child (message.messageId ++ ".toml")) := by
  have hname := Identifier.isName_of_isValid hchat
  have hdocument := Disk.isName_document (Identifier.isPiece_of_isValid hmessage)
  have hplace : e.placeOf (layout.chatMessages message.chatId) =
      d.placeOf (layout.chatMessages message.chatId) := h.keeps.placeOf_eq _
  have hlook := h.message_eq
  rw [Place.message, ← layout.placeOf_chatMessages d hname] at hlook
  rw [Bool.eq_iff_iff]
  constructor
  · intro hfound
    obtain ⟨hopens, hsome⟩ := (Disk.exists?_child_iff hdocument).mp hfound
    rw [hplace, hlook, layout.placeOf_chatMessages d hname] at hsome
    refine of_not_not fun hmissing => hsome ?_
    exact look_message_eq_none hchat hmessage hpasses hopens hmissing
  · intro hfound
    obtain ⟨hopens, hsome⟩ := (Disk.exists?_child_iff hdocument).mp hfound
    refine (Disk.exists?_child_iff hdocument).mpr ⟨h.keeps.opens hopens, ?_⟩
    rw [hplace, hlook]
    exact hsome

theorem Undisturbed.isReceived_eq :
    isReceived layout e message.chatId message.messageId =
      isReceived layout d message.chatId message.messageId := by
  rw [isReceived, isReceived]
  cases hp : messagePath layout message.chatId message.messageId with
  | error error => rfl
  | ok p =>
      obtain ⟨hchat, hmessage, rfl⟩ := messagePath_eq_ok hp
      simp only [bind, Except.bind, h.exists?_eq hpasses hchat hmessage]

/-- Once its folder is made on both disks, a message that was not there is written alike. -/
theorem Undisturbed.writeMessage_answer (hchat : Identifier.isValid message.chatId = true)
    (hid : Identifier.isValid message.messageId = true)
    (hmissing : ¬ d.exists? ((layout.chatMessages message.chatId).child
      (message.messageId ++ ".toml")) = true) {made made' : Disk}
    (hmake : d.makeFolders (layout.chatMessages message.chatId) = (made, .ok ()))
    (hmake' : e.makeFolders (layout.chatMessages message.chatId) = (made', .ok ()))
    (t : Toml.Table) :
    (writeDocument made' ((layout.chatMessages message.chatId).child
      (message.messageId ++ ".toml")) t).2 =
    (writeDocument made ((layout.chatMessages message.chatId).child
      (message.messageId ++ ".toml")) t).2 := by
  have hname := Identifier.isName_of_isValid hchat
  have hpiece := Identifier.isPiece_of_isValid hid
  have hpasses' : Passes e.look (e.start layout.dataFolder) layout.dataFolder.steps := by
    rw [Disk.start, h.keeps.current_eq]
    exact hpasses.mono h.keeps.folders
  have hmakes := (makeFolders_chatMessages hname hpasses hmake).1
  have hmakes' := (makeFolders_chatMessages hname hpasses' hmake').1
  rw [layout.place_of_keeps h.keeps] at hmakes'
  have hagrees : made.AgreesOn (layout.chatMessages message.chatId) made' := by
    refine Disk.agreesOn_of_passes ?_ (passes_of_makeFolders hchat hpasses hmake)
      (passes_of_makeFolders hchat hpasses' hmake')
    rw [hmakes'.current_eq, hmakes.current_eq, h.keeps.current_eq]
  have hplace : made.placeOf (layout.chatMessages message.chatId) =
      Place.chat (layout.place d) message.chatId := by
    rw [layout.placeOf_chatMessages made hname, layout.place_of_keeps hmakes.keeps]
  -- The draft and the message stand where they did before the folders were made.
  have hlook {q : List String} (hq : q ∉ chatFolders (layout.place d) message.chatId) :
      made.look q = d.look q ∧ made'.look q = e.look q :=
    ⟨(hmakes.look_eq q).resolve_right fun hmade => hq hmade.1,
      (hmakes'.look_eq q).resolve_right fun hmade => hq hmade.1⟩
  obtain ⟨hdraft, hdraft'⟩ := hlook (messageDraft_not_mem_chatFolders (layout.place d)
    message.chatId message.messageId message.chatId)
  obtain ⟨hdocument, hdocument'⟩ := hlook (message_not_mem_chatFolders (layout.place d)
    message.chatId message.messageId message.chatId)
  have hnone {c : Disk} (hc : c.Opens (layout.chatMessages message.chatId)
      (message.messageId ++ ".toml.tmp")) :
      d.look (Place.message (layout.place d) message.chatId message.messageId) = none :=
    look_message_eq_none hchat hid hpasses (hc.of_draft hpiece) hmissing
  apply writeDocument_answer hagrees hpiece
  · rw [hplace, ← Place.messageDraft, hasFolder_eq_of_look hdraft, hasFolder_eq_of_look hdraft',
      h.messageDraft_eq]
  · intro hopens
    rw [hplace, ← Place.message, hdocument, hnone hopens]
    simp
  · intro hopens
    rw [hplace, ← Place.message, hdocument', h.message_eq, hnone hopens]
    simp

omit hpasses in
/-- A message that is not there yet is saved alike. -/
theorem Undisturbed.saveNew_answer (hchat : Identifier.isValid message.chatId = true)
    (hid : Identifier.isValid message.messageId = true) {entry entry' : Registration}
    (hentry : registration layout d message.chatId = .ok entry)
    (hentry' : registration layout e message.chatId = .ok entry') (t : Toml.Table) :
    (saveNew layout e message.chatId
      ((layout.chatMessages message.chatId).child (message.messageId ++ ".toml")) t).2 =
    (saveNew layout d message.chatId
      ((layout.chatMessages message.chatId).child (message.messageId ++ ".toml")) t).2 := by
  obtain ⟨-, hopens, -, -⟩ := registration_eq_ok hentry
  have hname := Identifier.isName_of_isValid hchat
  unfold saveNew
  rw [hentry, hentry', h.exists?_eq hopens.passes hchat hid]
  dsimp only
  by_cases hfound : d.exists? ((layout.chatMessages message.chatId).child
      (message.messageId ++ ".toml")) = true
  · rw [if_pos hfound, if_pos hfound]
  · have hanswer : (e.makeFolders (layout.chatMessages message.chatId)).2 =
        (d.makeFolders (layout.chatMessages message.chatId)).2 :=
      Disk.makeFolders_answer Layout.isName_messages hname (by decide)
        (Identifier.size_le_of_isValid hchat) hopens.passes h.keeps
        (h.folder_eq _ List.mem_cons_self)
        (h.folder_eq _ (List.mem_cons_of_mem _ List.mem_cons_self))
    rw [if_neg hfound, if_neg hfound]
    cases hmake : d.makeFolders (layout.chatMessages message.chatId) with
    | mk made answer =>
        cases hmake' : e.makeFolders (layout.chatMessages message.chatId) with
        | mk made' answer' =>
            rw [hmake, hmake'] at hanswer
            obtain rfl : answer' = answer := hanswer
            cases answer' with
            | error error => rfl
            | ok _ =>
                have hwrite := h.writeMessage_answer hopens.passes hchat hid hfound hmake hmake' t
                dsimp only
                generalize writeDocument made _ t = first at hwrite ⊢
                generalize writeDocument made' _ t = second at hwrite ⊢
                obtain ⟨written, reply⟩ := first
                obtain ⟨written', reply'⟩ := second
                obtain rfl : reply' = reply := hwrite
                cases reply' <;> rfl

omit hpasses in
theorem Undisturbed.saveMessage_answer {entry entry' : Registration}
    (hentry : registration layout d message.chatId = .ok entry)
    (hentry' : registration layout e message.chatId = .ok entry') :
    (saveMessage layout e message).2 = (saveMessage layout d message).2 := by
  unfold saveMessage
  cases hp : messagePath layout message.chatId message.messageId with
  | error error => rfl
  | ok p =>
      obtain ⟨hchat, hid, rfl⟩ := messagePath_eq_ok hp
      cases Stored.inboundTable message with
      | error unwritable => rfl
      | ok t =>
          obtain ⟨-, hopens, -, -⟩ := registration_eq_ok hentry
          refine locked_answer (h.keeps.agreesOn hopens.passes) h.lock_eq
            fun {held held'} hlocks hlocks' _ => ?_
          exact (h.locks hlocks hlocks').saveNew_answer hchat hid
            (registration_of_locks hlocks hentry) (registration_of_locks hlocks' hentry') t

end Message

end Store

end Courier
