import Courier.Proofs.Files.Agreement
import Courier.Proofs.Store.Message
import Courier.Proofs.Store.Outbox

/-!
# What the lock means to the store

Whether the lock has been made before makes no difference to the store and the outboxes: they never
look at it, and the first change makes it. Only the way to the data folder must not lead through it.
-/

namespace Courier

namespace Store

open Disk (Alike IsStable)

variable {layout : Layout} {d copy : Disk}

/-- A disk that is another one but for a lock that was made, off the way to the data folder. -/
structure Matches (layout : Layout) (d copy : Disk) : Prop extends Locks layout d copy where
  agrees : d.AgreesOn layout.dataFolder copy

theorem place_of_current {later : Disk} (h : later.current = d.current) :
    layout.place later = layout.place d := by
  rw [Layout.place, Layout.place, Disk.placeOf, Disk.placeOf, Disk.start, Disk.start, h]

/-- What is set alike on both disks leaves them so, also where the lock is set. -/
theorem isStable_matches (layout : Layout) : IsStable (Matches layout) := by
  intro d copy d' copy' q node h hd hcopy
  refine ⟨⟨(hcopy.current_eq.trans h.current_eq).trans hd.current_eq.symm, ?_⟩,
    h.agrees.sets hd hcopy⟩
  rw [place_of_current hd.current_eq, hcopy.look_eq, hd.look_eq]
  rcases h.look_eq with hsame | ⟨hnone, hset⟩
  · exact .inl (by rw [hsame])
  · by_cases hq : q = Place.lock (layout.place d)
    · exact .inl (by rw [hset, hq, View.set_set])
    · refine .inr ⟨?_, by rw [hset, View.set_comm _ hq]⟩
      rw [View.set_of_ne _ (Ne.symm hq), hnone]

/-! ## Paths of the store -/

theorem Matches.child (h : Matches layout d copy) {folder : Path} {name : String}
    (hfolder : d.AgreesOn folder copy) (hname : Path.IsName name)
    (hne : d.placeOf folder ++ [name] ≠ Place.lock (layout.place d)) :
    d.AgreesOn (folder.child name) copy :=
  (Disk.agreesOn_child_iff hname).mpr ⟨hfolder, h.look_of_ne hne⟩

theorem Matches.registry (h : Matches layout d copy) : d.AgreesOn layout.registry copy :=
  h.child h.agrees Layout.isName_registry (Place.registry_ne_lock (layout.place d))

theorem Matches.registryDraft (h : Matches layout d copy) :
    d.AgreesOn (layout.dataFolder.child "connections.toml.tmp") copy :=
  h.child h.agrees Layout.isName_registryDraft (Place.registryDraft_ne_lock (layout.place d))

theorem Matches.chatMessages (h : Matches layout d copy) {chatId : String}
    (hchat : Path.IsName chatId) : d.AgreesOn (layout.chatMessages chatId) copy := by
  have hmessages : d.AgreesOn layout.messages copy := by
    apply h.child h.agrees Layout.isName_messages
    change layout.place d ++ _ ≠ _
    simp [Place.lock]
  apply h.child hmessages hchat
  rw [Layout.messages, Disk.placeOf_child d _ Layout.isName_messages]
  change layout.place d ++ _ ++ _ ≠ _
  simp [Place.lock]

theorem Matches.message (h : Matches layout d copy) {chatId name : String}
    (hchat : Path.IsName chatId) (hname : Path.IsName name) :
    d.AgreesOn ((layout.chatMessages chatId).child name) copy := by
  apply h.child (h.chatMessages hchat) hname
  rw [layout.placeOf_chatMessages d hchat]
  simp [Place.chat, Place.messages, Place.lock]

theorem Matches.spooled (h : Matches layout d copy) (kind : ChatKind) {name : String}
    (hname : Path.IsName name) : d.AgreesOn ((layout.outbox kind).child name) copy := by
  have houtboxes : d.AgreesOn layout.outboxes copy := by
    apply h.child h.agrees Layout.isName_outbox
    change layout.place d ++ _ ≠ _
    simp [Place.lock]
  have houtbox : d.AgreesOn (layout.outbox kind) copy := by
    apply h.child houtboxes (Layout.isName_word kind)
    rw [Layout.outboxes, Disk.placeOf_child d _ Layout.isName_outbox]
    change layout.place d ++ _ ++ _ ≠ _
    simp [Place.lock]
  apply h.child houtbox hname
  rw [layout.placeOf_outbox]
  simp [Place.outbox, Place.lock]

/-! ## Looking things up -/

section Looking

variable (h : Matches layout d copy)
include h

theorem Matches.registry_eq : Store.registry layout copy = Store.registry layout d := by
  rw [Store.registry, Store.registry, h.registry.readText_eq]

theorem Matches.registration_eq (chatId : String) :
    registration layout copy chatId = registration layout d chatId := by
  rw [registration, registration, h.registry_eq]

theorem Matches.connection_eq (chatId : String) :
    connection layout copy chatId = connection layout d chatId := by
  rw [connection, connection, h.registration_eq]

theorem Matches.connections_eq : connections layout copy = connections layout d := by
  rw [connections, connections, h.registry_eq]

theorem Matches.isGroup_eq (chatId : String) :
    isGroup layout copy chatId = isGroup layout d chatId := by
  rw [isGroup, isGroup, h.registration_eq]

theorem Matches.permissions_eq (chatId : String) (kind : ChatKind) :
    permissions layout copy chatId kind = permissions layout d chatId kind := by
  rw [permissions, permissions, h.registration_eq]

theorem Matches.isReceived_eq (chatId messageId : String) :
    isReceived layout copy chatId messageId = isReceived layout d chatId messageId := by
  rw [isReceived, isReceived]
  cases hp : messagePath layout chatId messageId with
  | error error => rfl
  | ok p =>
      obtain ⟨hchat, hmessage, rfl⟩ := messagePath_eq_ok hp
      have hagrees := h.message (Identifier.isName_of_isValid hchat)
        (Disk.isName_document (Identifier.isPiece_of_isValid hmessage))
      simp only [bind, Except.bind, hagrees.exists?_eq]

end Looking

/-! ## Changing things -/

variable {α : Type}

/-- A change under the lock is alike if it is once the lock is held. -/
theorem Matches.locked (h : Matches layout d copy) {change : Disk → Disk × Except StoreError α}
    (hchange : ∀ {d copy : Disk}, Matches layout d copy →
      Alike (Matches layout) (change d) (change copy)) :
    Alike (Matches layout) (Store.locked layout d change) (Store.locked layout copy change) := by
  have hlock : Disk.hasFolder copy.look (Place.lock (layout.place d)) =
        Disk.hasFolder d.look (Place.lock (layout.place d)) ∧
      Disk.bytesIn (copy.look (Place.lock (layout.place d))) =
        Disk.bytesIn (d.look (Place.lock (layout.place d))) := by
    rcases h.look_eq with hsame | ⟨hnone, hset⟩
    · simp only [hsame, and_self]
    · rw [Disk.hasFolder, Disk.hasFolder, hset, View.set_self, hnone]
      exact ⟨rfl, rfl⟩
  have happended := h.agrees.append_empty_child Layout.isName_lock hlock.1 hlock.2
  unfold Store.locked
  rw [Layout.lock]
  generalize d.append (layout.dataFolder.child "store.lock") ByteArray.empty = first
    at happended ⊢
  generalize copy.append (layout.dataFolder.child "store.lock") ByteArray.empty = second
    at happended ⊢
  cases happended with
  | failed error => exact ⟨rfl, h⟩
  | done hd hcopy => exact hchange (isStable_matches layout h hd hcopy)

/-- What is made of the answers of changes that are alike. -/
theorem alike_map {β : Type} {R : Disk → Disk → Prop} {x y : Disk × α} (h : Alike R x y)
    (f : α → β) : Alike R (x.1, f x.2) (y.1, f y.2) :=
  ⟨congrArg f h.answer_eq, h.related⟩

theorem Matches.writeDocument (h : Matches layout d copy) {folder : Path} {stem : String}
    (hstem : Path.IsPiece stem) (hdocument : d.AgreesOn (folder.child (stem ++ ".toml")) copy)
    (hdraft : d.AgreesOn (folder.child (stem ++ ".toml.tmp")) copy) (t : Toml.Table) :
    Alike (Matches layout) (Store.writeDocument d (folder.child (stem ++ ".toml")) t)
      (Store.writeDocument copy (folder.child (stem ++ ".toml")) t) := by
  rw [writeDocument_eq, writeDocument_eq]
  exact alike_map (hdocument.replace_child (isStable_matches layout) h hdraft hstem _) _

theorem Matches.changeRegistry (h : Matches layout d copy)
    (change : Registry → Except StoreError Registry) :
    Alike (Matches layout) (Store.changeRegistry layout d change)
      (Store.changeRegistry layout copy change) := by
  apply h.locked
  intro d copy h
  rw [h.registry_eq]
  cases (Store.registry layout d).bind change with
  | error error => exact ⟨rfl, h⟩
  | ok changed =>
      exact h.writeDocument Layout.isPiece_connections h.registry h.registryDraft _

theorem Matches.register (h : Matches layout d copy) (connection : Connection)
    (permissions : Permissions) :
    Alike (Matches layout) (Store.register layout d connection permissions)
      (Store.register layout copy connection permissions) := by
  unfold Store.register
  cases checkId connection.chatId with
  | error error => exact ⟨rfl, h⟩
  | ok _ => exact h.changeRegistry _

theorem Matches.updateSummary (h : Matches layout d copy) (update : SummaryUpdate)
    (change : UnreadChange) :
    Alike (Matches layout) (Store.updateSummary layout d update change)
      (Store.updateSummary layout copy update change) :=
  h.changeRegistry _

theorem Matches.saveNew (h : Matches layout d copy) {chatId messageId : String}
    (hchat : Identifier.isValid chatId = true) (hmessage : Identifier.isValid messageId = true)
    (t : Toml.Table) :
    Alike (Matches layout)
      (Store.saveNew layout d chatId ((layout.chatMessages chatId).child (messageId ++ ".toml")) t)
      (Store.saveNew layout copy chatId
        ((layout.chatMessages chatId).child (messageId ++ ".toml")) t) := by
  have hname := Identifier.isName_of_isValid hchat
  have hpiece := Identifier.isPiece_of_isValid hmessage
  unfold Store.saveNew
  rw [h.registration_eq, (h.message hname (Disk.isName_document hpiece)).exists?_eq]
  cases hentry : registration layout d chatId with
  | error error => exact ⟨rfl, h⟩
  | ok entry =>
      dsimp only
      split
      · exact ⟨rfl, h⟩
      · obtain ⟨-, hopens, -⟩ := registration_eq_ok hentry
        obtain ⟨made, made', answer, hfirst, hsecond, hmatches⟩ :=
          ((h.chatMessages hname).makeFolders_child_child (isStable_matches layout) h
            Layout.isName_messages hname hopens.passes).exists_eq
        rw [Layout.chatMessages, Layout.messages, hfirst, hsecond]
        cases answer with
        | error error => exact ⟨rfl, hmatches⟩
        | ok _ =>
            obtain ⟨written, written', answer, hwrite, hwrite', hwritten⟩ :=
              (hmatches.writeDocument hpiece
                (hmatches.message hname (Disk.isName_document hpiece))
                (hmatches.message hname (Disk.isName_draft hpiece)) t).exists_eq
            rw [Layout.chatMessages, Layout.messages] at hwrite hwrite'
            dsimp only
            rw [hwrite, hwrite']
            cases answer <;> exact ⟨rfl, hwritten⟩

theorem Matches.saveMessage (h : Matches layout d copy) (message : Inbound) :
    Alike (Matches layout) (Store.saveMessage layout d message)
      (Store.saveMessage layout copy message) := by
  unfold Store.saveMessage
  cases hp : messagePath layout message.chatId message.messageId with
  | error error => exact ⟨rfl, h⟩
  | ok p =>
      obtain ⟨hchat, hmessage, rfl⟩ := messagePath_eq_ok hp
      cases Stored.inboundTable message with
      | error unwritable => exact ⟨rfl, h⟩
      | ok t => exact h.locked fun h => h.saveNew hchat hmessage t

theorem Matches.discardMessage (h : Matches layout d copy) (chatId messageId : String) :
    Alike (Matches layout) (Store.discardMessage layout d chatId messageId)
      (Store.discardMessage layout copy chatId messageId) := by
  unfold Store.discardMessage
  cases hp : messagePath layout chatId messageId with
  | error error => exact ⟨rfl, h⟩
  | ok p =>
      obtain ⟨hchat, hmessage, rfl⟩ := messagePath_eq_ok hp
      apply h.locked
      intro d copy h
      have hdocument := Disk.isName_document (Identifier.isPiece_of_isValid hmessage)
      have hremoved := (h.message (Identifier.isName_of_isValid hchat) hdocument).removeFile_child
        hdocument
      generalize d.removeFile ((layout.chatMessages chatId).child (messageId ++ ".toml")) = first
        at hremoved ⊢
      generalize copy.removeFile ((layout.chatMessages chatId).child (messageId ++ ".toml")) =
        second at hremoved ⊢
      cases hremoved with
      | failed error => cases error <;> exact ⟨rfl, h⟩
      | done hd hcopy => exact ⟨rfl, isStable_matches layout h hd hcopy⟩

end Store

/-! ## Outboxes -/

namespace Outbox

open Disk (Alike)
open Store (Matches isStable_matches)

variable {layout : Layout} {d copy : Disk}

theorem read_of_matches (h : Matches layout d copy) (kind : ChatKind) {messageId : String}
    (hid : Identifier.isValid messageId = true) :
    read copy (Layout.messageFile (layout.outbox kind) messageId) =
      read d (Layout.messageFile (layout.outbox kind) messageId) := by
  have hname := Disk.isName_document (Identifier.isPiece_of_isValid hid)
  rw [read, read, Layout.messageFile, (h.spooled kind hname).readText_eq]

theorem find_of_matches (h : Matches layout d copy) (messageId : String) :
    find layout copy messageId = find layout d messageId := by
  rw [find, find, checkId]
  by_cases hid : Identifier.isValid messageId = true
  · rw [if_pos hid, read_of_matches h .direct hid, read_of_matches h .group hid]
  · simp only [if_neg hid, bind, Except.bind]

theorem plan_of_matches (h : Matches layout d copy) (kind : ChatKind) (mode : DeliveryMode)
    (message : Outgoing) (now : Instant) :
    plan layout kind mode message now copy = plan layout kind mode message now d := by
  rw [plan, plan, checkId]
  by_cases hid : Identifier.isValid message.messageId = true
  · simp only [if_pos hid, read_of_matches h kind hid]
  · simp only [if_neg hid, bind, Except.bind]

theorem put_of_matches (h : Matches layout d copy) (kind : ChatKind) (mode : DeliveryMode)
    (message : Outgoing) (now : Instant) :
    Alike (Matches layout) (put layout kind mode message now d)
      (put layout kind mode message now copy) := by
  unfold put
  rw [plan_of_matches h]
  cases hplan : plan layout kind mode message now d with
  | error error => exact ⟨rfl, h⟩
  | ok planned =>
      obtain ⟨p, spooled, t⟩ := planned
      obtain ⟨hid, rfl, -, -⟩ := plan_eq_ok hplan
      have hpiece := Identifier.isPiece_of_isValid hid
      obtain ⟨written, written', answer, hwrite, hwrite', hwritten⟩ :=
        ((h.spooled kind (Disk.isName_document hpiece)).replace_child (isStable_matches layout) h
          (h.spooled kind (Disk.isName_draft hpiece)) hpiece (Toml.write t)).exists_eq
      dsimp only
      rw [hwrite, hwrite']
      rcases answer with ⟨_, error⟩ | _ <;> exact ⟨rfl, hwritten⟩

end Outbox

end Courier
