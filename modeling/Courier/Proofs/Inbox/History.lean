import Courier.Proofs.Command.Execute
import Courier.Proofs.Inbox.Failure

/-!
# Histories of a data folder

Messages are received, other commands are carried out, and others change the tree of files outside
of the registry and of the received messages, in any order. Whatever the guard answers when it is
asked about earlier messages, a message is processed once, its file stays, and it is counted once.
-/

namespace Courier.Inbox

open Store (Locks Rewrites Prepares Saves registryIn registryNode)

variable {layout : Layout} {message : Inbound} {d after : Disk}

/-! ## Received messages stay -/

/-- Whether everything in the folder of received messages is as it was. -/
structure KeepsMessages (layout : Layout) (d after : Disk) : Prop where
  place_eq : layout.place after = layout.place d
  look_eq : ∀ name more, after.look (Place.messages (layout.place d) ++ name :: more) =
    d.look (Place.messages (layout.place d) ++ name :: more)

theorem KeepsMessages.refl (layout : Layout) (d : Disk) : KeepsMessages layout d d :=
  ⟨rfl, fun _ _ => rfl⟩

theorem KeepsMessages.trans {between : Disk} (hfirst : KeepsMessages layout d between)
    (hsecond : KeepsMessages layout between after) : KeepsMessages layout d after := by
  refine ⟨hsecond.place_eq.trans hfirst.place_eq, ?_⟩
  intro name more
  rw [← hfirst.look_eq, ← hfirst.place_eq]
  exact hsecond.look_eq name more

theorem keepsMessages_of_rewrites {known changed : Registry}
    (hrewrites : Rewrites layout d known changed after) : KeepsMessages layout d after := by
  refine ⟨hrewrites.place_eq, ?_⟩
  intro name more
  apply hrewrites.look_of_ne
  · simp [Place.messages, Place.lock]
  · simp [Place.messages, Place.registryDraft]
  · simp [Place.messages, Place.registry]

theorem keepsMessages_of_change (h : Command.Change layout d after) :
    KeepsMessages layout d after := by
  cases h with
  | locked hlocks =>
      refine ⟨layout.place_of_keeps hlocks.keeps, ?_⟩
      intro name more
      apply hlocks.look_of_ne
      simp [Place.messages, Place.lock]
  | rewritten _ hrewrites => exact keepsMessages_of_rewrites hrewrites
  | spooled _ _ hspools =>
      refine ⟨layout.place_of_keeps hspools.keeps, ?_⟩
      intro name more
      apply hspools.look_of_ne
      · simp [Place.messages, Place.spooled, Place.outbox]
      · simp [Place.messages, Place.spooledDraft, Place.outbox]

theorem keepsMessages_of_changes (h : Command.Changes layout d after) :
    KeepsMessages layout d after := by
  induction h with
  | refl => exact .refl layout d
  | tail _ hchange ih => exact ih.trans (keepsMessages_of_change hchange)

/-- Whether every file of a received message is as it was. -/
structure KeepsReceived (layout : Layout) (d after : Disk) : Prop where
  place_eq : layout.place after = layout.place d
  kept : ∀ chatId messageId content,
    d.look (Place.message (layout.place d) chatId messageId) = some (.file content) →
      after.look (Place.message (layout.place d) chatId messageId) = some (.file content)

theorem KeepsReceived.trans {between : Disk} (hfirst : KeepsReceived layout d between)
    (hsecond : KeepsReceived layout between after) : KeepsReceived layout d after := by
  refine ⟨hsecond.place_eq.trans hfirst.place_eq, ?_⟩
  intro chatId messageId content hfile
  have hbetween := hfirst.kept chatId messageId content hfile
  rw [← hfirst.place_eq] at hbetween ⊢
  exact hsecond.kept chatId messageId content hbetween

theorem KeepsMessages.look_message (h : KeepsMessages layout d after) (chatId messageId : String) :
    after.look (Place.message (layout.place d) chatId messageId) =
      d.look (Place.message (layout.place d) chatId messageId) := by
  rw [Place.message, Place.chat, List.append_assoc]
  exact h.look_eq chatId [messageId ++ ".toml"]

theorem KeepsMessages.keepsReceived (h : KeepsMessages layout d after) :
    KeepsReceived layout d after := by
  refine ⟨h.place_eq, ?_⟩
  intro chatId messageId content hfile
  rw [h.look_message]
  exact hfile

/-- The file of a message is neither the lock nor a draft, so it is not touched by a receive that
fails or finds a message that was received before. -/
theorem keepsReceived_of_residue
    (hresidue : ∀ q, Residue (layout.place d) message d.look after.look q)
    (hplace : layout.place after = layout.place d) : KeepsReceived layout d after := by
  refine ⟨hplace, ?_⟩
  intro chatId messageId content hfile
  rw [(hresidue _).file_iff (Place.message_ne_lock _ _ _) (Place.message_ne_messageDraft _ _ _ _ _)]
  exact hfile

theorem keepsReceived_of_saves (hsaves : Saves layout d message after) :
    KeepsReceived layout d after := by
  refine ⟨layout.place_of_keeps hsaves.keeps, ?_⟩
  intro chatId messageId content hfile
  have hold : Place.message (layout.place d) chatId messageId ≠
      Place.message (layout.place d) message.chatId message.messageId := by
    intro heq
    rw [heq, hsaves.absent] at hfile
    cases hfile
  rw [hsaves.look_of_ne _ (Place.message_ne_lock _ _ _)
    (Store.message_not_mem_chatFolders _ _ _ _) (Place.message_ne_messageDraft _ _ _ _ _) hold]
  exact hfile

theorem Course.keepsReceived {host after : Host} {result : Except ReceiveError Outcome}
    (h : Course layout message host result after) : KeepsReceived layout host.disk after.disk := by
  cases result with
  | error e =>
      have hnothing := leavesNothing_of_course h
      exact keepsReceived_of_residue hnothing.residue hnothing.place_eq
  | ok outcome =>
      cases h with
      | duplicate hdisk =>
          have hresidue := @residue_of_prepares layout message _ _ hdisk
          exact keepsReceived_of_residue hresidue (layout.place_of_keeps hdisk.keeps)
      | processed hsaves _ hrewrites =>
          exact (keepsReceived_of_saves hsaves).trans
            (keepsMessages_of_rewrites hrewrites).keepsReceived

/-! ## Counting -/

/-- The chats of a registry and the numbers of their unread messages, in order. -/
def unreadCountsOf (known : Registry) : List (String × UInt32) :=
  known.map fun entry => (entry.connection.chatId, entry.connection.summary.unreadCount)

/-- The numbers of unread messages that are told by the registry, if there is one to be read. -/
def unreadCounts (layout : Layout) (d : Disk) : Option (List (String × UInt32)) :=
  (registryIn (registryNode layout d)).map unreadCountsOf

/-- Whether counts differ in one more unread message of a chat, at the first entry of that chat. -/
def CountsOneMore (chatId : String) (before after : Option (List (String × UInt32))) : Prop :=
  ∃ front count rest, before = some (front ++ (chatId, count) :: rest) ∧
    (∀ other ∈ front, other.1 ≠ chatId) ∧
    after = some (front ++ (chatId, saturatingSucc count) :: rest)

theorem countsOneMore_of_rewrites {saved : Disk} {known : Registry}
    (hknown : registryIn (registryNode layout d) = some known)
    (hfind : known.find? message.chatId ≠ none)
    (hrewrites : Rewrites layout saved known
      (known.applyUpdate (summaryUpdate message) .increment) after) :
    CountsOneMore message.chatId (unreadCounts layout d) (unreadCounts layout after) := by
  obtain ⟨entry, hentry⟩ := Option.ne_none_iff_exists'.mp hfind
  obtain ⟨hid, front, rest, rfl, hfront⟩ := Registry.find?_eq_some_iff.mp hentry
  have hafter := hrewrites.registryIn_eq
  rw [@Registry.applyUpdate_append front rest entry (summaryUpdate message) hfront hid] at hafter
  refine ⟨unreadCountsOf front, entry.connection.summary.unreadCount, unreadCountsOf rest,
    ?_, ?_, ?_⟩
  · rw [unreadCounts, hknown, ← hid]
    simp [unreadCountsOf]
  · intro other hother
    obtain ⟨first, hfirst, rfl⟩ := List.mem_map.mp hother
    exact hfront first hfirst
  · rw [unreadCounts, hafter, ← hid]
    simp [unreadCountsOf, Summary.apply, UnreadChange.apply]

theorem unreadCounts_eq (h : registryNode layout after = registryNode layout d) :
    unreadCounts layout after = unreadCounts layout d := by
  rw [unreadCounts, unreadCounts, h]

theorem registryNode_of_residue
    (hresidue : ∀ q, Residue (layout.place d) message d.look after.look q)
    (hplace : layout.place after = layout.place d) :
    registryNode layout after = registryNode layout d := by
  rw [registryNode, registryNode, hplace]
  exact (hresidue _).look_eq (by decide) (by decide)

/-- Whether the outcome of a receive says that the message was processed. -/
def isProcessed : Except ReceiveError Outcome → Bool
  | .ok (.processed _) => true
  | _ => false

/-- What a receive did to the counts of unread messages. -/
def CountsReceive (chatId : String) (result : Except ReceiveError Outcome)
    (before after : Option (List (String × UInt32))) : Prop :=
  if isProcessed result then CountsOneMore chatId before after else after = before

/-- A receive that processes nothing leaves no more than a failed one may leave. -/
theorem Course.residue {host after : Host} {result : Except ReceiveError Outcome}
    (h : Course layout message host result after) (hresult : isProcessed result = false) :
    layout.place after.disk = layout.place host.disk ∧
      ∀ q, Residue (layout.place host.disk) message host.disk.look after.disk.look q := by
  cases result with
  | error e =>
      have hnothing := leavesNothing_of_course h
      exact ⟨hnothing.place_eq, hnothing.residue⟩
  | ok outcome =>
      cases h with
      | duplicate hdisk => exact ⟨layout.place_of_keeps hdisk.keeps, residue_of_prepares hdisk⟩
      | processed => cases hresult

/-- A receive that processes nothing leaves the registry as it was. -/
theorem Course.registryNode_eq {host after : Host} {result : Except ReceiveError Outcome}
    (h : Course layout message host result after) (hresult : isProcessed result = false) :
    registryNode layout after.disk = registryNode layout host.disk := by
  obtain ⟨hplace, hresidue⟩ := h.residue hresult
  exact registryNode_of_residue hresidue hplace

theorem Course.countsReceive {host after : Host} {result : Except ReceiveError Outcome}
    (h : Course layout message host result after) :
    CountsReceive message.chatId result (unreadCounts layout host.disk)
      (unreadCounts layout after.disk) := by
  unfold CountsReceive
  split
  next hprocessed =>
    cases h with
    | processed hsaves hknown hrewrites =>
        obtain ⟨known, hin, hfind⟩ := hsaves.known
        rw [hsaves.registryNode_eq, hin] at hknown
        cases hknown
        exact countsOneMore_of_rewrites hin hfind hrewrites
    | _ => cases hprocessed
  next hresult => exact unreadCounts_eq (h.registryNode_eq (by simpa using hresult))

/-! ## New files -/

/-- Whether the file of a message is there and reads as exactly this message at all times. -/
def IsStored (layout : Layout) (message : Inbound) (d : Disk) : Prop :=
  ∃ content, d.look (Place.message (layout.place d) message.chatId message.messageId) =
      some (.file content) ∧
    ∀ now, ((String.fromUTF8? content).bind Toml.read?).bind (Stored.inbound? now) = some message

theorem IsStored.keeps (h : IsStored layout message d) (hkeeps : KeepsReceived layout d after) :
    IsStored layout message after := by
  obtain ⟨content, hfile, hreads⟩ := h
  refine ⟨content, ?_, hreads⟩
  rw [hkeeps.place_eq]
  exact hkeeps.kept _ _ _ hfile

theorem isStored_of_saves (hsaves : Saves layout d message after) :
    IsStored layout message after := by
  obtain ⟨t, htable, hfile⟩ := hsaves.written
  refine ⟨(Toml.write t).toUTF8, ?_, ?_⟩
  · rw [layout.place_of_keeps hsaves.keeps]
    exact hfile
  · intro now
    rw [fromUTF8?_toUTF8]
    exact (Stored.inbound_isReadBack now).decode_eq htable

/-! ## Moments -/

/-- Whether a change of the tree leaves the registry and the received messages alone. -/
structure LeavesAlone (layout : Layout) (d after : Disk) : Prop
    extends KeepsMessages layout d after where
  registry_eq : registryNode layout after = registryNode layout d

theorem LeavesAlone.refl (layout : Layout) (d : Disk) : LeavesAlone layout d d :=
  ⟨.refl layout d, rfl⟩

/-- The hosts before and after something was done, and the receive that was run, if it was one: the
message and what became of it. -/
structure Moment where
  before : Host
  run : Option (Inbound × Except ReceiveError Outcome)
  after : Host

/-- What can be done: a message is received, whatever the guard says and does to the rest of the
tree; a command is carried out; or the tree is changed by others. -/
inductive Deed (layout : Layout) : Moment → Prop
  | guarded (notifications : Bool)
      (guard : String → String → StateM Host (Except StoreError Bool)) (message : Inbound)
      (before : Host)
      (hguard : ∀ chatId messageId host,
        LeavesAlone layout host.disk (guard chatId messageId host).2.disk) :
      Deed layout
        { before
          run := some (message,
            (receive (Host.servicesGuardedBy layout notifications guard) message before).1)
          after := (receive (Host.servicesGuardedBy layout notifications guard) message before).2 }
  | command (notifications : Bool) (command : Command) (before : Host) :
      Deed layout
        { before
          run := Command.receivedBy ⟨layout, notifications⟩ command before
          after := (Command.execute ⟨layout, notifications⟩ command before).2 }
  | outside {before after : Host} (h : LeavesAlone layout before.disk after.disk) :
      Deed layout { before, run := none, after }

/-- What a moment does to the files: all received messages stay, and a message that is processed was
not there before, is there afterwards, and is counted. -/
structure Moment.IsSound (layout : Layout) (moment : Moment) : Prop where
  keepsReceived : KeepsReceived layout moment.before.disk moment.after.disk
  absent : ∀ message result, moment.run = some (message, result) → isProcessed result = true →
    moment.before.disk.look (Place.message (layout.place moment.before.disk) message.chatId
      message.messageId) = none
  stored : ∀ message result, moment.run = some (message, result) → isProcessed result = true →
    IsStored layout message moment.after.disk
  countsReceive : ∀ message result, moment.run = some (message, result) →
    CountsReceive message.chatId result (unreadCounts layout moment.before.disk)
      (unreadCounts layout moment.after.disk)

theorem isSound_of_course {before guarded received after : Host}
    {result : Except ReceiveError Outcome} (hguarded : LeavesAlone layout before.disk guarded.disk)
    (hcourse : Course layout message guarded result received)
    (hafter : after.disk = received.disk) :
    Moment.IsSound layout { before, run := some (message, result), after } := by
  constructor
  · change KeepsReceived layout before.disk after.disk
    rw [hafter]
    exact hguarded.keepsReceived.trans hcourse.keepsReceived
  · rintro _ _ ⟨⟩ hprocessed
    cases hcourse with
    | processed hsaves =>
        have habsent := hsaves.absent
        rw [hguarded.place_eq, hguarded.look_message] at habsent
        exact habsent
    | _ => cases hprocessed
  · rintro _ _ ⟨⟩ hprocessed
    change IsStored layout message after.disk
    rw [hafter]
    cases hcourse with
    | processed hsaves _ hrewrites =>
        exact (isStored_of_saves hsaves).keeps (keepsMessages_of_rewrites hrewrites).keepsReceived
    | _ => cases hprocessed
  · rintro _ _ ⟨⟩
    change CountsReceive message.chatId result (unreadCounts layout before.disk)
      (unreadCounts layout after.disk)
    rw [hafter, ← unreadCounts_eq hguarded.registry_eq]
    exact hcourse.countsReceive

theorem isSound_of_keepsMessages {before after : Host}
    (h : KeepsMessages layout before.disk after.disk) :
    Moment.IsSound layout { before, run := none, after } := by
  constructor
  · exact h.keepsReceived
  · rintro _ _ ⟨⟩
  · rintro _ _ ⟨⟩
  · rintro _ _ ⟨⟩

theorem isSound_of_receiveFile (notifications : Bool) (p : Path) (before : Host) :
    Moment.IsSound layout
      { before
        run := Command.receivedBy ⟨layout, notifications⟩ (.receive p) before
        after := (Command.receiveFile ⟨layout, notifications⟩ p before).2 } := by
  rcases Command.receiveFile_cases layout notifications p before with
    ⟨hrun, hdisk⟩ | ⟨message, result, read, received, hrun, hread, hcourse, hdisk⟩
  · rw [hrun]
    apply isSound_of_keepsMessages
    rw [hdisk]
    exact .refl layout before.disk
  · rw [hrun]
    apply isSound_of_course _ hcourse hdisk
    rw [hread]
    exact .refl layout before.disk

theorem Deed.isSound {moment : Moment} (h : Deed layout moment) : moment.IsSound layout := by
  cases h with
  | guarded notifications guard message before hguard =>
      cases hreceive : receive (Host.servicesGuardedBy layout notifications guard) message
        before with
      | mk result after =>
          rcases receive_cases hreceive with hcourse | ⟨answer, guarded, hasked, hcourse⟩
          · exact isSound_of_course (.refl layout before.disk) hcourse rfl
          · have hleaves := hguard message.chatId message.messageId before
            rw [hasked] at hleaves
            exact isSound_of_course hleaves hcourse rfl
  | command notifications command before =>
      cases command with
      | receive p => exact isSound_of_receiveFile notifications p before
      | _ =>
          apply isSound_of_keepsMessages
          apply keepsMessages_of_changes
          exact Command.acts_execute notifications _ before (by simp)
  | outside h => exact isSound_of_keepsMessages h.toKeepsMessages

/-! ## Histories -/

/-- What is done one after another, starting on a host. -/
inductive History (layout : Layout) : Host → List Moment → Prop
  | nil (host : Host) : History layout host []
  | cons {moment : Moment} {moments : List Moment} (hdeed : Deed layout moment)
      (hrest : History layout moment.after moments) :
      History layout moment.before (moment :: moments)

/-- The chat and the message that were processed at a moment, if any were. -/
def Moment.processed (moment : Moment) : Option (String × String) :=
  match moment.run with
  | some (message, result) =>
    if isProcessed result then some (message.chatId, message.messageId) else none
  | none => none

theorem Moment.processed_eq_some {moment : Moment} {chatId messageId : String}
    (h : moment.processed = some (chatId, messageId)) :
    ∃ message result, moment.run = some (message, result) ∧ isProcessed result = true ∧
      message.chatId = chatId ∧ message.messageId = messageId := by
  unfold Moment.processed at h
  cases hrun : moment.run with
  | none =>
      rw [hrun] at h
      cases h
  | some run =>
      obtain ⟨message, result⟩ := run
      simp only [hrun] at h
      split at h
      next hprocessed =>
        cases h
        exact ⟨message, result, rfl, hprocessed, rfl, rfl⟩
      next => cases h

/-- A message whose file is there is not processed any more. -/
theorem History.not_processed {host : Host} {moments : List Moment}
    (h : History layout host moments) {chatId messageId : String} {content : ByteArray}
    (hfile : host.disk.look (Place.message (layout.place host.disk) chatId messageId) =
      some (.file content)) : (chatId, messageId) ∉ moments.filterMap Moment.processed := by
  induction h with
  | nil host => exact List.not_mem_nil
  | cons hdeed _ ih =>
      have hsound := hdeed.isSound
      intro hmem
      rw [List.mem_filterMap] at hmem
      obtain ⟨moment', hmoment, hprocessed⟩ := hmem
      rcases List.mem_cons.mp hmoment with rfl | hlater
      -- What is processed was not there before.
      · obtain ⟨message, result, hrun, hresult, rfl, rfl⟩ := Moment.processed_eq_some hprocessed
        rw [hsound.absent message result hrun hresult] at hfile
        cases hfile
      -- The file stays, so the rest of the history finds it.
      · have hkept := hsound.keepsReceived.kept _ _ _ hfile
        rw [← hsound.keepsReceived.place_eq] at hkept
        exact ih hkept (List.mem_filterMap.mpr ⟨moment', hlater, hprocessed⟩)

/-- A stored message is stored at every later moment. -/
theorem History.isStored {host : Host} {moments : List Moment} (h : History layout host moments)
    (hstored : IsStored layout message host.disk) :
    ∀ moment ∈ moments, IsStored layout message moment.after.disk := by
  induction h with
  | nil host =>
      intro moment hmem
      exact absurd hmem List.not_mem_nil
  | cons hdeed _ ih =>
      have hafter := hstored.keeps hdeed.isSound.keepsReceived
      intro moment hmem
      rcases List.mem_cons.mp hmem with rfl | hlater
      · exact hafter
      · exact ih hafter moment hlater

theorem History.deed {host : Host} {moments : List Moment} (h : History layout host moments) :
    ∀ moment ∈ moments, Deed layout moment := by
  induction h with
  | nil host =>
      intro moment hmem
      exact absurd hmem List.not_mem_nil
  | cons hdeed _ ih =>
      intro moment hmem
      rcases List.mem_cons.mp hmem with rfl | hlater
      · exact hdeed
      · exact ih moment hlater

theorem History.of_append {host : Host} {earlier later : List Moment} {moment : Moment}
    (h : History layout host (earlier ++ moment :: later)) :
    History layout moment.after later := by
  induction earlier generalizing host with
  | nil =>
      cases h with
      | cons _ hrest => exact hrest
  | cons first earlier ih =>
      cases h with
      | cons _ hrest => exact ih hrest

theorem History.processed_nodup {host : Host} {moments : List Moment}
    (h : History layout host moments) : (moments.filterMap Moment.processed).Nodup := by
  induction h with
  | nil host => exact List.nodup_nil
  | @cons moment moments hdeed hrest ih =>
      rw [List.filterMap_cons]
      cases hprocessed : moment.processed with
      | none => exact ih
      | some pair =>
          obtain ⟨chatId, messageId⟩ := pair
          obtain ⟨message, result, hrun, hresult, rfl, rfl⟩ := Moment.processed_eq_some hprocessed
          obtain ⟨content, hfile, -⟩ := hdeed.isSound.stored message result hrun hresult
          exact List.nodup_cons.mpr ⟨hrest.not_processed hfile, ih⟩

/-- Over any history no message is processed twice. A message that is processed was not there
before; its file is there at every later moment and reads as exactly that message. Every receive
that processes a message, and no other receive, counts it as one more unread message of its chat. -/
theorem received_once {host : Host} {moments : List Moment} (h : History layout host moments) :
    (moments.filterMap Moment.processed).Nodup ∧
    (∀ earlier moment later message result, moments = earlier ++ moment :: later →
      moment.run = some (message, result) → isProcessed result = true →
        moment.before.disk.look (Place.message (layout.place moment.before.disk) message.chatId
          message.messageId) = none ∧
        ∀ state ∈ moment :: later, IsStored layout message state.after.disk) ∧
    (∀ moment ∈ moments, ∀ message result, moment.run = some (message, result) →
      CountsReceive message.chatId result (unreadCounts layout moment.before.disk)
        (unreadCounts layout moment.after.disk)) := by
  refine ⟨h.processed_nodup, ?_, ?_⟩
  · rintro earlier moment later message result rfl hrun hresult
    have hsound := (h.deed moment (List.mem_append_right _ List.mem_cons_self)).isSound
    have hstored := hsound.stored message result hrun hresult
    refine ⟨hsound.absent message result hrun hresult, ?_⟩
    intro state hstate
    rcases List.mem_cons.mp hstate with rfl | hlater
    · exact hstored
    · exact h.of_append.isStored hstored state hlater
  · intro moment hmem message result hrun
    exact (h.deed moment hmem).isSound.countsReceive message result hrun

/-- A guard that never knows a message. -/
def forgetful (_ _ : String) : StateM Host (Except StoreError Bool) :=
  pure (.ok false)

/-- The message is received on a host that knows the chat, with nothing in the way. -/
def receiveForgetful (host : Host) : Except ReceiveError Outcome × Host :=
  receive (Host.servicesGuardedBy ⟨⟨"/data"⟩⟩ true forgetful) greeting host

/-- The host of the blocked registry with the way free. -/
def openHost : Host :=
  { blockedHost "7" with
    disk := (blockedHost "7").disk.clear (Place.registryDraft ["data"]) }

/-- The same message, received twice. -/
def greetedTwice : List Moment :=
  let first := receiveForgetful openHost
  let second := receiveForgetful first.2
  [{ before := openHost, run := some (greeting, first.1), after := first.2 },
    { before := first.2, run := some (greeting, second.1), after := second.2 }]

theorem history_greetedTwice : History ⟨⟨"/data"⟩⟩ openHost greetedTwice := by
  have hforgetful (chatId messageId : String) (host : Host) :
      LeavesAlone ⟨⟨"/data"⟩⟩ host.disk (forgetful chatId messageId host).2.disk :=
    .refl _ host.disk
  apply History.cons (.guarded true forgetful greeting openHost hforgetful)
  exact .cons (.guarded true forgetful greeting _ hforgetful) (.nil _)

theorem received_once_greetedTwice :
    isProcessed (receiveForgetful openHost).1 = true ∧
    History ⟨⟨"/data"⟩⟩ openHost greetedTwice ∧
    (greetedTwice.filterMap Moment.processed).Nodup ∧
    (∀ state ∈ greetedTwice, IsStored ⟨⟨"/data"⟩⟩ greeting state.after.disk) ∧
    CountsOneMore "a" (unreadCounts ⟨⟨"/data"⟩⟩ openHost.disk)
      (unreadCounts ⟨⟨"/data"⟩⟩ (receiveForgetful openHost).2.disk) := by
  have hprocessed : isProcessed (receiveForgetful openHost).1 = true := by decide +kernel
  obtain ⟨hnodup, hstored, hcounts⟩ := received_once history_greetedTwice
  refine ⟨hprocessed, history_greetedTwice, hnodup, ?_, ?_⟩
  · exact (hstored [] _ _ greeting _ rfl rfl hprocessed).2
  · have hfirst := hcounts _ List.mem_cons_self greeting _ rfl
    rw [CountsReceive, if_pos hprocessed] at hfirst
    exact hfirst

end Courier.Inbox
