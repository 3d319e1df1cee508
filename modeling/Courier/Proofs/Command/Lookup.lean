import Courier.Proofs.Command.Retry
import Courier.Proofs.Command.Session

/-!
# Looking up messages in the outboxes

The outboxes of a data folder that is only used by commands hold nothing but messages that can be
read, and a message is looked up in the one for direct chats first. It is found unless that one
holds another message under its identifier. Two outboxes come to hold one identifier if a command
puts a message into one of them while the other holds it: each outbox refuses only what it holds
itself.
-/

namespace Courier.Command

open DataFolder (IsFileless Run freshHost freshChat)
open Outbox (KeepsOutboxes KeepsOthers spooledAt)

variable {layout : Layout} {kind other : ChatKind} {messageId : String} {first d : Disk}
  {turns : List Turn}

/-! ## What a command puts into an outbox -/

/-- Whether a command put a message into the outbox of a kind: it came to route the message, the
chat of the message is of that kind, and it succeeded. -/
def Turn.Delivers (layout : Layout) (turn : Turn) (kind : ChatKind) (messageId : String) : Prop :=
  ∃ mode message start entry,
    routedBy layout turn.command turn.before = some (mode, message, start) ∧
    message.messageId = messageId ∧
    Store.registration layout turn.before.disk message.chatId = .ok entry ∧
    entry.connection.kind = kind ∧ turn.result layout = .ok ()

/-- Whether an outbox holds a message under an identifier, put there by way of its draft. -/
structure Holds (layout : Layout) (kind : ChatKind) (messageId : String) (d : Disk) : Prop where
  validMessage : Identifier.isValid messageId = true
  opens_draft : d.Opens (layout.outbox kind) (messageId ++ ".toml.tmp")
  isSome : (spooledAt layout kind messageId d).isSome = true

/-- A command that put a message into an outbox handed it over there and left the outboxes alone
afterwards. -/
theorem Turn.Delivers.handsOver {turn : Turn} (h : turn.Delivers layout kind messageId) :
    ∃ mode message start now attempts handed,
      routedBy layout turn.command turn.before = some (mode, message, start) ∧
      message.messageId = messageId ∧
      Outbox.HandsOver layout kind mode message now turn.before.disk attempts handed ∧
      handed.Keeps (turn.after layout).disk ∧
      KeepsOutboxes layout handed (turn.after layout).disk := by
  obtain ⟨mode, message, start, entry, hrouted, hmessage, hentry, rfl, hok⟩ := h
  have hfollows := execute_of_routedBy turn.notifications hrouted
  have hresult : (route layout mode message start).1 = .ok () := hfollows.result_eq.symm.trans hok
  obtain ⟨entry', attempts, handed, hentry', hhands, hkeeps, houtboxes, -⟩ :=
    handsOver_of_route (Prod.ext hresult rfl)
  rw [hfollows.start_disk] at hentry' hhands
  obtain rfl : entry' = entry := Except.ok.inj (hentry'.symm.trans hentry)
  have hafter : (turn.after layout).disk = (route layout mode message start).2.disk :=
    hfollows.disk_eq
  rw [← hafter] at hkeeps houtboxes
  exact ⟨mode, message, start, _, attempts, handed, hrouted, hmessage, hhands, hkeeps, houtboxes⟩

/-- What a command leaves in the outboxes if it put a message into one of them. -/
theorem Turn.Delivers.holds {turn : Turn} (h : turn.Delivers layout kind messageId) :
    Holds layout kind messageId (turn.after layout).disk ∧
      KeepsOthers layout kind messageId turn.before.disk (turn.after layout).disk := by
  obtain ⟨mode, message, -, now, attempts, handed, -, rfl, hhands, hkeeps, houtboxes⟩ :=
    h.handsOver
  refine ⟨⟨hhands.validMessage, (hhands.keeps.trans hkeeps).opens hhands.opens_draft, ?_⟩,
    hhands.keepsOthers.trans houtboxes⟩
  rw [houtboxes.spooledAt_eq, hhands.spooledAt_eq]
  rfl

/-- A command puts no more than one message into an outbox. -/
theorem Turn.Delivers.eq {turn : Turn} {messageId' : String}
    (h : turn.Delivers layout kind messageId) (h' : turn.Delivers layout other messageId') :
    kind = other ∧ messageId = messageId' := by
  obtain ⟨mode, message, start, entry, hrouted, rfl, hentry, rfl, -⟩ := h
  obtain ⟨mode', message', start', entry', hrouted', rfl, hentry', rfl, -⟩ := h'
  cases hrouted.symm.trans hrouted'
  cases hentry.symm.trans hentry'
  exact ⟨rfl, rfl⟩

theorem keepsOutboxes_of_course {message : Inbound} {host after : Host}
    {result : Except Inbox.ReceiveError Inbox.Outcome}
    (h : Inbox.Course layout message host result after) :
    KeepsOutboxes layout host.disk after.disk := by
  cases hprocessed : Inbox.isProcessed result with
  | true =>
      cases h with
      | processed hsaves _ hrewrites =>
          exact (keepsOutboxes_of_saves hsaves).trans (Outbox.keepsOutboxes_of_rewrites hrewrites)
      | _ => cases hprocessed
  | false =>
      obtain ⟨hplace, hresidue⟩ := h.residue hprocessed
      exact ⟨hplace, fun more => (hresidue _).look_eq (by decide) (by decide)⟩

/-- A command that routes no message leaves the outboxes as they are. -/
theorem Turn.keepsOutboxes_of_not_routed {turn : Turn}
    (hrouted : routedBy layout turn.command turn.before = none) :
    KeepsOutboxes layout turn.before.disk (turn.after layout).disk := by
  obtain ⟨before, notifications, command⟩ := turn
  have hsame : ∀ d : Disk, d = before.disk → KeepsOutboxes layout before.disk d := by
    rintro _ rfl
    exact .refl _ _
  cases command with
  | send arguments => exact hsame _ (sendMessage_disk notifications hrouted)
  | retry messageId => exact hsame _ (retryMessage_disk notifications hrouted)
  | receive p =>
      rcases receiveFile_cases layout notifications p before with
        ⟨-, hdisk⟩ | ⟨message, result, read, received, -, hread, hcourse, hdisk⟩
      · exact hsame _ hdisk
      · have hkeeps := keepsOutboxes_of_course hcourse
        rw [hread, ← hdisk] at hkeeps
        exact hkeeps
  | chats limit => exact hsame _ (printChats_disk notifications limit before)
  | addChat arguments =>
      rw [Turn.after, execute, registerChat_disk]
      cases hregister : Store.register layout before.disk (describedChat arguments).1
          (describedChat arguments).2 with
      | mk after result =>
          rcases Store.register_cases hregister with ⟨-, hlocks⟩ | ⟨-, -, known, hrewrites⟩
          · exact Outbox.keepsOutboxes_of_locks hlocks
          · exact Outbox.keepsOutboxes_of_rewrites hrewrites

/-- All commands but the one that puts a message there leave the outboxes as they are. -/
theorem Turn.keepsOutboxes {turn : Turn}
    (h : ∀ kind messageId, ¬ turn.Delivers layout kind messageId) :
    KeepsOutboxes layout turn.before.disk (turn.after layout).disk := by
  cases hrouted : routedBy layout turn.command turn.before with
  | none => exact turn.keepsOutboxes_of_not_routed hrouted
  | some routed =>
      obtain ⟨mode, message, start⟩ := routed
      have hfollows := execute_of_routedBy turn.notifications hrouted
      have hresult : turn.result layout = (route layout mode message start).1 :=
        hfollows.result_eq
      have hafter : (turn.after layout).disk = (route layout mode message start).2.disk :=
        hfollows.disk_eq
      rw [hafter, ← hfollows.start_disk]
      cases hroute : route layout mode message start with
      | mk result after =>
          cases routing_of_route hroute with
          | unknown => exact .refl _ _
          | @entered entry handed answer written _ hentry hhanded hentering =>
              have hkeeps := keepsOutboxes_of_entering hentering
              rcases handOver_cases hhanded with ⟨-, rfl⟩ | ⟨attempts, rfl, -⟩
              · exact hkeeps
              · rw [hfollows.start_disk] at hentry
                rw [hroute] at hresult
                exact absurd ⟨mode, message, start, entry, hrouted, rfl, hentry, rfl, hresult⟩
                  (h entry.connection.kind message.messageId)

/-- Whether an outbox holds a message changes only where a command puts it there. -/
theorem Turn.isSome_spooledAt_iff {turn : Turn} :
    (spooledAt layout kind messageId (turn.after layout).disk).isSome = true ↔
      turn.Delivers layout kind messageId ∨
        (spooledAt layout kind messageId turn.before.disk).isSome = true := by
  by_cases hdelivers : ∃ kind messageId, turn.Delivers layout kind messageId
  · obtain ⟨kind', messageId', hdelivered⟩ := hdelivers
    obtain ⟨hholds, hothers⟩ := hdelivered.holds
    by_cases hown : kind' = kind ∧ messageId' = messageId
    · obtain ⟨rfl, rfl⟩ := hown
      simp [hholds.isSome, hdelivered]
    · have hnot : ¬ turn.Delivers layout kind messageId :=
        fun hdelivers => hown (hdelivered.eq hdelivers)
      rw [hothers.spooledAt_eq hown]
      simp [hnot]
  · have hnone : ∀ kind messageId, ¬ turn.Delivers layout kind messageId :=
      fun kind messageId h => hdelivers ⟨kind, messageId, h⟩
    rw [(Turn.keepsOutboxes hnone).spooledAt_eq]
    simp [hnone kind messageId]

/-! ## The outboxes of a data folder in use -/

/-- The disks after some commands, one after another, with nothing else done in between. -/
inductive ClosedSession (layout : Layout) (first : Disk) : List Turn → Disk → Prop
  | start : ClosedSession layout first [] first
  | turn {turns : List Turn} {d : Disk} (hsession : ClosedSession layout first turns d)
      (turn : Turn) (hdisk : turn.before.disk = d) :
      ClosedSession layout first (turns ++ [turn]) (turn.after layout).disk

theorem ClosedSession.command {host : Host} {notifications : Bool} {command : Command}
    {answered : Except Failure Unit × Host} (h : ClosedSession layout first turns host.disk)
    (hexecute : execute ⟨layout, notifications⟩ command host = answered) :
    ClosedSession layout first (turns ++ [⟨host, notifications, command⟩]) answered.2.disk := by
  subst hexecute
  exact h.turn ⟨host, notifications, command⟩ rfl

theorem ClosedSession.run (h : ClosedSession layout first turns d) : Run layout first d := by
  induction h with
  | start => exact .start
  | turn _ turn hdisk ih =>
      subst hdisk
      exact .command ih turn.before (.refl _ _) turn.notifications turn.command

/-- An empty data folder: there are no files in it, and nothing at all in an outbox. -/
structure IsEmpty (layout : Layout) (d : Disk) : Prop where
  fileless : IsFileless (layout.place d) d.look
  outboxes : ∀ kind name more, d.look (Place.outbox (layout.place d) kind ++ name :: more) = none

/-- The outboxes of a data folder in use: no file stands in their places, and at the place of a
message there is either nothing or the message. -/
structure HasOutboxes (layout : Layout) (d : Disk) : Prop where
  ne_file : ∀ kind content, d.look (Place.outbox (layout.place d) kind) ≠ some (.file content)
  holds : ∀ kind messageId, d.look (Place.spooled (layout.place d) kind messageId) = none ∨
    Holds layout kind messageId d

theorem Holds.keeps {after : Disk} (h : Holds layout kind messageId d) (hkeeps : d.Keeps after)
    (hsame : spooledAt layout kind messageId after = spooledAt layout kind messageId d) :
    Holds layout kind messageId after :=
  ⟨h.validMessage, hkeeps.opens h.opens_draft, hsame ▸ h.isSome⟩

/-- A command leaves nothing else at the place of a message. -/
theorem Turn.holds_or_none {turn : Turn}
    (h : ∀ kind messageId,
      turn.before.disk.look (Place.spooled (layout.place turn.before.disk) kind messageId) = none ∨
        Holds layout kind messageId turn.before.disk) (kind : ChatKind) (messageId : String) :
    (turn.after layout).disk.look
        (Place.spooled (layout.place (turn.after layout).disk) kind messageId) = none ∨
      Holds layout kind messageId (turn.after layout).disk := by
  have hkeeps : turn.before.disk.Keeps (turn.after layout).disk :=
    keeps_of_execute turn.notifications turn.command turn.before
  have hplace := layout.place_of_keeps hkeeps
  have hkept (hlook : (turn.after layout).disk.look
        (Place.spooled (layout.place turn.before.disk) kind messageId) =
      turn.before.disk.look (Place.spooled (layout.place turn.before.disk) kind messageId)) :
      (turn.after layout).disk.look
          (Place.spooled (layout.place (turn.after layout).disk) kind messageId) = none ∨
        Holds layout kind messageId (turn.after layout).disk := by
    rw [← hplace] at hlook
    rcases h kind messageId with hnone | hholds
    · exact .inl (hlook.trans (hplace ▸ hnone))
    · refine .inr (hholds.keeps hkeeps ?_)
      rw [spooledAt, hlook, hplace]
      rfl
  by_cases hdelivers : ∃ kind messageId, turn.Delivers layout kind messageId
  · obtain ⟨kind', messageId', hdelivered⟩ := hdelivers
    obtain ⟨hholds, hothers⟩ := hdelivered.holds
    by_cases hown : kind' = kind ∧ messageId' = messageId
    · obtain ⟨rfl, rfl⟩ := hown
      exact .inr hholds
    · exact hkept (hothers.look_spooled hown)
  · have hnone : ∀ kind messageId, ¬ turn.Delivers layout kind messageId :=
      fun kind messageId h => hdelivers ⟨kind, messageId, h⟩
    exact hkept ((Turn.keepsOutboxes hnone).look_spooled kind messageId)

theorem ClosedSession.hasOutboxes (h : ClosedSession layout first turns d)
    (hempty : IsEmpty layout first) : HasOutboxes layout d := by
  constructor
  · intro kind content hfile
    have hkept := h.run.isKept hempty.fileless
    rw [hkept.place_eq, ← List.append_nil (Place.outbox _ kind)] at hfile
    obtain ⟨spooled, hname, -⟩ := hkept.isOrderly.spooled hfile
    cases hname
  · induction h with
    | start =>
        intro kind messageId
        exact .inl (hempty.outboxes kind (messageId ++ ".toml") [])
    | turn _ turn hdisk ih =>
        subst hdisk
        exact Turn.holds_or_none ih

/-- Where one outbox holds a message under an identifier, both can be read for it. -/
theorem HasOutboxes.read_eq (h : HasOutboxes layout d) (hheld : Holds layout other messageId d)
    (kind : ChatKind) : Outbox.read d (Layout.messageFile (layout.outbox kind) messageId) =
      .ok (spooledAt layout kind messageId d) := by
  have hid := hheld.validMessage
  have hpiece := Identifier.isPiece_of_isValid hid
  have hdraft := hheld.opens_draft
  have husable := Outbox.isUsable_messageFile hid hdraft.usable kind
  have houtboxes := ((Disk.passes_child_iff (Layout.isName_word other)).mp hdraft.passes).1
  cases hfolder : d.look (Place.outbox (layout.place d) kind) with
  | none =>
      have hmissing : d.look (Place.spooled (layout.place d) kind messageId) = none := by
        by_contra hthere
        have hparent := FileTree.look_eq_folder_of_append (List.cons_ne_nil _ _) hthere
        cases hfolder.symm.trans hparent
      rw [Outbox.read_messageFile_of_missing hid houtboxes husable hfolder, spooledAt, hmissing]
      rfl
  | some node =>
      cases node with
      | file content => exact absurd hfolder (h.ne_file kind content)
      | folder =>
          have hword : kind.word.utf8ByteSize ≤ Disk.maxNameLength := by cases kind <;> decide
          have hplace : d.placeOf layout.outboxes ++ [kind.word] =
              Place.outbox (layout.place d) kind := by
            rw [Layout.outboxes, Disk.placeOf_child d _ Layout.isName_outbox]
            rfl
          have hopens : d.Opens (layout.outbox kind) (messageId ++ ".toml") :=
            ⟨husable, (Disk.passes_child_iff (Layout.isName_word kind)).mpr
              ⟨houtboxes, hword, hplace.symm ▸ hfolder⟩, (hdraft.of_draft hpiece).size_le⟩
          rw [Layout.messageFile, Outbox.read_child_eq_ok_iff (Disk.isName_document hpiece) hopens,
            layout.placeOf_outbox]
          refine ⟨rfl, fun hnone => ?_⟩
          rcases h.holds kind messageId with hlook | hholds
          · exact hlook
          · have hsome := hholds.isSome
            rw [hnone] at hsome
            cases hsome

theorem HasOutboxes.find_eq (h : HasOutboxes layout d) (hheld : Holds layout kind messageId d) :
    Outbox.find layout d messageId =
      .ok ((spooledAt layout .direct messageId d).or (spooledAt layout .group messageId d)) :=
  Outbox.find_of_reads hheld.validMessage (h.read_eq hheld .direct) (h.read_eq hheld .group)

theorem HasOutboxes.holds_of_spooledAt (h : HasOutboxes layout d) {spooled : Spooled}
    (hspooled : spooledAt layout kind messageId d = some spooled) :
    Holds layout kind messageId d := by
  rcases h.holds kind messageId with hnone | hholds
  · rw [spooledAt, hnone] at hspooled
    cases hspooled
  · exact hholds

/-! ## One identifier in both outboxes -/

/-- Whether a command put a message into one outbox while the other one held its identifier. -/
def Turn.Doubles (layout : Layout) (turn : Turn) (messageId : String) : Prop :=
  ∃ kind other, kind ≠ other ∧ turn.Delivers layout kind messageId ∧
    (spooledAt layout other messageId turn.before.disk).isSome = true

/-- Whether both outboxes hold an identifier. -/
def IsDoubled (layout : Layout) (messageId : String) (d : Disk) : Prop :=
  ∀ kind, (spooledAt layout kind messageId d).isSome = true

theorem Turn.isDoubled_iff {turn : Turn} :
    IsDoubled layout messageId (turn.after layout).disk ↔
      turn.Doubles layout messageId ∨ IsDoubled layout messageId turn.before.disk := by
  constructor
  · intro hafter
    by_cases hbefore : IsDoubled layout messageId turn.before.disk
    · exact .inr hbefore
    -- One of the outboxes did not hold it before, so it was put there, and not into the other.
    · obtain ⟨kind, hkind⟩ := Classical.not_forall.mp hbefore
      have hdelivered := (Turn.isSome_spooledAt_iff.mp (hafter kind)).resolve_right hkind
      obtain ⟨other, hne⟩ : ∃ other, kind ≠ other := by
        cases kind
        · exact ⟨.group, by decide⟩
        · exact ⟨.direct, by decide⟩
      have hnot : ¬ turn.Delivers layout other messageId :=
        fun hdelivers => hne (hdelivered.eq hdelivers).1
      exact .inl ⟨kind, other, hne, hdelivered,
        (Turn.isSome_spooledAt_iff.mp (hafter other)).resolve_left hnot⟩
  · rintro (⟨kind, other, hne, hdelivered, hother⟩ | hbefore) kind'
    · rw [Turn.isSome_spooledAt_iff]
      by_cases hown : kind' = kind
      · exact .inl (hown ▸ hdelivered)
      · have hsame : kind' = other := by
          cases kind <;> cases other <;> cases kind' <;> simp_all
        exact .inr (hsame ▸ hother)
    · exact Turn.isSome_spooledAt_iff.mpr (.inr (hbefore kind'))

theorem ClosedSession.isDoubled_iff (h : ClosedSession layout first turns d)
    (hempty : IsEmpty layout first) :
    IsDoubled layout messageId d ↔ ∃ turn ∈ turns, turn.Doubles layout messageId := by
  induction h with
  | start =>
      have hnone : spooledAt layout .direct messageId first = none := by
        rw [spooledAt, Place.spooled, hempty.outboxes]
        rfl
      simp only [List.not_mem_nil, false_and, exists_false, iff_false]
      intro hdoubled
      have hdirect := hdoubled .direct
      rw [hnone] at hdirect
      cases hdirect
  | turn _ turn hdisk ih =>
      subst hdisk
      rw [Turn.isDoubled_iff, ih]
      simp [or_comm, or_and_right, exists_or]

/-- In a data folder that was empty at first and is only used by commands, a message in an outbox is
found under its identifier, unless the outbox for direct chats holds another one under it. Both
outboxes hold an identifier exactly if a command put a message into one of them while the other held
it. -/
theorem find_of_session (h : ClosedSession layout first turns d) (hempty : IsEmpty layout first)
    (messageId : String) :
    (∀ kind spooled, spooledAt layout kind messageId d = some spooled →
      (Outbox.find layout d messageId = .ok (some spooled) ↔
        ∀ held, spooledAt layout .direct messageId d = some held → held = spooled)) ∧
    (IsDoubled layout messageId d ↔ ∃ turn ∈ turns, turn.Doubles layout messageId) := by
  have houtboxes := h.hasOutboxes hempty
  refine ⟨?_, h.isDoubled_iff hempty⟩
  intro kind spooled hspooled
  rw [houtboxes.find_eq (houtboxes.holds_of_spooledAt hspooled)]
  cases hdirect : spooledAt layout .direct messageId d with
  | some held => simp
  | none =>
      cases kind with
      | direct => cases hdirect.symm.trans hspooled
      | group => simp [hspooled]

/-- A group is registered after a message was sent to a direct chat. -/
def groupedChat : Except Failure Unit × Host :=
  execute ⟨⟨⟨"/data"⟩⟩, true⟩ (.addChat { chat := "g", name := "G", group := true }) sentMessage.2

/-- A message with the same identifier is sent to the group. -/
def doubledMessage : Except Failure Unit × Host :=
  execute ⟨⟨⟨"/data"⟩⟩, true⟩
    (.send { chat := "g", text := some "standup", messageId := some "m" }) groupedChat.2

/-- The commands up to there. -/
def doublingTurns : List Turn :=
  [{ before := freshHost, command := .addChat { chat := "a", name := "A" } },
    { before := freshChat.2,
      command := .send { chat := "a", text := some "hi", messageId := some "m" } },
    { before := sentMessage.2, command := .addChat { chat := "g", name := "G", group := true } },
    { before := groupedChat.2,
      command := .send { chat := "g", text := some "standup", messageId := some "m" } }]

theorem closedSession_doublingTurns :
    ClosedSession ⟨⟨"/data"⟩⟩ freshHost.disk doublingTurns doubledMessage.2.disk := by
  have hchat := ClosedSession.start.command (show execute ⟨⟨⟨"/data"⟩⟩, true⟩
    (.addChat { chat := "a", name := "A" }) freshHost = freshChat by rw [freshChat])
  have hsent := hchat.command (show execute ⟨⟨⟨"/data"⟩⟩, true⟩
    (.send { chat := "a", text := some "hi", messageId := some "m" }) freshChat.2 = sentMessage by
      rw [sentMessage])
  have hgrouped := hsent.command (show execute ⟨⟨⟨"/data"⟩⟩, true⟩
    (.addChat { chat := "g", name := "G", group := true }) sentMessage.2 = groupedChat by
      rw [groupedChat])
  exact hgrouped.command (by rw [doubledMessage])

theorem isEmpty_freshHost : IsEmpty ⟨⟨"/data"⟩⟩ freshHost.disk := by
  have hplace : Layout.place ⟨⟨"/data"⟩⟩ freshHost.disk = ["data"] := by decide +kernel
  have hfileless : IsFileless ["data"] freshHost.disk.look := by
    apply DataFolder.isFileless_prepare
    rintro _ content ⟨more, rfl⟩ hfile
    cases hfile
  constructor
  · rw [hplace]
    exact hfileless
  · intro kind name more
    rw [hplace]
    have hat : freshHost.disk.root.at? (Place.outbox ["data"] kind) = some (.folder []) := by
      cases kind <;> rfl
    rw [Disk.look, FileTree.look, FileTree.at?_append, hat]
    rfl

/-- Both messages are delivered, the first one to the one chat and the other one to the group. -/
theorem spooledAt_doubledMessage : doubledMessage.1 = .ok () ∧ ∃ direct group,
    spooledAt ⟨⟨"/data"⟩⟩ .direct "m" doubledMessage.2.disk = some direct ∧
    spooledAt ⟨⟨"/data"⟩⟩ .group "m" doubledMessage.2.disk = some group ∧
    direct.message.chatId = "a" ∧ group.message.chatId = "g" := by
  obtain ⟨waiting, -, hmessage, hwaits⟩ := waits_sentMessage
  have hname : waiting.message.messageId = "m" := by rw [hmessage]
  obtain ⟨entry, hentry, -⟩ := hwaits.chat
  obtain ⟨grouped, hgrouped, hready, houtboxes, chat, hchat, hkind⟩ :=
    @kind_of_register ⟨⟨"/data"⟩⟩ _ _ sentMessage.2 { chat := "g", name := "G", group := true }
      hwaits.ready (by decide) (.inl ⟨entry, hentry⟩) true
  have hgroup := hwaits.absent .group (by decide)
  have hdirect := hwaits.spooledAt_eq
  rw [hname] at hready hgroup hdirect
  have hnew : grouped.disk.look
      (Place.spooled (Layout.place ⟨⟨"/data"⟩⟩ grouped.disk) chat.connection.kind "m") = none := by
    rw [hkind, houtboxes.place_eq, houtboxes.look_spooled]
    exact hgroup
  obtain ⟨doubled, hdoubled, -, hothers, ⟨spooled, hspooled, -, hsent⟩, -⟩ :=
    @sends_of_isReady ⟨⟨"/data"⟩⟩ { chatId := "g", messageId := "m", payload := .text "standup" }
      grouped { chat := "g", text := some "standup", messageId := some "m" } _ chat rfl hready hchat
      (by decide) id hnew true
  rw [hkind] at hothers hspooled hsent
  have hsame : doubledMessage = (.ok (), doubled) := by
    rw [doubledMessage, groupedChat, hgrouped, hdoubled]
  rw [hsame]
  refine ⟨rfl, waiting, spooled, ?_, hspooled, by rw [hmessage], by rw [hsent]; rfl⟩
  rw [hothers.spooledAt_eq (by decide), houtboxes.spooledAt_eq]
  exact hdirect

theorem find_of_session_doubled :
    ClosedSession ⟨⟨"/data"⟩⟩ freshHost.disk doublingTurns doubledMessage.2.disk ∧
    IsEmpty ⟨⟨"/data"⟩⟩ freshHost.disk ∧
    (∃ direct, spooledAt ⟨⟨"/data"⟩⟩ .direct "m" doubledMessage.2.disk = some direct ∧
      Outbox.find ⟨⟨"/data"⟩⟩ doubledMessage.2.disk "m" = .ok (some direct)) ∧
    ∃ turn ∈ doublingTurns, turn.Doubles ⟨⟨"/data"⟩⟩ "m" := by
  obtain ⟨-, direct, group, hdirect, hgroup, -, -⟩ := spooledAt_doubledMessage
  obtain ⟨hfind, hdoubled⟩ :=
    find_of_session closedSession_doublingTurns isEmpty_freshHost "m"
  refine ⟨closedSession_doublingTurns, isEmpty_freshHost, ⟨direct, hdirect, ?_⟩, ?_⟩
  · apply (hfind .direct direct hdirect).mpr
    intro held hheld
    exact Option.some.inj (hheld.symm.trans hdirect)
  · apply hdoubled.mp
    intro kind
    cases kind with
    | direct => rw [hdirect]; rfl
    | group => rw [hgroup]; rfl

/-- The message to the group is delivered under an identifier that the other outbox holds, and it is
not found: looking it up gives the other message. -/
theorem find_misses_doubled :
    ClosedSession ⟨⟨"/data"⟩⟩ freshHost.disk doublingTurns doubledMessage.2.disk ∧
    doubledMessage.1 = .ok () ∧
    ∃ group found, spooledAt ⟨⟨"/data"⟩⟩ .group "m" doubledMessage.2.disk = some group ∧
      Outbox.find ⟨⟨"/data"⟩⟩ doubledMessage.2.disk "m" = .ok (some found) ∧ found ≠ group := by
  obtain ⟨hok, direct, group, hdirect, hgroup, ha, hg⟩ := spooledAt_doubledMessage
  have houtboxes := closedSession_doublingTurns.hasOutboxes isEmpty_freshHost
  refine ⟨closedSession_doublingTurns, hok, group, direct, hgroup, ?_, ?_⟩
  · rw [houtboxes.find_eq (houtboxes.holds_of_spooledAt hgroup), hdirect]
    rfl
  · rintro rfl
    exact absurd (ha.symm.trans hg) (by decide)

end Courier.Command
