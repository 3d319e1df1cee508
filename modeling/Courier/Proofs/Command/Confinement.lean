import Courier.Proofs.Command.Execute
import Courier.Proofs.Command.Route
import Courier.Proofs.Inbox.History

/-!
# What commands leave alone

A command writes the registry, the lock, one received message and one message in an outbox, and the
drafts of these; it makes folders on the way to the received message. All other places are as they
were, whatever identifiers are given to a command or found in a file: an identifier that is no safe
name never becomes a part of a place. In the registry only the first entry of the chat changes that
the command is about.
-/

namespace Courier

/-! ## Registries -/

/-- What a command does to a registry: nothing, or it changes the first entry of a chat, or it adds
one for a chat that has none. `subject` is the chat that the command is about. -/
inductive Registry.Follows (known : Registry) (subject : Option String) (adds : Prop) :
    Registry → Prop
  | same : Follows known subject adds known
  | first {chatId : String} {front rest : Registry} {entry changed : Registration}
      (hsubject : subject = some chatId) (hknown : known = front ++ entry :: rest)
      (hfront : ∀ other ∈ front, other.connection.chatId ≠ chatId)
      (hentry : entry.connection.chatId = chatId) (hchanged : changed.connection.chatId = chatId) :
      Follows known subject adds (front ++ changed :: rest)
  | added {entry : Registration} (hadds : adds) (hsubject : subject = some entry.connection.chatId)
      (hnew : entry.connection.chatId ∉ known.ids) : Follows known subject adds (known ++ [entry])

namespace Registry

variable {known : Registry} {adds : Prop}

theorem follows_applyUpdate {update : SummaryUpdate} (hfind : known.find? update.chatId ≠ none)
    (change : UnreadChange) :
    known.Follows (some update.chatId) adds (known.applyUpdate update change) := by
  obtain ⟨entry, hentry⟩ := Option.ne_none_iff_exists'.mp hfind
  obtain ⟨hid, front, rest, rfl, hfront⟩ := find?_eq_some_iff.mp hentry
  rw [applyUpdate_append hfront hid]
  exact .first rfl rfl hfront hid hid

theorem follows_register (hadds : adds) (known : Registry) (connection : Connection)
    (permissions : Permissions) :
    known.Follows (some connection.chatId) adds (known.register connection permissions) := by
  rw [register]
  cases hfind : known.find? connection.chatId with
  | none =>
      refine .added hadds rfl ?_
      rw [← find?_ne_none_iff, hfind]
      exact fun h => h rfl
  | some entry =>
      obtain ⟨hid, front, rest, rfl, hfront⟩ := find?_eq_some_iff.mp hfind
      dsimp only
      rw [modify_append hfront hid]
      exact .first rfl rfl hfront hid hid

end Registry

namespace Command

open Inbox (ReceiveError Outcome)
open Store (Locks Prepares Saves Rewrites)

variable {layout : Layout} {chatId messageId : String} {kind : ChatKind} {d after : Disk}

/-! ## Places -/

/-- The places of the files that a command about a chat and a message writes. -/
def filesOf (root : List String) (chatId messageId : String) (kind : ChatKind) :
    List (List String) :=
  [Place.registry root, Place.registryDraft root, Place.lock root,
    Place.message root chatId messageId, Place.messageDraft root chatId messageId,
    Place.spooled root kind messageId, Place.spooledDraft root kind messageId]

/-- A disk that is another one but for the files of a chat and a message, and for folders made on
the way to the message. -/
structure IsConfined (layout : Layout) (chatId messageId : String) (kind : ChatKind)
    (d after : Disk) : Prop where
  keeps : d.Keeps after
  look_eq : ∀ q ∉ filesOf (layout.place d) chatId messageId kind, after.look q = d.look q ∨
    q ∈ Store.chatFolders (layout.place d) chatId ∧ d.look q = none ∧ after.look q = some .folder

namespace IsConfined

theorem refl (layout : Layout) (chatId messageId : String) (kind : ChatKind) (d : Disk) :
    IsConfined layout chatId messageId kind d d :=
  ⟨.refl d, fun _ _ => .inl rfl⟩

theorem trans {later : Disk} (h : IsConfined layout chatId messageId kind d after)
    (hlater : IsConfined layout chatId messageId kind after later) :
    IsConfined layout chatId messageId kind d later := by
  have hplace := layout.place_of_keeps h.keeps
  refine ⟨h.keeps.trans hlater.keeps, fun q hq => ?_⟩
  rcases hlater.look_eq q (hplace.symm ▸ hq) with hsame | ⟨hfolder, hnone, hmade⟩
  · rw [hsame]
    exact h.look_eq q hq
  · rcases h.look_eq q hq with hbefore | ⟨-, -, hthere⟩
    · exact .inr ⟨hplace ▸ hfolder, hbefore.symm.trans hnone, hmade⟩
    · cases hthere.symm.trans hnone

/-- All other files are as they were. -/
theorem file_iff (h : IsConfined layout chatId messageId kind d after) {q : List String}
    (hq : q ∉ filesOf (layout.place d) chatId messageId kind) (content : ByteArray) :
    after.look q = some (.file content) ↔ d.look q = some (.file content) := by
  rcases h.look_eq q hq with hsame | ⟨-, hnone, hmade⟩
  · rw [hsame]
  · simp [hnone, hmade]

/-- Outside of the data folder everything is as it was. -/
theorem look_outside (h : IsConfined layout chatId messageId kind d after) {q : List String}
    (hq : ¬ layout.place d <+: q) : after.look q = d.look q := by
  have hbelow (name : String) (more : List String) : q ≠ layout.place d ++ name :: more := by
    rintro rfl
    exact hq (List.prefix_append _ _)
  have hfiles : q ∉ filesOf (layout.place d) chatId messageId kind := by
    simp [filesOf, Place.registry, Place.registryDraft, Place.lock, Place.message_eq,
      Place.messageDraft_eq, Place.spooled_eq, Place.spooledDraft_eq, hbelow]
  rcases h.look_eq q hfiles with hsame | ⟨hfolder, -⟩
  · exact hsame
  · simp [Store.chatFolders, Place.messages, Place.chat_eq, hbelow] at hfolder

end IsConfined

/-! ## The steps of a command -/

theorem isConfined_of_locks (h : Locks layout d after) :
    IsConfined layout chatId messageId kind d after := by
  refine ⟨h.keeps, fun q hq => .inl (h.look_of_ne ?_)⟩
  rintro rfl
  simp [filesOf] at hq

theorem isConfined_of_rewrites {known changed : Registry}
    (h : Rewrites layout d known changed after) :
    IsConfined layout chatId messageId kind d after := by
  refine ⟨h.keeps, fun q hq => ?_⟩
  simp only [filesOf, List.mem_cons, not_or] at hq
  exact .inl (h.look_of_ne q hq.2.2.1 hq.2.1 hq.1)

theorem isConfined_of_spools {message : Outgoing} (h : Outbox.Spools layout kind message d after) :
    IsConfined layout chatId message.messageId kind d after := by
  refine ⟨h.keeps, fun q hq => ?_⟩
  simp only [filesOf, List.mem_cons, not_or] at hq
  exact .inl (h.look_of_ne hq.2.2.2.2.2.1 hq.2.2.2.2.2.2.1)

theorem isConfined_of_prepares (h : Prepares layout d chatId after) :
    IsConfined layout chatId messageId kind d after := by
  refine ⟨h.keeps, fun q hq => ?_⟩
  obtain ⟨held, hlocks, hmakes⟩ := h
  have hheld : held.look q = d.look q := by
    apply hlocks.look_of_ne
    rintro rfl
    simp [filesOf] at hq
  rcases hmakes.look_eq q with hsame | ⟨hmem, hnone, hmade⟩
  · exact .inl (hsame.trans hheld)
  · exact .inr ⟨hmem, hheld.symm.trans hnone, hmade⟩

theorem isConfined_of_saves {message : Inbound} (h : Saves layout d message after) :
    IsConfined layout message.chatId message.messageId kind d after := by
  refine ⟨h.keeps, fun q hq => ?_⟩
  simp only [filesOf, List.mem_cons, not_or] at hq
  by_cases hfolder : q ∈ Store.chatFolders (layout.place d) message.chatId
  · exact (h.look_folder q hfolder).imp_right fun hmade => ⟨hfolder, hmade⟩
  · exact .inl (h.look_of_ne q hq.2.2.1 hfolder hq.2.2.2.2.1 hq.2.2.2.1)

theorem isConfined_of_residue {message : Inbound} (hkeeps : d.Keeps after)
    (h : ∀ q, Inbox.Residue (layout.place d) message d.look after.look q) :
    IsConfined layout message.chatId message.messageId kind d after := by
  refine ⟨hkeeps, fun q hq => ?_⟩
  simp only [filesOf, List.mem_cons, not_or] at hq
  cases h q with
  | same hsame => exact .inl hsame
  | lock hlock => exact absurd hlock hq.2.2.1
  | folder hfolder hnone hmade => exact .inr ⟨hfolder, hnone, hmade⟩
  | draft hdraft => exact absurd hdraft hq.2.2.2.2.1

/-- A registry that could be read is followed by one that can be read, which follows it. -/
def FollowsRegistry (layout : Layout) (subject : Option String) (adds : Prop) (d after : Disk) :
    Prop :=
  ∀ known, Store.registryIn (Store.registryNode layout d) = some known →
    ∃ changed, Store.registryIn (Store.registryNode layout after) = some changed ∧
      known.Follows subject adds changed

section

variable {subject : Option String} {adds : Prop}

theorem followsRegistry_of_node_eq
    (h : Store.registryNode layout after = Store.registryNode layout d) :
    FollowsRegistry layout subject adds d after :=
  fun known hknown => ⟨known, h ▸ hknown, .same⟩

theorem followsRegistry_of_rewrites {known changed : Registry}
    (hrewrites : Rewrites layout d known changed after) (h : known.Follows subject adds changed) :
    FollowsRegistry layout subject adds d after := by
  intro found hfound
  refine ⟨changed, hrewrites.registryIn_eq, ?_⟩
  rcases hrewrites.known_eq with hknown | ⟨-, hnone⟩
  · obtain rfl : found = known := Option.some.inj (hfound.symm.trans hknown)
    exact h
  · rw [hnone] at hfound
    cases hfound

theorem FollowsRegistry.of_node_eq {kept : Disk}
    (h : FollowsRegistry layout subject adds kept after)
    (hkept : Store.registryNode layout kept = Store.registryNode layout d) :
    FollowsRegistry layout subject adds d after :=
  fun known hknown => h known (hkept.symm ▸ hknown)

theorem followsRegistry_of_updateSummary {update : SummaryUpdate} {change : UnreadChange}
    {result : Except StoreError Unit}
    (h : Store.updateSummary layout d update change = (after, result)) :
    FollowsRegistry layout (some update.chatId) adds d after := by
  rcases Store.updateSummary_cases h with ⟨-, hlocks⟩ | ⟨-, known, -, hfind, hrewrites⟩
  · exact followsRegistry_of_node_eq hlocks.registryNode_eq
  · exact followsRegistry_of_rewrites hrewrites (Registry.follows_applyUpdate hfind change)

theorem isConfined_of_updateSummary {update : SummaryUpdate} {change : UnreadChange}
    {result : Except StoreError Unit}
    (h : Store.updateSummary layout d update change = (after, result)) :
    IsConfined layout chatId messageId kind d after := by
  rcases Store.updateSummary_cases h with ⟨-, hlocks⟩ | ⟨-, known, -, -, hrewrites⟩
  · exact isConfined_of_locks hlocks
  · exact isConfined_of_rewrites hrewrites

end

/-! ## Commands -/

/-- The chat that a command is about: the one in its arguments, in the message it finds in an
outbox, or in the message it reads. -/
def subject? (layout : Layout) (command : Command) (host : Host) : Option String :=
  match command with
  | .send arguments => some arguments.chat
  | .retry messageId =>
    match Outbox.find layout host.disk messageId with
    | .ok found => found.map (·.message.chatId)
    | .error _ => none
  | .receive p =>
    match (readInbound p host).1 with
    | .ok message => some message.chatId
    | .error _ => none
  | .chats _ => none
  | .addChat arguments => some arguments.chat

/-- What a command does to the disk, besides a chat and a message: the files of these are written,
and the registry follows. -/
structure Writes (layout : Layout) (subject : Option String) (adds : Prop)
    (chatId messageId : String) (kind : ChatKind) (d after : Disk) : Prop where
  validChat : Identifier.isValid chatId = true
  validMessage : Identifier.isValid messageId = true
  confined : IsConfined layout chatId messageId kind d after
  registry : FollowsRegistry layout subject adds d after

section

variable {subject : Option String} {adds : Prop}

/-- Some identifiers will do where no message is written. -/
theorem writes_of_registry (hconfined : ∀ chatId messageId kind,
      IsConfined layout chatId messageId kind d after)
    (hregistry : FollowsRegistry layout subject adds d after) :
    ∃ chatId messageId kind, Writes layout subject adds chatId messageId kind d after :=
  ⟨"a", "a", .direct, by decide, by decide, hconfined _ _ _, hregistry⟩

theorem writes_of_disk_eq (h : after = d) :
    ∃ chatId messageId kind, Writes layout subject adds chatId messageId kind d after := by
  subst h
  exact writes_of_registry (fun _ _ _ => .refl ..) (followsRegistry_of_node_eq rfl)

theorem writes_of_routing {mode : DeliveryMode} {message : Outgoing} {host routed : Host}
    {result : Except Failure Unit} (h : Routing layout mode message host result routed) :
    ∃ chatId messageId kind,
      Writes layout (some message.chatId) adds chatId messageId kind host.disk routed.disk := by
  cases h with
  | unknown => exact writes_of_disk_eq rfl
  | @entered entry handed answer written _ _ hhanded hentering =>
      have hregistry : FollowsRegistry layout (some message.chatId) adds handed routed.disk :=
        followsRegistry_of_updateSummary hentering
      rcases handOver_cases hhanded with ⟨-, rfl⟩ | ⟨attempts, -, hhands⟩
      · exact writes_of_registry (fun _ _ _ => isConfined_of_updateSummary hentering) hregistry
      · refine ⟨"a", message.messageId, entry.connection.kind, by decide, hhands.validMessage,
          ?_, ?_⟩
        · exact (isConfined_of_spools hhands.toSpools).trans
            (isConfined_of_updateSummary hentering)
        · exact hregistry.of_node_eq hhands.registryNode_eq

theorem writes_of_course {message : Inbound} {host received : Host}
    {result : Except ReceiveError Outcome} (hchat : Identifier.isValid message.chatId = true)
    (hmessage : Identifier.isValid message.messageId = true)
    (h : Inbox.Course layout message host result received) :
    ∃ chatId messageId kind,
      Writes layout (some message.chatId) adds chatId messageId kind host.disk received.disk := by
  refine ⟨message.chatId, message.messageId, .direct, hchat, hmessage, ?_, ?_⟩
  · cases h with
    | refused => exact .refl ..
    | duplicate hprepares => exact isConfined_of_prepares hprepares
    | unsaved hprepares => exact isConfined_of_prepares hprepares
    | takenBack _ hsaves hlocks _ _ hdiscards =>
        apply isConfined_of_residue ((hsaves.keeps.trans hlocks.keeps).trans hdiscards.keeps)
        exact Inbox.residue_of_discards hsaves hlocks hdiscards
    | processed hsaves _ hrewrites =>
        exact (isConfined_of_saves hsaves).trans (isConfined_of_rewrites hrewrites)
  · cases hprocessed : Inbox.isProcessed result with
    | false => exact followsRegistry_of_node_eq (h.registryNode_eq hprocessed)
    | true =>
        cases h with
        | processed hsaves hknown hrewrites =>
            obtain ⟨known, hsaved, hfind⟩ := hsaves.known
            rw [hsaves.registryNode_eq, hsaved] at hknown
            obtain rfl := Option.some.inj hknown
            exact (followsRegistry_of_rewrites hrewrites
              (Registry.follows_applyUpdate hfind .increment)).of_node_eq hsaves.registryNode_eq
        | _ => cases hprocessed

/-- A message whose identifiers are no safe names is not received, and nothing is changed. -/
theorem receive_of_not_isValid {message : Inbound} (notifications : Bool) (host : Host)
    (h : ¬ (Identifier.isValid message.chatId = true ∧
      Identifier.isValid message.messageId = true)) :
    (Inbox.receive (Host.services layout notifications) message host).2 = host := by
  have hguard : ∃ error, Store.isReceived layout host.disk message.chatId message.messageId =
      .error error := by
    rw [Store.isReceived]
    cases hpath : Store.messagePath layout message.chatId message.messageId with
    | error error => exact ⟨error, rfl⟩
    | ok p =>
        obtain ⟨hchat, hmessage, -⟩ := Store.messagePath_eq_ok hpath
        exact absurd ⟨hchat, hmessage⟩ h
  obtain ⟨error, hguard⟩ := hguard
  by_cases hregistered : ∃ entry, Store.registration layout host.disk message.chatId = .ok entry ∧
      entry.connection.kind = .direct
  · obtain ⟨entry, hentry, hkind⟩ := hregistered
    rw [Host.services, Inbox.receive_of_registration hentry hkind]
    unfold Inbox.keep
    simp only [bind, StateT.bind, Host.servicesGuardedBy, Host.ask, hguard]
    rfl
  · obtain ⟨refusal, -, hrefused⟩ := @Inbox.receive_of_not_registered layout message notifications
      (fun chatId messageId => Host.ask fun d => Store.isReceived layout d chatId messageId) host
      fun entry hentry hkind => hregistered ⟨entry, hentry, hkind⟩
    rw [Host.services, hrefused]

/-- Receiving the message in a file changes the disk as receiving it does. -/
theorem receiveFile_disk {p : Path} {message : Inbound} {host read : Host} (notifications : Bool)
    (h : readInbound p host = (.ok message, read)) :
    (receiveFile ⟨layout, notifications⟩ p host).2.disk =
      (Inbox.receive (Host.services layout notifications) message read).2.disk := by
  rw [receiveFile]
  simp only [bind, StateT.bind, h]
  cases hreceive : Inbox.receive (Host.services layout notifications) message read with
  | mk result received => cases result <;> rfl

theorem writes_of_receive {p : Path} (notifications : Bool) (host : Host) :
    ∃ chatId messageId kind, Writes layout (subject? layout (.receive p) host) adds
      chatId messageId kind host.disk
      (execute ⟨layout, notifications⟩ (.receive p) host).2.disk := by
  rw [execute, subject?]
  have hdisk := readInbound_disk p host
  cases hread : readInbound p host with
  | mk answer read =>
      rw [hread] at hdisk
      cases answer with
      | error failure =>
          apply writes_of_disk_eq
          rw [receiveFile]
          simp only [bind, StateT.bind, hread]
          exact hdisk
      | ok message =>
          rw [receiveFile_disk notifications hread, ← hdisk]
          by_cases hvalid : Identifier.isValid message.chatId = true ∧
              Identifier.isValid message.messageId = true
          · cases hreceive : Inbox.receive (Host.services layout notifications) message read with
            | mk result received =>
                exact writes_of_course hvalid.1 hvalid.2 (Inbox.course_of_receive hreceive)
          · rw [receive_of_not_isValid notifications read hvalid]
            exact writes_of_disk_eq rfl

theorem writes_of_register {arguments : AddChatArguments} (hadds : adds) (notifications : Bool)
    (host : Host) :
    ∃ chatId messageId kind, Writes layout (some arguments.chat) adds chatId messageId kind
      host.disk (execute ⟨layout, notifications⟩ (.addChat arguments) host).2.disk := by
  rw [execute, registerChat_disk]
  cases hregister : Store.register layout host.disk (describedChat arguments).1
      (describedChat arguments).2 with
  | mk after result =>
      rcases Store.register_cases hregister with ⟨-, hlocks⟩ | ⟨-, -, known, hrewrites⟩
      · exact writes_of_registry (fun _ _ _ => isConfined_of_locks hlocks)
          (followsRegistry_of_node_eq hlocks.registryNode_eq)
      · exact writes_of_registry (fun _ _ _ => isConfined_of_rewrites hrewrites)
          (followsRegistry_of_rewrites hrewrites (Registry.follows_register hadds known
            (describedChat arguments).1 (describedChat arguments).2))

/-- A command that routes a message is about the chat of the message. -/
theorem subject?_of_routedBy {command : Command} {host start : Host} {mode : DeliveryMode}
    {message : Outgoing} (h : routedBy layout command host = some (mode, message, start)) :
    subject? layout command host = some message.chatId := by
  cases command with
  | send arguments =>
      rw [routedBy] at h
      split at h
      · cases h
      · cases h
        rfl
  | retry messageId =>
      rw [routedBy] at h
      rw [subject?]
      split at h
      next found hfind =>
        cases h
        rw [hfind]
        rfl
      next => cases h
  | _ => cases h

theorem writes_of_routedBy {command : Command} {host start : Host} {mode : DeliveryMode}
    {message : Outgoing} (notifications : Bool)
    (h : routedBy layout command host = some (mode, message, start)) :
    ∃ chatId messageId kind, Writes layout (subject? layout command host) adds
      chatId messageId kind host.disk (execute ⟨layout, notifications⟩ command host).2.disk := by
  have hfollows := execute_of_routedBy notifications h
  rw [subject?_of_routedBy h, hfollows.disk_eq, ← hfollows.start_disk]
  exact writes_of_routing (routing_of_route rfl)

/-- Every command writes the files of some chat and message. -/
theorem writes_of_execute (notifications : Bool) (command : Command) (host : Host) :
    ∃ chatId messageId kind, Writes layout (subject? layout command host)
      (∃ arguments, command = .addChat arguments) chatId messageId kind host.disk
      (execute ⟨layout, notifications⟩ command host).2.disk := by
  cases hrouted : routedBy layout command host with
  | some routed => exact writes_of_routedBy notifications hrouted
  | none =>
      cases command with
      | send arguments => exact writes_of_disk_eq (sendMessage_disk notifications hrouted)
      | retry messageId => exact writes_of_disk_eq (retryMessage_disk notifications hrouted)
      | receive p => exact writes_of_receive notifications host
      | chats limit => exact writes_of_disk_eq (printChats_disk notifications limit host)
      | addChat arguments => exact writes_of_register ⟨arguments, rfl⟩ notifications host

theorem keeps_of_execute (notifications : Bool) (command : Command) (host : Host) :
    host.disk.Keeps (execute ⟨layout, notifications⟩ command host).2.disk := by
  obtain ⟨_, _, _, hwrites⟩ := @writes_of_execute layout notifications command host
  exact hwrites.confined.keeps

end

/-- What a command leaves alone, but for the files of a chat and a message with safe names. -/
structure LeavesOthers (layout : Layout) (command : Command) (host after : Host)
    (chatId messageId : String) (kind : ChatKind) : Prop
    extends Writes layout (subject? layout command host) (∃ arguments, command = .addChat arguments)
      chatId messageId kind host.disk after.disk where
  file_iff : ∀ q ∉ filesOf (layout.place host.disk) chatId messageId kind, ∀ content,
    after.disk.look q = some (.file content) ↔ host.disk.look q = some (.file content)
  look_outside : ∀ q, ¬ layout.place host.disk <+: q → after.disk.look q = host.disk.look q
  /-- Printing the chat list changes nothing at all. -/
  chats : ∀ limit, command = .chats limit → after.disk = host.disk

/-- Every command leaves all files alone but the registry, the lock, one received message, one
message in an outbox and the drafts of these, the last four named by identifiers that are safe. If
the registry could be read, then it can be read afterwards, and only the first entry of the chat is
changed that the command is about, or a new one is added. -/
theorem execute_leavesOthers (layout : Layout) (notifications : Bool) (command : Command)
    (host : Host) : ∃ chatId messageId kind, LeavesOthers layout command host
      (execute ⟨layout, notifications⟩ command host).2 chatId messageId kind := by
  obtain ⟨chatId, messageId, kind, h⟩ := writes_of_execute notifications command host
  refine ⟨chatId, messageId, kind, h, ?_, ?_, ?_⟩
  · intro q hq content
    exact h.confined.file_iff hq content
  · intro q hq
    exact h.confined.look_outside hq
  · rintro limit rfl
    exact printChats_disk notifications limit host

end Command

end Courier
