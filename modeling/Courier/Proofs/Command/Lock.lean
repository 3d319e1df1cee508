import Courier.Command.Execute
import Courier.Proofs.Store.Lock

/-!
# What the lock means to commands

Whether the lock has been made before makes no difference to a command: it gives the same answer,
writes the same things and changes the disk alike. Only receiving a file whose path leads to the
lock or through it can tell, and then it fails in any case.
-/

namespace Courier

/-- A host with another disk. -/
def Host.on (host : Host) (d : Disk) : Host :=
  { host with disk := d }

namespace Command

open Disk (Alike)

variable {layout : Layout} {α β : Type} {host copy : Host}

/-- A host that is another one but for a lock that was made on its disk. -/
structure Matches (layout : Layout) (host copy : Host) : Prop where
  rest_eq : copy = host.on copy.disk
  disks : Store.Matches layout host.disk copy.disk

/-- Whether an action goes on alike on two hosts. -/
structure GoesAlike (layout : Layout) (action : StateM Host α) (host copy : Host) : Prop where
  answer_eq : (action copy).1 = (action host).1
  matched : Matches layout (action host).2 (action copy).2

/-- Whether an action goes on alike with the lock and without. -/
def IgnoresLock (layout : Layout) (action : StateM Host α) : Prop :=
  ∀ host copy : Host, Matches layout host copy → GoesAlike layout action host copy

theorem GoesAlike.bind {action : StateM Host α} {next : α → StateM Host β}
    (hfirst : GoesAlike layout action host copy) (hnext : ∀ a, IgnoresLock layout (next a)) :
    GoesAlike layout (action >>= next) host copy := by
  obtain ⟨hanswer, hmatched⟩ := hnext (action host).1 _ _ hfirst.matched
  rw [← hfirst.answer_eq] at hanswer hmatched
  constructor
  · change (next (action copy).1 (action copy).2).1 = (next (action host).1 (action host).2).1
    rw [hanswer, hfirst.answer_eq]
  · change Matches layout (next (action host).1 (action host).2).2
      (next (action copy).1 (action copy).2).2
    rw [← hfirst.answer_eq]
    exact hmatched

theorem IgnoresLock.bind {action : StateM Host α} {next : α → StateM Host β}
    (hfirst : IgnoresLock layout action) (hnext : ∀ a, IgnoresLock layout (next a)) :
    IgnoresLock layout (action >>= next) :=
  fun host copy h => (hfirst host copy h).bind hnext

/-- An action that leaves the disk alone cannot tell. -/
theorem ignoresLock_of_rest {action : StateM Host α}
    (haction : ∀ (host : Host) (d : Disk),
      action (host.on d) = ((action host).1, (action host).2.on d)) :
    IgnoresLock layout action := by
  intro host copy h
  have hkept : (action host).2.disk = host.disk :=
    congrArg (fun answered => answered.2.disk) (haction host host.disk)
  have hcopy := haction host copy.disk
  rw [← h.rest_eq] at hcopy
  refine ⟨?_, ?_, ?_⟩
  · rw [hcopy]
  · rw [hcopy]
    rfl
  · rw [hcopy, hkept]
    exact h.disks

theorem ignoresLock_pure (a : α) : IgnoresLock layout (pure a) :=
  ignoresLock_of_rest fun _ _ => rfl

theorem ignoresLock_now : IgnoresLock layout Host.now :=
  ignoresLock_of_rest fun _ _ => rfl

theorem ignoresLock_newId : IgnoresLock layout newId :=
  ignoresLock_of_rest fun _ _ => rfl

theorem ignoresLock_record (event : Log.Event) : IgnoresLock layout (Host.record event) :=
  ignoresLock_of_rest fun _ _ => rfl

theorem ignoresLock_print (line : String) : IgnoresLock layout (Host.print line) :=
  ignoresLock_of_rest fun _ _ => rfl

/-- What only asks about what is not the lock cannot tell either. -/
theorem ignoresLock_ask {question : Disk → α}
    (h : ∀ {d copy : Disk}, Store.Matches layout d copy → question copy = question d) :
    IgnoresLock layout (Host.ask question) :=
  fun _ _ hmatched => ⟨h hmatched.disks, hmatched⟩

theorem ignoresLock_alter {change : Disk → Disk × α}
    (h : ∀ {d copy : Disk}, Store.Matches layout d copy →
      Alike (Store.Matches layout) (change d) (change copy)) :
    IgnoresLock layout (Host.alter change) := by
  intro host copy hmatched
  obtain ⟨hanswer, hrelated⟩ := h hmatched.disks
  refine ⟨hanswer, ?_, hrelated⟩
  rw [hmatched.rest_eq]
  rfl

/-! ## Sending -/

theorem ignoresLock_deliver (kind : ChatKind) (mode : DeliveryMode) (message : Outgoing) :
    IgnoresLock layout (Outbox.deliver layout kind mode message (some Host.report)) := by
  unfold Outbox.deliver
  apply ignoresLock_now.bind
  intro now
  apply IgnoresLock.bind
  · apply ignoresLock_alter
    intro d copy h
    exact Outbox.put_of_matches h kind mode message now
  intro result
  apply (ignoresLock_record _).bind
  intro _
  exact ignoresLock_of_rest fun _ _ => rfl

theorem ignoresLock_dispatch (mode : DeliveryMode) (message : Outgoing) :
    IgnoresLock layout ((Host.router layout).dispatch mode message (some Host.report)) := by
  unfold Delivery.Router.dispatch
  have hasked : (Host.router layout).isGroup message.chatId =
      Host.ask fun d => Store.isGroup layout d message.chatId := rfl
  rw [hasked]
  apply IgnoresLock.bind
  · apply ignoresLock_ask
    intro d copy h
    exact h.isGroup_eq message.chatId
  intro asked
  split
  · exact ignoresLock_pure _
  next isGroup =>
    apply (ignoresLock_record _).bind
    intro _
    apply IgnoresLock.bind
    · unfold Delivery.Router.path
      split
      · exact ignoresLock_deliver .group mode message
      · exact ignoresLock_deliver .direct mode message
    · intro result
      split <;> exact ignoresLock_pure _

theorem ignoresLock_enterOutcome (message : Outgoing) (success : Bool) :
    IgnoresLock layout (enterOutcome layout message success) := by
  unfold enterOutcome
  apply ignoresLock_now.bind
  intro now
  apply ignoresLock_alter
  intro d copy h
  exact h.updateSummary _ _

theorem ignoresLock_route (mode : DeliveryMode) (message : Outgoing) :
    IgnoresLock layout (route layout mode message) := by
  unfold route
  apply IgnoresLock.bind (ignoresLock_of_rest fun _ _ => rfl)
  intro _
  apply (ignoresLock_dispatch mode message).bind
  intro result
  apply IgnoresLock.bind (ignoresLock_of_rest fun _ _ => rfl)
  intro reported
  -- What is told in the end does not look at the disk.
  extract_lets finish
  have hfinish : IgnoresLock layout (finish ()) := by
    simp only [finish]
    split
    · exact ignoresLock_pure _
    · exact ignoresLock_pure _
    · exact (ignoresLock_record _).bind fun _ => ignoresLock_pure _
  split
  · exact hfinish
  · apply (ignoresLock_enterOutcome message _).bind
    intro entered
    split
    · exact hfinish
    · exact (ignoresLock_record _).bind fun _ => hfinish

theorem ignoresLock_sendMessage (notifications : Bool) (arguments : SendArguments) :
    IgnoresLock layout (sendMessage ⟨layout, notifications⟩ arguments) := by
  unfold sendMessage
  apply IgnoresLock.bind
  · apply ignoresLock_ask
    intro d copy h
    rw [Disk.currentPath, Disk.currentPath, h.current_eq]
  intro folder
  apply ignoresLock_newId.bind
  intro bundleId
  split
  · exact ignoresLock_pure _
  · apply ignoresLock_newId.bind
    intro freshId
    apply (ignoresLock_route .send _).bind
    intro routed
    split
    · exact ignoresLock_pure _
    · exact (ignoresLock_print _).bind fun _ => ignoresLock_pure _

theorem ignoresLock_retryMessage (notifications : Bool) (messageId : String) :
    IgnoresLock layout (retryMessage ⟨layout, notifications⟩ messageId) := by
  unfold retryMessage
  apply IgnoresLock.bind
  · apply ignoresLock_ask
    intro d copy h
    exact Outbox.find_of_matches h messageId
  intro found
  split
  · exact ignoresLock_pure _
  · exact ignoresLock_pure _
  · apply (ignoresLock_route .retry _).bind
    intro routed
    split
    · exact ignoresLock_pure _
    · exact (ignoresLock_print _).bind fun _ => ignoresLock_pure _

/-! ## Listing and registering -/

theorem ignoresLock_printLines (connections : List Connection) :
    IgnoresLock layout
      (connections.forM fun connection => Host.print connection.line : StateM Host Unit) := by
  induction connections with
  | nil => exact ignoresLock_pure _
  | cons connection connections ih => exact (ignoresLock_print _).bind fun _ => ih

theorem ignoresLock_printChats (notifications : Bool) (limit : Nat) :
    IgnoresLock layout (printChats ⟨layout, notifications⟩ limit) := by
  unfold printChats
  apply IgnoresLock.bind
  · apply ignoresLock_ask
    intro d copy h
    exact h.connections_eq
  intro connections
  split
  · exact ignoresLock_pure _
  · exact (ignoresLock_printLines _).bind fun _ => ignoresLock_pure _

theorem ignoresLock_registerChat (notifications : Bool) (arguments : AddChatArguments) :
    IgnoresLock layout (registerChat ⟨layout, notifications⟩ arguments) := by
  unfold registerChat
  apply IgnoresLock.bind
  · apply ignoresLock_alter
    intro d copy h
    exact h.register _ _
  intro registered
  split
  · exact ignoresLock_pure _
  · exact (ignoresLock_record _).bind fun _ => ignoresLock_pure _

/-! ## Receiving -/

/-- Whether all services of receiving ignore the lock. -/
structure ServicesIgnoreLock (layout : Layout) (services : Inbox.Services Host) : Prop where
  connection (chatId : String) : IgnoresLock layout (services.connection chatId)
  permissions (chatId : String) (kind : ChatKind) :
    IgnoresLock layout (services.permissions chatId kind)
  isReceived (chatId messageId : String) : IgnoresLock layout (services.isReceived chatId messageId)
  save (message : Inbound) : IgnoresLock layout (services.save message)
  update (update : SummaryUpdate) (change : UnreadChange) :
    IgnoresLock layout (services.update update change)
  discard (chatId messageId : String) : IgnoresLock layout (services.discard chatId messageId)
  notify (notice : Inbox.Notice) : IgnoresLock layout (services.notify notice)
  record (event : Log.Event) : IgnoresLock layout (services.record event)

theorem servicesIgnoreLock (layout : Layout) (notifications : Bool) :
    ServicesIgnoreLock layout (Host.services layout notifications) := by
  constructor
  · intro chatId
    change IgnoresLock layout (Host.ask fun d => Store.connection layout d chatId)
    exact ignoresLock_ask fun h => h.connection_eq chatId
  · intro chatId kind
    change IgnoresLock layout (Host.ask fun d => Store.permissions layout d chatId kind)
    exact ignoresLock_ask fun h => h.permissions_eq chatId kind
  · intro chatId messageId
    change IgnoresLock layout (Host.ask fun d => Store.isReceived layout d chatId messageId)
    exact ignoresLock_ask fun h => h.isReceived_eq chatId messageId
  · intro message
    change IgnoresLock layout (Host.alter fun d => Store.saveMessage layout d message)
    exact ignoresLock_alter fun h => h.saveMessage message
  · intro update change
    change IgnoresLock layout (Host.alter fun d => Store.updateSummary layout d update change)
    exact ignoresLock_alter fun h => h.updateSummary update change
  · intro chatId messageId
    change IgnoresLock layout (Host.alter fun d => Store.discardMessage layout d chatId messageId)
    exact ignoresLock_alter fun h => h.discardMessage chatId messageId
  · intro notice
    apply ignoresLock_of_rest
    intro host d
    cases notifications <;> rfl
  · intro event
    exact ignoresLock_record event

section Receiving

variable {services : Inbox.Services Host} (h : ServicesIgnoreLock layout services)
  (message : Inbound)
include h

theorem ServicesIgnoreLock.skip : IgnoresLock layout (Inbox.skip services message) :=
  (h.record _).bind fun _ => ignoresLock_pure _

theorem ServicesIgnoreLock.rollBack (error : StoreError) :
    IgnoresLock layout (Inbox.rollBack services message error) := by
  unfold Inbox.rollBack
  apply (h.discard _ _).bind
  intro discarded
  split
  · exact ignoresLock_pure _
  · exact (h.record _).bind fun _ => ignoresLock_pure _

theorem ServicesIgnoreLock.announce (connection : Connection) (permissions : Permissions) :
    IgnoresLock layout (Inbox.announce services connection permissions message) := by
  unfold Inbox.announce
  apply (h.update _ _).bind
  intro updated
  split
  · exact h.rollBack message _
  · extract_lets finish
    have hfinish : IgnoresLock layout (finish ()) :=
      (h.record _).bind fun _ => ignoresLock_pure _
    split
    · exact (h.notify _).bind fun _ => hfinish
    · exact hfinish

theorem ServicesIgnoreLock.keep (connection : Connection) (permissions : Permissions) :
    IgnoresLock layout (Inbox.keep services connection permissions message) := by
  unfold Inbox.keep
  apply (h.isReceived _ _).bind
  intro received
  split
  · exact ignoresLock_pure _
  · exact h.skip message
  · apply (h.save message).bind
    intro saved
    split
    · exact ignoresLock_pure _
    · exact h.skip message
    · exact h.announce message connection permissions

theorem ServicesIgnoreLock.receive : IgnoresLock layout (Inbox.receive services message) := by
  unfold Inbox.receive
  apply (h.connection _).bind
  intro found
  split
  · exact ignoresLock_pure _
  · split
    · exact ignoresLock_pure _
    · apply (h.permissions _ _).bind
      intro permitted
      split
      · exact ignoresLock_pure _
      · exact h.keep message _ _

end Receiving

/-! ## Receiving the message in a file -/

/-- The message in a file is the same where the way to the file is. -/
theorem goesAlike_readInbound (h : Matches layout host copy) {p : Path}
    (hp : host.disk.AgreesOn p copy.disk) : GoesAlike layout (readInbound p) host copy := by
  unfold readInbound
  apply GoesAlike.bind
  · exact ⟨hp.readText_eq, h⟩
  intro text
  split
  · exact ignoresLock_pure _
  · apply ignoresLock_now.bind
    intro now
    split <;> exact ignoresLock_pure _

theorem goesAlike_receiveFile (h : Matches layout host copy) (notifications : Bool) {p : Path}
    (hp : host.disk.AgreesOn p copy.disk) :
    GoesAlike layout (receiveFile ⟨layout, notifications⟩ p) host copy := by
  unfold receiveFile
  apply (goesAlike_readInbound h hp).bind
  intro read
  split
  · exact ignoresLock_pure _
  · apply ((servicesIgnoreLock layout notifications).receive _).bind
    intro received
    split
    · exact ignoresLock_pure _
    · exact (ignoresLock_print _).bind fun _ => ignoresLock_pure _

/-- An empty file holds no message. -/
theorem inbound?_of_empty (now : Instant) :
    (Toml.read? "").bind (Stored.inbound? now) = none := by
  have hmissing : ((Toml.read? "").bind fun t => t.get? "chat_id").isNone = true := by
    decide +kernel
  cases hread : Toml.read? "" with
  | none => rfl
  | some t =>
      rw [hread, Option.bind_some, Option.isNone_iff_eq_none] at hmissing
      rw [Option.bind_some, Stored.inbound?, hmissing]
      rfl

theorem readInbound_of_not_read {p : Path}
    (h : (∃ error, host.disk.readText p = .error error) ∨ host.disk.readText p = .ok "") :
    ∃ failure, (readInbound p host).1 = .error failure := by
  unfold readInbound
  simp only [bind, StateT.bind, Host.ask]
  rcases h with ⟨error, herror⟩ | hempty
  · exact ⟨.unreadable p error, by rw [herror]; rfl⟩
  · refine ⟨.malformed p, ?_⟩
    simp only [hempty, StateT.bind, Host.now, inbound?_of_empty]
    rfl

end Command

end Courier
