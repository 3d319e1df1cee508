import Courier.Command.Execute
import Courier.Proofs.Inbox.Receive
import Courier.Proofs.Store.Outbox
import Courier.Proofs.Text.Lines
import Mathlib.Logic.Relation

/-!
# What commands do to the disk

Receiving the message in a file changes the disk as receiving does. Every other command changes it
in a few ways only, one after another: it makes the lock, rewrites the registry, or puts a message
of a registered chat into an outbox.
-/

namespace Courier.Command

open Delivery (RouteError)
open Inbox (ReceiveError Outcome)

variable {layout : Layout} {α β : Type}

/-- One change of the disk. -/
inductive Change (layout : Layout) (d after : Disk) : Prop
  | locked (h : Store.Locks layout d after)
  | rewritten {known changed : Registry} (hextended : known.IsExtendedBy changed)
      (h : Store.Rewrites layout d known changed after)
  | spooled {kind : ChatKind} {message : Outgoing} {known : Registry}
      (hknown : Store.registryIn (Store.registryNode layout d) = some known)
      (hchat : message.chatId ∈ known.ids) (h : Outbox.Spools layout kind message d after)

/-- Changes one after another. -/
abbrev Changes (layout : Layout) : Disk → Disk → Prop :=
  Relation.ReflTransGen (Change layout)

/-- Whether an action only makes such changes when it starts on a host. -/
def Acts (layout : Layout) (action : StateM Host α) (host : Host) : Prop :=
  Changes layout host.disk (action host).2.disk

theorem Acts.bind {action : StateM Host α} {next : α → StateM Host β} {host : Host}
    (hfirst : Acts layout action host)
    (hnext : Acts layout (next (action host).1) (action host).2) :
    Acts layout (action >>= next) host :=
  hfirst.trans hnext

theorem acts_of_disk_eq {action : StateM Host α} {host : Host}
    (h : (action host).2.disk = host.disk) : Acts layout action host := by
  rw [Acts, h]

theorem acts_pure (a : α) (host : Host) : Acts layout (pure a) host :=
  acts_of_disk_eq rfl

theorem acts_alter {change : Disk → Disk × α} {host : Host}
    (h : Change layout host.disk (change host.disk).1) : Acts layout (Host.alter change) host :=
  Relation.ReflTransGen.single h

theorem acts_record (event : Log.Event) (host : Host) : Acts layout (Host.record event) host :=
  acts_of_disk_eq rfl

theorem acts_print (line : String) (host : Host) : Acts layout (Host.print line) host :=
  acts_of_disk_eq rfl

theorem acts_now (host : Host) : Acts layout Host.now host :=
  acts_of_disk_eq rfl

theorem acts_newId (host : Host) : Acts layout newId host :=
  acts_of_disk_eq rfl

theorem acts_ask (question : Disk → α) (host : Host) : Acts layout (Host.ask question) host :=
  acts_of_disk_eq rfl

theorem acts_report (success : Bool) (host : Host) : Acts layout (Host.report success) host :=
  acts_of_disk_eq rfl

/-! ## The store and the outboxes -/

theorem change_updateSummary (d : Disk) (update : SummaryUpdate) (change : UnreadChange) :
    Change layout d (Store.updateSummary layout d update change).1 := by
  cases hupdate : Store.updateSummary layout d update change with
  | mk after result =>
      rcases Store.updateSummary_cases hupdate with ⟨-, hlocks⟩ | ⟨-, known, -, -, hrewrites⟩
      · exact .locked hlocks
      · exact .rewritten (known.isExtendedBy_applyUpdate update change) hrewrites

theorem change_register (d : Disk) (connection : Connection) (permissions : Permissions) :
    Change layout d (Store.register layout d connection permissions).1 := by
  cases hregister : Store.register layout d connection permissions with
  | mk after result =>
      rcases Store.register_cases hregister with ⟨-, hlocks⟩ | ⟨-, hvalid, known, hrewrites⟩
      · exact .locked hlocks
      · exact .rewritten (known.isExtendedBy_register hvalid permissions) hrewrites

theorem change_put {message : Outgoing} {d : Disk} {entry : Registration}
    (hentry : Store.registration layout d message.chatId = .ok entry) (kind : ChatKind)
    (mode : DeliveryMode) (now : Instant) :
    Change layout d (Outbox.put layout kind mode message now d).1 := by
  obtain ⟨known, -, hknown, hfind⟩ := Store.registration_eq_ok hentry
  have hchat : message.chatId ∈ known.ids := by
    rw [← Registry.find?_ne_none_iff, hfind]
    exact Option.some_ne_none entry
  cases hput : Outbox.put layout kind mode message now d with
  | mk after result =>
      rcases Outbox.put_cases hput with ⟨-, rfl⟩ | ⟨_, -, hhands⟩
      · exact .locked (.refl layout _)
      · exact .spooled hknown hchat hhands.toSpools

/-! ## Sending -/

theorem acts_deliver {message : Outgoing} {host : Host} {entry : Registration}
    (hentry : Store.registration layout host.disk message.chatId = .ok entry) (kind : ChatKind)
    (mode : DeliveryMode) :
    Acts layout (Outbox.deliver layout kind mode message (some Host.report)) host := by
  have hput : Acts layout (Host.alter (Outbox.put layout kind mode message (Host.now host).1))
      (Host.now host).2 := acts_alter (change_put hentry kind mode _)
  unfold Outbox.deliver
  apply Acts.bind (acts_now host)
  apply Acts.bind hput
  apply Acts.bind (acts_record _ _)
  apply Acts.bind (acts_report _ _)
  exact acts_pure _ _

theorem acts_dispatch (mode : DeliveryMode) (message : Outgoing) (host : Host) :
    Acts layout ((Host.router layout).dispatch mode message (some Host.report)) host := by
  unfold Delivery.Router.dispatch
  apply Acts.bind (acts_of_disk_eq rfl)
  have hasked : ((Host.router layout).isGroup message.chatId host).1 =
      Store.isGroup layout host.disk message.chatId := rfl
  rw [hasked, Store.isGroup]
  cases hentry : Store.registration layout host.disk message.chatId with
  | error e => exact acts_pure _ _
  | ok entry =>
      apply Acts.bind (acts_of_disk_eq rfl)
      apply Acts.bind
      · unfold Delivery.Router.path
        split
        · exact acts_deliver hentry .group mode
        · exact acts_deliver hentry .direct mode
      · split <;> exact acts_pure _ _

theorem acts_enterOutcome (message : Outgoing) (success : Bool) (host : Host) :
    Acts layout (enterOutcome layout message success) host := by
  unfold enterOutcome
  apply Acts.bind (acts_now host)
  exact acts_alter (change_updateSummary _ _ _)

theorem acts_route (mode : DeliveryMode) (message : Outgoing) (host : Host) :
    Acts layout (route layout mode message) host := by
  unfold route
  apply Acts.bind (acts_of_disk_eq rfl)
  apply Acts.bind (acts_dispatch mode message _)
  apply Acts.bind (acts_of_disk_eq rfl)
  generalize ((Host.router layout).dispatch mode message (some Host.report) host.forgetReport.2).1 =
    result
  -- What is told in the end changes nothing.
  extract_lets finish
  have hfinish : ∀ host, Acts layout (finish ()) host := by
    intro host
    simp only [finish]
    split
    · exact acts_pure _ _
    · exact acts_pure _ _
    · exact Acts.bind (acts_record _ _) (acts_pure _ _)
  split
  · exact hfinish _
  · apply Acts.bind (acts_enterOutcome message _ _)
    split
    · exact hfinish _
    · exact Acts.bind (acts_record _ _) (hfinish _)

theorem acts_sendMessage (notifications : Bool) (arguments : SendArguments) (host : Host) :
    Acts layout (sendMessage ⟨layout, notifications⟩ arguments) host := by
  unfold sendMessage
  apply Acts.bind (acts_ask _ host)
  apply Acts.bind (acts_newId _)
  split
  · exact acts_pure _ _
  · apply Acts.bind (acts_newId _)
    apply Acts.bind (acts_route .send _ _)
    split
    · exact acts_pure _ _
    · exact Acts.bind (acts_print _ _) (acts_pure _ _)

theorem acts_retryMessage (notifications : Bool) (messageId : String) (host : Host) :
    Acts layout (retryMessage ⟨layout, notifications⟩ messageId) host := by
  unfold retryMessage
  apply Acts.bind (acts_ask _ host)
  split
  · exact acts_pure _ _
  · exact acts_pure _ _
  · apply Acts.bind (acts_route .retry _ _)
    split
    · exact acts_pure _ _
    · exact Acts.bind (acts_print _ _) (acts_pure _ _)

/-! ## The other commands -/

/-- Lines are printed one after another. -/
theorem printLines_eq (listed : List Connection) (host : Host) :
    (listed.forM fun connection => Host.print connection.line : StateM Host Unit) host =
      ((), { host with
        output := host.output ++ Text.printed (listed.map Connection.line) }) := by
  induction listed generalizing host with
  | nil =>
      have hnothing : host.output ++ Text.printed [] = host.output := String.append_empty
      rw [List.map_nil, hnothing]
      rfl
  | cons connection listed ih =>
      have hrest := ih (Host.print connection.line host).2
      rw [List.map_cons, Text.printed_cons, ← String.append_assoc, ← String.append_assoc]
      exact hrest

theorem printChats_of_ok {limit : Nat} {listed : List Connection} {host : Host}
    (hlisted : Listing.ofSource (Store.connections layout host.disk) limit = .ok listed)
    (notifications : Bool) :
    printChats ⟨layout, notifications⟩ limit host =
      (.ok (), { host with
        output := host.output ++ Text.printed (listed.map Connection.line) }) := by
  unfold printChats
  simp only [bind, StateT.bind, Host.ask, hlisted, printLines_eq]
  rfl

theorem printChats_of_error {limit : Nat} {error : ListingError} {host : Host}
    (hlisted : Listing.ofSource (Store.connections layout host.disk) limit = .error error)
    (notifications : Bool) :
    printChats ⟨layout, notifications⟩ limit host = (.error (.listing error), host) := by
  unfold printChats
  simp only [bind, StateT.bind, Host.ask, hlisted]
  rfl

/-- Chats are printed without changing anything. -/
theorem printChats_disk (notifications : Bool) (limit : Nat) (host : Host) :
    (printChats ⟨layout, notifications⟩ limit host).2.disk = host.disk := by
  cases hlisted : Listing.ofSource (Store.connections layout host.disk) limit with
  | error error => rw [printChats_of_error hlisted]
  | ok listed => rw [printChats_of_ok hlisted]

/-- A chat is registered in the registry only. -/
theorem registerChat_disk (notifications : Bool) (arguments : AddChatArguments) (host : Host) :
    (registerChat ⟨layout, notifications⟩ arguments host).2.disk =
      (Store.register layout host.disk (describedChat arguments).1
        (describedChat arguments).2).1 := by
  unfold registerChat
  simp only [bind, StateT.bind, Host.alter]
  cases (Store.register layout host.disk (describedChat arguments).1
    (describedChat arguments).2).2 <;> rfl

theorem acts_printChats (notifications : Bool) (limit : Nat) (host : Host) :
    Acts layout (printChats ⟨layout, notifications⟩ limit) host :=
  acts_of_disk_eq (printChats_disk notifications limit host)

theorem acts_registerChat (notifications : Bool) (arguments : AddChatArguments) (host : Host) :
    Acts layout (registerChat ⟨layout, notifications⟩ arguments) host := by
  rw [Acts, registerChat_disk]
  exact Relation.ReflTransGen.single (change_register _ _ _)

/-- A command receives the message in a file, or it makes changes of the disk one after another. -/
theorem acts_execute (notifications : Bool) (command : Command) (host : Host)
    (hcommand : ∀ p, command ≠ .receive p) :
    Acts layout (execute ⟨layout, notifications⟩ command) host := by
  cases command with
  | send arguments => exact acts_sendMessage notifications arguments host
  | retry messageId => exact acts_retryMessage notifications messageId host
  | receive p => exact absurd rfl (hcommand p)
  | chats limit => exact acts_printChats notifications limit host
  | addChat arguments => exact acts_registerChat notifications arguments host

/-! ## Receiving the message in a file -/

/-- The receive that is run by a command. -/
def receivedBy (context : Context) (command : Command) (host : Host) :
    Option (Inbound × Except ReceiveError Outcome) :=
  match command with
  | .receive p =>
    match readInbound p host with
    | (.ok message, read) =>
      some (message,
        (Inbox.receive (Host.services context.layout context.notifications) message read).1)
    | (.error _, _) => none
  | _ => none

/-- Reading the message in a file takes at most the time. -/
theorem readInbound_host (p : Path) (host : Host) :
    (readInbound p host).2 = host ∨
      (readInbound p host).2 = { host with clockReadings := host.clockReadings + 1 } := by
  unfold readInbound
  cases htext : host.disk.readText p with
  | error e =>
      left
      simp only [bind, StateT.bind, Host.ask, htext]
      rfl
  | ok text =>
      right
      cases hmessage : (Toml.read? text).bind
          (Stored.inbound? (host.clock host.clockReadings)) with
      | none =>
          simp only [bind, StateT.bind, Host.ask, Host.now, htext, hmessage]
          rfl
      | some message =>
          simp only [bind, StateT.bind, Host.ask, Host.now, htext, hmessage]
          rfl

theorem readInbound_disk (p : Path) (host : Host) :
    (readInbound p host).2.disk = host.disk := by
  rcases readInbound_host p host with hsame | htime
  · rw [hsame]
  · rw [htime]

/-- Either no message is found in the file, or it is received. -/
theorem receiveFile_cases (layout : Layout) (notifications : Bool) (p : Path) (host : Host) :
    receivedBy ⟨layout, notifications⟩ (.receive p) host = none ∧
        (receiveFile ⟨layout, notifications⟩ p host).2.disk = host.disk ∨
      ∃ message result read received,
        receivedBy ⟨layout, notifications⟩ (.receive p) host = some (message, result) ∧
        read.disk = host.disk ∧ Inbox.Course layout message read result received ∧
        (receiveFile ⟨layout, notifications⟩ p host).2.disk = received.disk := by
  have hdisk := readInbound_disk p host
  rw [receivedBy, receiveFile]
  simp only [bind, StateT.bind]
  cases hread : readInbound p host with
  | mk answer read =>
      rw [hread] at hdisk
      cases answer with
      | error failure => exact .inl ⟨rfl, hdisk⟩
      | ok message =>
          simp only [StateT.bind]
          cases hreceive : Inbox.receive (Host.services layout notifications) message read with
          | mk result received =>
              refine .inr ⟨message, result, read, received, rfl, hdisk,
                Inbox.course_of_receive hreceive, ?_⟩
              cases result <;> rfl

end Courier.Command
