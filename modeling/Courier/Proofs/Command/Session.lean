import Courier.Proofs.Command.DataFolder
import Courier.Proofs.Command.Ready

/-!
# What a session leaves in the summaries

Commands are carried out one after another. Each comes to at most one message that is exchanged in a
chat, and the summary of a chat follows from the messages that were exchanged in it, in their order.
-/

namespace Courier.Command

open Store (registryIn registryNode)
open Inbox (Outcome)

variable {layout : Layout} {chatId : String} {entry : Registration} {d later : Disk}

/-! ## Turns -/

/-- A command that is carried out on a host. -/
structure Turn where
  before : Host
  notifications : Bool := true
  command : Command

namespace Turn

/-- What the command says. -/
def result (layout : Layout) (turn : Turn) : Except Failure Unit :=
  (execute ⟨layout, turn.notifications⟩ turn.command turn.before).1

/-- The host after the command. -/
def after (layout : Layout) (turn : Turn) : Host :=
  (execute ⟨layout, turn.notifications⟩ turn.command turn.before).2

theorem result_mk (before : Host) (notifications : Bool) (command : Command) :
    result layout ⟨before, notifications, command⟩ =
      (execute ⟨layout, notifications⟩ command before).1 :=
  rfl

theorem after_mk (before : Host) (notifications : Bool) (command : Command) :
    after layout ⟨before, notifications, command⟩ =
      (execute ⟨layout, notifications⟩ command before).2 :=
  rfl

/-- The message that a command sent, by what the command says: it was delivered, or it failed on its
way to an outbox, or it was not sent at all. -/
def sent? (message : Outgoing) (now : Instant) : Except Failure Unit → Option Exchange
  | .ok () => some (.ofOutgoing message true now)
  | .error .undelivered => some (.ofOutgoing message false now)
  | .error _ => none

/-- The message that the command comes to: one that was received and processed, or one that was
sent. -/
def exchange? (layout : Layout) (turn : Turn) : Option Exchange :=
  match receivedBy ⟨layout, turn.notifications⟩ turn.command turn.before with
  | some (message, .ok (.processed _)) => some (.ofInbound message)
  | _ =>
    match routedBy layout turn.command turn.before with
    | some (_, message, start) =>
      sent? message (start.clock (start.clockReadings + 1)) (turn.result layout)
    | none => none

/-- The messages of a chat that the command comes to, at most one. -/
def exchangesOf (layout : Layout) (chatId : String) (turn : Turn) : List Exchange :=
  (turn.exchange? layout).toList.filter fun exchange => exchange.chatId = chatId

/-- Whether the summary was changed if the command came to a delivery: otherwise the log would tell
that the registry could not be written. -/
def EntersOutcome (layout : Layout) (turn : Turn) : Prop :=
  ∀ mode message start, routedBy layout turn.command turn.before = some (mode, message, start) →
    ∀ error, summaryFailedEvent message error ∉
      (turn.after layout).log.drop turn.before.log.length

/-- Whether the entry of a chat is still there, with the summary that follows from the messages. -/
def Enters (layout : Layout) (chatId : String) (entry : Registration) (exchanges : List Exchange)
    (d : Disk) : Prop :=
  ∃ changed, registered layout d chatId = some changed ∧
    changed.connection.summary = exchanges.foldl Exchange.enter entry.connection.summary

end Turn

open Turn (Enters)

/-- Where the registry stays as it was, nothing is entered. -/
theorem enters_nil (h : registered layout d chatId = some entry)
    (hnode : registryNode layout later = registryNode layout d) :
    Enters layout chatId entry [] later := by
  refine ⟨entry, ?_, rfl⟩
  rw [registered_congr hnode]
  exact h

/-- A message is entered into the summary of its chat, and into no other. -/
theorem enters_of_rewrites {known : Registry} {exchange : Exchange}
    (h : registered layout d chatId = some entry)
    (hrewrites : Store.Rewrites layout d known
      (known.applyUpdate exchange.update exchange.fate.change) later) :
    Enters layout chatId entry ([exchange].filter fun exchange => exchange.chatId = chatId)
      later := by
  obtain ⟨hfind, hlater⟩ := registered_of_rewrites h hrewrites
  by_cases hown : exchange.chatId = chatId
  · subst hown
    rw [List.filter_cons_of_pos (by simp), List.filter_nil]
    have hchanged := @Registry.find?_applyUpdate known exchange.update entry hfind
      exchange.fate.change
    exact ⟨_, hlater.trans hchanged, rfl⟩
  · rw [List.filter_cons_of_neg (by simpa using hown), List.filter_nil]
    rw [@Registry.find?_applyUpdate_of_ne _ exchange.update (Ne.symm hown), hfind] at hlater
    exact ⟨entry, hlater, rfl⟩

/-! ## What each command enters -/

/-- What a command does to the registry: nothing, or it registers a chat, or it enters the message
that it comes to. -/
inductive Turn.Alters (layout : Layout) (turn : Turn) : Prop
  | kept (hnode : registryNode layout (turn.after layout).disk =
        registryNode layout turn.before.disk)
      (hnone : turn.EntersOutcome layout → turn.exchange? layout = none)
  | registered {arguments : AddChatArguments} {known : Registry}
      (hcommand : turn.command = .addChat arguments)
      (hrewrites : Store.Rewrites layout turn.before.disk known
        (known.register (describedChat arguments).1 (describedChat arguments).2)
        (turn.after layout).disk)
  /-- Until the message is entered the registry stays, whatever else is done to the disk. -/
  | entered {exchange : Exchange} {held : Disk} {known : Registry}
      (hexchange : turn.exchange? layout = some exchange)
      (hheld : registryNode layout held = registryNode layout turn.before.disk)
      (hrewrites : Store.Rewrites layout held known
        (known.applyUpdate exchange.update exchange.fate.change) (turn.after layout).disk)

/-- A command that routes nothing and receives nothing comes to no message. -/
theorem Turn.exchange?_eq_none {turn : Turn}
    (hrouted : routedBy layout turn.command turn.before = none)
    (hreceived : receivedBy ⟨layout, turn.notifications⟩ turn.command turn.before = none) :
    turn.exchange? layout = none := by
  rw [Turn.exchange?, hreceived, hrouted]

theorem receivedBy_of_routedBy {context : Context} {command : Command} {host start : Host}
    {mode : DeliveryMode} {message : Outgoing}
    (hrouted : routedBy layout command host = some (mode, message, start)) :
    receivedBy context command host = none := by
  cases command with
  | receive p => cases hrouted
  | _ => rfl

theorem Turn.exchange?_of_receivedBy {turn : Turn} {message : Inbound} {notified : Bool}
    (hreceived : receivedBy ⟨layout, turn.notifications⟩ turn.command turn.before =
      some (message, .ok (.processed notified))) :
    turn.exchange? layout = some (.ofInbound message) := by
  rw [Turn.exchange?, hreceived]

theorem Turn.exchange?_of_routedBy {turn : Turn} {mode : DeliveryMode} {message : Outgoing}
    {start : Host}
    (hrouted : routedBy layout turn.command turn.before = some (mode, message, start)) :
    turn.exchange? layout =
      Turn.sent? message (start.clock (start.clockReadings + 1)) (turn.result layout) := by
  rw [Turn.exchange?, receivedBy_of_routedBy hrouted, hrouted]

/-- A command that routes a message enters it if it is sent. -/
theorem Turn.alters_of_routedBy {turn : Turn} {mode : DeliveryMode} {message : Outgoing}
    {start : Host}
    (hrouted : routedBy layout turn.command turn.before = some (mode, message, start)) :
    turn.Alters layout := by
  have hfollows := execute_of_routedBy turn.notifications hrouted
  cases hroute : route layout mode message start with
  | mk result after =>
      have hresult : turn.result layout = result := hfollows.result_eq.trans (by rw [hroute])
      have hdisk : (turn.after layout).disk = after.disk := hfollows.disk_eq.trans (by rw [hroute])
      have hlog : (turn.after layout).log = after.log := hfollows.log_eq.trans (by rw [hroute])
      have hexchange : turn.exchange? layout =
          Turn.sent? message (start.clock (start.clockReadings + 1)) result := by
        rw [Turn.exchange?_of_routedBy hrouted, hresult]
      cases routing_of_route hroute with
      | unknown =>
          refine .kept ?_ fun _ => hexchange
          rw [hdisk]
          exact congrArg (registryNode layout) hfollows.start_disk
      | @entered _ handed answer written _ _ hhanded hentering _ _ hevents =>
          have hheld : registryNode layout handed = registryNode layout turn.before.disk := by
            rw [(leavesStore_of_handOver hhanded).registryNode_eq, hfollows.start_disk]
          simp only [entering, Exchange.summaryUpdate_outgoing] at hentering
          rcases Store.updateSummary_cases hentering with
            ⟨⟨error, rfl⟩, hlocks⟩ | ⟨-, known, -, -, hrewrites⟩
          -- The log would tell of a summary that was left as it was.
          · refine .kept (by rw [hdisk, hlocks.registryNode_eq, hheld]) fun hentered => ?_
            refine absurd ?_ (hentered mode message start hrouted error)
            rw [hlog, ← hfollows.start_log, hevents, List.drop_left]
            simp [enteringEvents]
          · have hsent : Turn.sent? message (start.clock (start.clockReadings + 1))
                (resultOf answer) = some (.ofOutgoing message answer.isOk
                  (start.clock (start.clockReadings + 1))) := by
              cases answer <;> rfl
            rw [← hdisk] at hrewrites
            exact .entered (hexchange.trans hsent) hheld hrewrites

/-- Receiving the message in a file enters it if it is processed. -/
theorem Turn.alters_of_receive (before : Host) (notifications : Bool) (p : Path) :
    Turn.Alters layout ⟨before, notifications, .receive p⟩ := by
  rcases receiveFile_cases layout notifications p before with
    ⟨hreceived, hdisk⟩ | ⟨message, result, read, received, hreceived, hread, hcourse, hdisk⟩
  · exact .kept (congrArg (registryNode layout) hdisk)
      fun _ => Turn.exchange?_eq_none rfl hreceived
  · have hexchange : Turn.exchange? layout ⟨before, notifications, .receive p⟩ =
        if Inbox.isProcessed result then some (.ofInbound message) else none := by
      rw [Turn.exchange?, hreceived]
      match result with
      | .error _ => rfl
      | .ok .duplicate => rfl
      | .ok (.processed _) => rfl
    have hafter : (Turn.after layout ⟨before, notifications, .receive p⟩).disk =
        received.disk := hdisk
    cases hprocessed : Inbox.isProcessed result with
    | false =>
        rw [hprocessed] at hexchange
        refine .kept ?_ fun _ => hexchange
        rw [hafter, hcourse.registryNode_eq hprocessed, hread]
    | true =>
        rw [hprocessed] at hexchange
        cases hcourse with
        | processed hsaves _ hrewrites =>
            rw [Exchange.summaryUpdate_inbound, ← hafter] at hrewrites
            refine .entered hexchange ?_ hrewrites
            rw [hsaves.registryNode_eq, hread]
        | _ => cases hprocessed

/-- Registering a chat changes the registry or leaves it. -/
theorem Turn.alters_of_addChat (before : Host) (notifications : Bool)
    (arguments : AddChatArguments) :
    Turn.Alters layout ⟨before, notifications, .addChat arguments⟩ := by
  cases hregister : Store.register layout before.disk (describedChat arguments).1
      (describedChat arguments).2 with
  | mk after result =>
      have hafter : (Turn.after layout ⟨before, notifications, .addChat arguments⟩).disk = after :=
        (registerChat_disk notifications arguments before).trans (by rw [hregister])
      rcases Store.register_cases hregister with ⟨-, hlocks⟩ | ⟨-, -, known, hrewrites⟩
      · refine .kept ?_ fun _ => Turn.exchange?_eq_none rfl rfl
        rw [hafter]
        exact hlocks.registryNode_eq
      · rw [← hafter] at hrewrites
        exact .registered rfl hrewrites

theorem Turn.alters (turn : Turn) : turn.Alters layout := by
  have hkept {d : Disk} (hdisk : (turn.after layout).disk = d) (hsame : d = turn.before.disk)
      (hnone : turn.exchange? layout = none) : turn.Alters layout :=
    .kept (by rw [hdisk, hsame]) fun _ => hnone
  cases hrouted : routedBy layout turn.command turn.before with
  | some routed => exact Turn.alters_of_routedBy hrouted
  | none =>
      obtain ⟨before, notifications, command⟩ := turn
      cases command with
      | send arguments =>
          exact hkept rfl (sendMessage_disk notifications hrouted)
            (Turn.exchange?_eq_none hrouted rfl)
      | retry messageId =>
          exact hkept rfl (retryMessage_disk notifications hrouted)
            (Turn.exchange?_eq_none hrouted rfl)
      | receive p => exact Turn.alters_of_receive before notifications p
      | chats limit =>
          exact hkept rfl (printChats_disk notifications limit before)
            (Turn.exchange?_eq_none hrouted rfl)
      | addChat arguments => exact Turn.alters_of_addChat before notifications arguments

/-- A chat that is registered again keeps its summary, and so do the other chats. -/
theorem enters_of_register {known : Registry} {connection : Connection} {permissions : Permissions}
    (h : registered layout d chatId = some entry)
    (hrewrites : Store.Rewrites layout d known (known.register connection permissions) later) :
    Enters layout chatId entry [] later := by
  obtain ⟨hfind, hlater⟩ := registered_of_rewrites h hrewrites
  obtain ⟨changed, hchanged, hsummary⟩ := Registry.find?_register hfind connection permissions
  exact ⟨changed, hlater.trans hchanged, hsummary⟩

/-- A command enters the messages that it comes to. -/
theorem Turn.enters {turn : Turn} (hentered : turn.EntersOutcome layout)
    (h : registered layout turn.before.disk chatId = some entry) :
    Enters layout chatId entry (turn.exchangesOf layout chatId) (turn.after layout).disk := by
  rw [Turn.exchangesOf]
  cases turn.alters with
  | kept hnode hnone =>
      rw [hnone hentered]
      exact enters_nil h hnode
  | registered hcommand hrewrites =>
      have hnone : turn.exchange? layout = none := by
        obtain ⟨before, notifications, command⟩ := turn
        cases hcommand
        exact Turn.exchange?_eq_none rfl rfl
      rw [hnone]
      exact enters_of_register h hrewrites
  | entered hexchange hheld hrewrites =>
      rw [hexchange]
      rw [← registered_congr hheld] at h
      exact enters_of_rewrites h hrewrites

/-- Where nothing stands in the way of the lock and the draft of the registry, every outcome is
entered. -/
theorem Turn.entersOutcome_of_admits {turn : Turn}
    (hlock : turn.before.disk.Admits layout.dataFolder "store.lock")
    (hdraft : turn.before.disk.Admits layout.dataFolder "connections.toml.tmp") :
    turn.EntersOutcome layout := by
  intro mode message start hrouted error
  have hfollows := execute_of_routedBy turn.notifications hrouted
  cases hroute : route layout mode message start with
  | mk result after =>
      have hlog : (turn.after layout).log = after.log := hfollows.log_eq.trans (by rw [hroute])
      rw [hlog, ← hfollows.start_log]
      rw [← hfollows.start_disk] at hlock hdraft
      cases routing_of_route hroute with
      | unknown => simp
      | @entered _ handed answer written _ hentry hhanded hentering _ _ hlog =>
          have hleaves := leavesStore_of_handOver hhanded
          obtain ⟨known, -, hknown, hfind⟩ := Store.registration_eq_ok hentry
          rw [← hleaves.registryNode_eq] at hknown
          simp only [entering, Exchange.summaryUpdate_outgoing] at hentering
          obtain ⟨entered, hok⟩ := @Store.updateSummary_of_admits layout handed
            (Exchange.ofOutgoing message answer.isOk
              (start.clock (start.clockReadings + 1))).update _ _
            (hleaves.admits _ (by decide) hlock) (hleaves.admits _ (by decide) hdraft) hknown hfind
            (Exchange.ofOutgoing message answer.isOk
              (start.clock (start.clockReadings + 1))).fate.change
          obtain ⟨-, rfl⟩ := Prod.mk.inj (hok.symm.trans hentering)
          rw [hlog, List.drop_left]
          cases answer <;> simp [handOverEvents, enteringEvents, Delivery.routedEvent,
            Outbox.outcomeEvent, Outbox.event, undeliveredEvent, summaryFailedEvent, event]

/-! ## Sessions -/

/-- The disks after some commands, one after another. Between the commands everything outside of the
data folder may become another: other files, the clock, and the random numbers. -/
inductive Session (layout : Layout) (first : Disk) : List Turn → Disk → Prop
  | start : Session layout first [] first
  | turn {turns : List Turn} {d : Disk} (hsession : Session layout first turns d) (turn : Turn)
      (hfolder : DataFolder.IsSameFolder layout d turn.before.disk) :
      Session layout first (turns ++ [turn]) (turn.after layout).disk

theorem registryNode_of_isSameFolder (h : DataFolder.IsSameFolder layout d later) :
    registryNode layout later = registryNode layout d := by
  rw [Store.registryNode, Store.registryNode, h.place_eq]
  exact h.look_eq _ (List.prefix_append _ _)

theorem Turn.Enters.trans {first second : List Exchange}
    (hfirst : Enters layout chatId entry first d)
    (hsecond : ∀ changed, registered layout d chatId = some changed →
      Enters layout chatId changed second later) :
    Enters layout chatId entry (first ++ second) later := by
  obtain ⟨changed, hchanged, hsummary⟩ := hfirst
  obtain ⟨final, hfinal, hfinalSummary⟩ := hsecond changed hchanged
  refine ⟨final, hfinal, ?_⟩
  rw [hfinalSummary, hsummary, List.foldl_append]

theorem Session.enters {first : Disk} {turns : List Turn} (h : Session layout first turns d)
    (hentered : ∀ turn ∈ turns, turn.EntersOutcome layout)
    (hchat : registered layout first chatId = some entry) :
    Enters layout chatId entry (turns.flatMap (Turn.exchangesOf layout chatId)) d := by
  induction h with
  | start => exact ⟨entry, hchat, rfl⟩
  | @turn turns d _ turn hfolder ih =>
      have hbefore := ih fun other hother => hentered other (List.mem_append_left _ hother)
      have hlast := hentered turn (List.mem_append_right _ List.mem_cons_self)
      rw [List.flatMap_append, List.flatMap_singleton]
      apply hbefore.trans
      intro changed hchanged
      apply Turn.enters hlast
      rw [registered_congr (registryNode_of_isSameFolder hfolder)]
      exact hchanged

/-- The summary of a registered chat follows from the messages that the commands came to in this
chat, in their order, as long as the registry could be written after each delivery. -/
theorem summary_follows_session {first : Disk} {turns : List Turn}
    (h : Session layout first turns d) (hentered : ∀ turn ∈ turns, turn.EntersOutcome layout)
    (hchat : registered layout first chatId = some entry) :
    ∃ changed, registered layout d chatId = some changed ∧
      entry.connection.summary.Follows (turns.flatMap (Turn.exchangesOf layout chatId))
        changed.connection.summary := by
  obtain ⟨changed, hchanged, hsummary⟩ := h.enters hentered hchat
  refine ⟨changed, hchanged, ?_⟩
  rw [hsummary]
  exact follows_foldl_enter _ _

/-! ## A text, its answer and another text -/

/-- A text in a direct chat. -/
def incoming (messageId text : String) : Inbound where
  chatId := "a"
  messageId
  receivedAt := .ofEpoch 0 0
  payload := .text text

/-- The text as it stands in a file. -/
def incomingText (messageId text : String) : String :=
  "chat_id=\"a\"\nmessage_id=\"" ++ messageId ++ "\"\nreceived_at=\"1970-01-01T00:00:00Z\"\n" ++
    "content_type=\"text\"\ndata.text=\"" ++ text ++ "\"\n"

/-- The file of a text, next to the data folder. -/
def incomingFile (messageId : String) : Path :=
  (⟨"/"⟩ : Path).child (messageId ++ ".toml")

/-- A host that knows the chat, with seven unread messages, and has two more in files. -/
def unreadHost : Host where
  disk :=
    { root := .folder
        [("data", .folder
          [("connections.toml", .file ("[[connection]]\nchat_id=\"a\"\nname=\"A\"\n" ++
            "summary.unread_count=7\n").toUTF8),
           ("messages", .folder [("a", .empty)]),
           ("outbox", .folder [("direct", .empty), ("group", .empty)])]),
         ("i.toml", .file (incomingText "i" "hey?").toUTF8),
         ("j.toml", .file (incomingText "j" "ok").toUTF8)]
      current := [] }
  clock _ := .ofEpoch 0 0
  random n := n

/-- The first text is received. -/
def asked : Turn where
  before := unreadHost
  command := .receive (incomingFile "i")

/-- What the text is answered with. -/
def answer : Outgoing where
  chatId := "a"
  messageId := "m"
  payload := .text "hi"

/-- The answer is sent. -/
def answered : Turn where
  before := asked.after ⟨⟨"/data"⟩⟩
  command := .send { chat := "a", text := some "hi", messageId := some "m" }

/-- The second text is received. -/
def thanked : Turn where
  before := answered.after ⟨⟨"/data"⟩⟩
  command := .receive (incomingFile "j")

/-- Whether the chat is there, and nothing stands in the way of the answer. -/
structure IsInUse (host : Host) : Prop where
  ready : IsReady ⟨⟨"/data"⟩⟩ "m" host.disk
  chat : ∃ entry, registered ⟨⟨"/data"⟩⟩ host.disk "a" = some entry ∧
    entry.connection.kind = .direct

/-- Whether nothing stands in the way of receiving a text from its file. -/
structure Awaits (messageId text : String) (host : Host) : Prop where
  receptive : IsReceptive ⟨⟨"/data"⟩⟩ "a" messageId host.disk
  file : HasFile ⟨⟨"/data"⟩⟩ ⟨"/"⟩ (messageId ++ ".toml") (incomingText messageId text) host.disk

variable {host : Host} {messageId text : String} {p : Path} {received : Inbound} {notified : Bool}

/-- It can be computed that nothing stands in the way. -/
theorem Awaits.of_placeOfFile (hid : Identifier.isValid messageId = true)
    (hdraft : (host.disk.placeOfFile ((Layout.chatMessages ⟨⟨"/data"⟩⟩ "a").child
      (messageId ++ ".toml.tmp"))).isOk = true)
    (habsent : host.disk.look
      (Place.message (Layout.place ⟨⟨"/data"⟩⟩ host.disk) "a" messageId) = none)
    (hfile : (host.disk.placeOfFile (incomingFile messageId)).isOk = true)
    (houtside : ¬ Layout.place ⟨⟨"/data"⟩⟩ host.disk <+:
      host.disk.placeOf ⟨"/"⟩ ++ [messageId ++ ".toml"])
    (htext : host.disk.look (host.disk.placeOf ⟨"/"⟩ ++ [messageId ++ ".toml"]) =
      some (.file (incomingText messageId text).toUTF8)) : Awaits messageId text host := by
  have hpiece := Identifier.isPiece_of_isValid hid
  have hadmits := Disk.admits_of_placeOfFile (Disk.isName_document hpiece) hfile
  exact ⟨⟨Disk.admits_of_placeOfFile (Disk.isName_draft hpiece) hdraft, habsent⟩,
    hadmits.toOpens, houtside, htext⟩

theorem Awaits.receivedBy_eq (h : Awaits messageId text host) (hused : IsInUse host)
    (hid : Identifier.isValid messageId = true)
    (hmessage : (Toml.read? (incomingText messageId text)).bind
      (Stored.inbound? (.ofEpoch 0 0)) = some (incoming messageId text))
    (htime : (Toml.read? (incomingText messageId text)).bind (·.get? "received_at") ≠ none) :
    ∃ notified, receivedBy ⟨⟨⟨"/data"⟩⟩, true⟩ (.receive (incomingFile messageId)) host =
      some (incoming messageId text, .ok (.processed notified)) := by
  have hchat : Identifier.isValid "a" = true := by decide
  obtain ⟨entry, hentry, hkind⟩ := hused.chat
  have hname := Disk.isName_document (Identifier.isPiece_of_isValid hid)
  have hread := h.file.readInbound_eq hname hmessage htime
  exact receives_of_isReady hread hused.ready hentry hkind hchat hid id h.receptive true

theorem IsInUse.receive (h : IsInUse host)
    (hreceived : receivedBy ⟨⟨⟨"/data"⟩⟩, true⟩ (.receive p) host =
      some (received, .ok (.processed notified))) :
    IsInUse (execute ⟨⟨⟨"/data"⟩⟩, true⟩ (.receive p) host).2 := by
  obtain ⟨entry, hentry, hkind⟩ := h.chat
  obtain ⟨updated, hupdated, hsame⟩ := kind_of_receivedBy hreceived hentry
  exact ⟨isReady_of_receivedBy hreceived h.ready, updated, hupdated, hsame.trans hkind⟩

theorem Awaits.receive (h : Awaits messageId text host)
    (hreceived : receivedBy ⟨⟨⟨"/data"⟩⟩, true⟩ (.receive p) host =
      some (received, .ok (.processed notified))) (hne : received.messageId ≠ messageId) :
    Awaits messageId text (execute ⟨⟨⟨"/data"⟩⟩, true⟩ (.receive p) host).2 :=
  ⟨h.receptive.receivedBy hreceived (by decide) hne, h.file.execute _ true⟩

theorem Awaits.execute {command : Command} (h : Awaits messageId text host)
    (hcommand : ∀ p, command ≠ .receive p) :
    Awaits messageId text (execute ⟨⟨⟨"/data"⟩⟩, true⟩ command host).2 :=
  ⟨h.receptive.execute (by decide) hcommand true, h.file.execute command true⟩

theorem IsInUse.send {arguments : SendArguments} {start : Host} (h : IsInUse host)
    (hrouted : routedBy ⟨⟨"/data"⟩⟩ (.send arguments) host = some (.send, answer, start))
    (hnew : host.disk.look (Place.spooled (Layout.place ⟨⟨"/data"⟩⟩ host.disk) .direct "m") =
      none) :
    (execute ⟨⟨⟨"/data"⟩⟩, true⟩ (.send arguments) host).1 = .ok () ∧
      IsInUse (execute ⟨⟨⟨"/data"⟩⟩, true⟩ (.send arguments) host).2 := by
  obtain ⟨entry, hentry, hkind⟩ := h.chat
  rw [← hkind] at hnew
  obtain ⟨after, hsent, hready, -, -, updated, hupdated, hsame⟩ :=
    sends_of_isReady hrouted h.ready hentry (by decide) id hnew true
  rw [hsent]
  exact ⟨rfl, hready, updated, hupdated, hsame.trans hkind⟩

theorem registered_unreadHost : ∃ entry,
    registered ⟨⟨"/data"⟩⟩ unreadHost.disk "a" = some entry ∧
      entry.connection.kind = .direct ∧ entry.connection.summary.unreadCount.toNat = 7 := by
  have hfields : ((registered ⟨⟨"/data"⟩⟩ unreadHost.disk "a").map fun entry =>
      (entry.connection.kind, entry.connection.summary.unreadCount.toNat)) =
        some (.direct, 7) := by decide +kernel
  obtain ⟨entry, hentry, hfields⟩ := Option.map_eq_some_iff.mp hfields
  exact ⟨entry, hentry, congrArg Prod.fst hfields, congrArg Prod.snd hfields⟩

theorem isInUse_unreadHost : IsInUse unreadHost := by
  obtain ⟨entry, hentry, hkind, -⟩ := registered_unreadHost
  have hready : IsReady ⟨⟨"/data"⟩⟩ "m" unreadHost.disk :=
    isReady_of_placeOfFile (by decide) (by decide +kernel) (by decide +kernel)
      fun kind => by cases kind <;> decide +kernel
  exact ⟨hready, entry, hentry, hkind⟩

theorem awaits_unreadHost : Awaits "i" "hey?" unreadHost ∧ Awaits "j" "ok" unreadHost := by
  constructor
  · exact .of_placeOfFile (by decide) (by decide +kernel) (by decide +kernel) (by decide +kernel)
      (by decide +kernel) rfl
  · exact .of_placeOfFile (by decide) (by decide +kernel) (by decide +kernel) (by decide +kernel)
      (by decide +kernel) rfl

theorem receivedBy_asked : ∃ notified,
    receivedBy ⟨⟨⟨"/data"⟩⟩, true⟩ (.receive (incomingFile "i")) unreadHost =
      some (incoming "i" "hey?", .ok (.processed notified)) :=
  @Awaits.receivedBy_eq unreadHost "i" "hey?" awaits_unreadHost.1 isInUse_unreadHost
    (by decide) (by decide +kernel) (by decide +kernel)

theorem isInUse_asked : IsInUse (asked.after ⟨⟨"/data"⟩⟩) ∧
    Awaits "j" "ok" (asked.after ⟨⟨"/data"⟩⟩) ∧
    (asked.after ⟨⟨"/data"⟩⟩).disk.look (Place.spooled
      (Layout.place ⟨⟨"/data"⟩⟩ (asked.after ⟨⟨"/data"⟩⟩).disk) .direct "m") = none := by
  obtain ⟨notified, hreceived⟩ := receivedBy_asked
  have houtboxes := keepsOutboxes_of_receivedBy hreceived
  have hnew : unreadHost.disk.look
      (Place.spooled (Layout.place ⟨⟨"/data"⟩⟩ unreadHost.disk) .direct "m") = none := by
    decide +kernel
  rw [asked, Turn.after_mk, houtboxes.place_eq, houtboxes.look_spooled]
  exact ⟨isInUse_unreadHost.receive hreceived,
    awaits_unreadHost.2.receive hreceived (by decide), hnew⟩

theorem routedBy_answered : ∃ start, routedBy ⟨⟨"/data"⟩⟩
    (.send { chat := "a", text := some "hi", messageId := some "m" }) (asked.after ⟨⟨"/data"⟩⟩) =
      some (.send, answer, start) :=
  ⟨_, rfl⟩

theorem result_answered : answered.result ⟨⟨"/data"⟩⟩ = .ok () := by
  obtain ⟨start, hrouted⟩ := routedBy_answered
  obtain ⟨hused, -, hnew⟩ := isInUse_asked
  rw [answered, Turn.result_mk]
  exact (hused.send hrouted hnew).1

theorem isInUse_answered : IsInUse (answered.after ⟨⟨"/data"⟩⟩) ∧
    Awaits "j" "ok" (answered.after ⟨⟨"/data"⟩⟩) := by
  obtain ⟨start, hrouted⟩ := routedBy_answered
  obtain ⟨hused, hawaits, hnew⟩ := isInUse_asked
  rw [answered, Turn.after_mk]
  exact ⟨(hused.send hrouted hnew).2, hawaits.execute (by simp)⟩

theorem receivedBy_thanked : ∃ notified,
    receivedBy ⟨⟨⟨"/data"⟩⟩, true⟩ (.receive (incomingFile "j")) (answered.after ⟨⟨"/data"⟩⟩) =
      some (incoming "j" "ok", .ok (.processed notified)) := by
  obtain ⟨hused, hawaits⟩ := isInUse_answered
  exact hawaits.receivedBy_eq hused (by decide) (by decide +kernel) (by decide +kernel)

/-- The chat exchanged the two texts and the answer. -/
theorem exchangesOf_thanked : ∃ now,
    [asked, answered, thanked].flatMap (Turn.exchangesOf ⟨⟨"/data"⟩⟩ "a") =
      [.ofInbound (incoming "i" "hey?"), .ofOutgoing answer true now,
        .ofInbound (incoming "j" "ok")] := by
  obtain ⟨_, hasked⟩ := receivedBy_asked
  obtain ⟨start, hrouted⟩ := routedBy_answered
  obtain ⟨_, hthanked⟩ := receivedBy_thanked
  refine ⟨start.clock (start.clockReadings + 1), ?_⟩
  have hfirst : asked.exchange? ⟨⟨"/data"⟩⟩ = some (.ofInbound (incoming "i" "hey?")) :=
    Turn.exchange?_of_receivedBy hasked
  have hsecond := @Turn.exchange?_of_routedBy _ answered _ _ _ hrouted
  rw [result_answered] at hsecond
  have hthird : thanked.exchange? ⟨⟨"/data"⟩⟩ = some (.ofInbound (incoming "j" "ok")) :=
    Turn.exchange?_of_receivedBy hthanked
  simp only [List.flatMap_cons, List.flatMap_nil, Turn.exchangesOf, hfirst, hsecond, hthird]
  rfl

theorem summary_follows_session_answered :
    Session ⟨⟨"/data"⟩⟩ unreadHost.disk [asked, answered, thanked]
      (thanked.after ⟨⟨"/data"⟩⟩).disk ∧
    ∃ entry changed, registered ⟨⟨"/data"⟩⟩ unreadHost.disk "a" = some entry ∧
      registered ⟨⟨"/data"⟩⟩ (thanked.after ⟨⟨"/data"⟩⟩).disk "a" = some changed ∧
      entry.connection.summary.unreadCount.toNat = 7 ∧
      changed.connection.summary.unreadCount.toNat = 1 ∧
      changed.connection.summary.text = "ok" ∧
      changed.connection.summary.latestMessageId = some "j" ∧
      changed.connection.summary.readStatus = .latest := by
  have hsame (d : Disk) : DataFolder.IsSameFolder ⟨⟨"/data"⟩⟩ d d := .refl _ _
  have hsession : Session ⟨⟨"/data"⟩⟩ unreadHost.disk [asked, answered, thanked]
      (thanked.after ⟨⟨"/data"⟩⟩).disk :=
    ((Session.start.turn asked (hsame _)).turn answered (hsame _)).turn thanked (hsame _)
  have hreceives {turn : Turn} (p : Path) (hcommand : turn.command = .receive p) :
      turn.EntersOutcome ⟨⟨"/data"⟩⟩ := by
    intro mode message start hrouted
    rw [hcommand] at hrouted
    cases hrouted
  have hentered : ∀ turn ∈ [asked, answered, thanked], turn.EntersOutcome ⟨⟨"/data"⟩⟩ := by
    have hready := isInUse_asked.1.ready
    simp only [List.forall_mem_cons, List.not_mem_nil, false_imp_iff, implies_true, and_true]
    exact ⟨hreceives _ rfl, Turn.entersOutcome_of_admits hready.lock hready.registryDraft,
      hreceives _ rfl⟩
  obtain ⟨entry, hentry, -, hseven⟩ := registered_unreadHost
  obtain ⟨changed, hchanged, hfollows⟩ := summary_follows_session hsession hentered hentry
  refine ⟨hsession, entry, changed, hentry, hchanged, hseven, ?_⟩
  obtain ⟨now, hexchanges⟩ := exchangesOf_thanked
  rw [hexchanges] at hfollows
  have hunread := hfollows.unreadCount_of_delivered [.ofInbound (incoming "i" "hey?")]
    (.ofOutgoing answer true now) [.ofInbound (incoming "j" "ok")] rfl rfl (by decide)
  obtain ⟨htext, -, hlatest, hstatus, -⟩ := hfollows.latest (.ofInbound (incoming "j" "ok")) rfl
  exact ⟨hunread, htext, hlatest, hstatus⟩

end Courier.Command
