import Courier.Command.Execute
import Courier.Proofs.Inbox.Receive
import Courier.Proofs.Store.Outbox

/-!
# How routing goes

A message of an unknown chat is not routed at all. Any other message is put into the outbox for the
kind of its chat or stays out of it, the callback is told which, and that is entered into the
summary of the chat. The result, the outboxes, the callback and the summary always agree.
-/

namespace Courier.Command

open Delivery (RouteError)

variable {layout : Layout} {mode : DeliveryMode} {message : Outgoing} {host after : Host}
  {entry : Registration} {error : StoreError}

/-! ## Dispatching -/

theorem isGroup_of_registration
    (hentry : Store.registration layout host.disk message.chatId = .ok entry) :
    Store.isGroup layout host.disk message.chatId = .ok (entry.connection.kind = .group) := by
  rw [Store.isGroup, hentry]
  rfl

theorem isGroup_eq_error_iff : Store.isGroup layout host.disk message.chatId = .error error ↔
    Store.registration layout host.disk message.chatId = .error error := by
  rw [Store.isGroup]
  cases Store.registration layout host.disk message.chatId with
  | ok entry => simp [bind, Except.bind, pure, Except.pure]
  | error e => simp [bind, Except.bind]

/-- What comes of putting a message into the outbox of its chat. -/
def handOver (layout : Layout) (entry : Registration) (mode : DeliveryMode) (message : Outgoing)
    (host : Host) : Disk × Except DeliveryError UInt32 :=
  Outbox.put layout entry.connection.kind mode message (host.clock host.clockReadings) host.disk

/-- The events up to the call of the callback. -/
def handOverEvents (entry : Registration) (mode : DeliveryMode) (message : Outgoing)
    (answer : Except DeliveryError UInt32) : List Log.Event :=
  [Delivery.routedEvent mode message (entry.connection.kind = .group),
    Outbox.outcomeEvent entry.connection.kind message answer]

/-- The host when the callback is called. -/
def handedOver (layout : Layout) (entry : Registration) (mode : DeliveryMode) (message : Outgoing)
    (host : Host) : Host :=
  let (disk, answer) := handOver layout entry mode message host
  { host with
    disk
    clockReadings := host.clockReadings + 1
    log := host.log ++ handOverEvents entry mode message answer }

theorem dispatch_of_not_registered
    (h : Store.registration layout host.disk message.chatId = .error error)
    (callback : Option (Delivery.Callback Host)) :
    (Host.router layout).dispatch mode message callback host =
      (.error (.chatLookup error), host) := by
  have hgroup := isGroup_eq_error_iff.mpr h
  unfold Delivery.Router.dispatch
  simp only [bind, StateT.bind, Host.router, Host.ask, hgroup]
  rfl

/-- The callback is called once, at the end, and told whether the message is in the outbox. -/
theorem dispatch_of_registration
    (hentry : Store.registration layout host.disk message.chatId = .ok entry)
    (callback : Delivery.Callback Host) :
    (Host.router layout).dispatch mode message (some callback) host =
      (((handOver layout entry mode message host).2.map fun _ => ()).mapError .delivery,
        (callback (handOver layout entry mode message host).2.isOk
          (handedOver layout entry mode message host)).2) := by
  have hasked : (Host.router layout).isGroup message.chatId host =
      (.ok (entry.connection.kind = .group), host) :=
    congrArg (fun answer => (answer, host)) (isGroup_of_registration hentry)
  have hpath : (Host.router layout).path (decide (entry.connection.kind = .group)) =
      Outbox.deliver layout entry.connection.kind := by
    cases entry.connection.kind <;> rfl
  unfold Delivery.Router.dispatch
  simp only [bind, StateT.bind, hasked, hpath, Outbox.deliver_eq, Outbox.reportTo,
    Outbox.aboutToReport, handedOver, handOver, handOverEvents]
  simp only [Host.router, Host.record, List.append_assoc, List.cons_append, List.nil_append]
  cases (Outbox.put layout entry.connection.kind mode message (host.clock host.clockReadings)
    host.disk).2 <;> rfl

/-! ## Routing -/

/-- What entering an outcome into the summary of the chat leaves on a disk, and whether it worked.
The clock was read once before, when the message was put into its outbox. -/
def entering (layout : Layout) (message : Outgoing) (success : Bool) (host : Host) (d : Disk) :
    Disk × Except StoreError Unit :=
  let (update, change) :=
    Delivery.summaryUpdate message success (host.clock (host.clockReadings + 1))
  Store.updateSummary layout d update change

/-- The events after the call of the callback. -/
def enteringEvents (message : Outgoing) (answer : Except DeliveryError UInt32)
    (written : Except StoreError Unit) : List Log.Event :=
  (match written with
    | .ok () => []
    | .error error => [summaryFailedEvent message error]) ++
  match answer with
    | .ok _ => []
    | .error error => [undeliveredEvent message error]

/-- The result of a command for what came of putting its message into an outbox. -/
def resultOf : Except DeliveryError UInt32 → Except Failure Unit
  | .ok _ => .ok ()
  | .error _ => .error .undelivered

/-- The ways of routing a message. -/
inductive Routing (layout : Layout) (mode : DeliveryMode) (message : Outgoing) (host : Host) :
    Except Failure Unit → Host → Prop
  /-- The chat is not known. -/
  | unknown {error : StoreError}
      (hlookup : Store.registration layout host.disk message.chatId = .error error) :
      Routing layout mode message host (.error (.unknownRecipient message.chatId error))
        { host with delivered := none }
  /-- The message was put into the outbox of its chat or refused there, and then the summary of the
  chat was changed or that failed. -/
  | entered {entry : Registration} {handed : Disk} {answer : Except DeliveryError UInt32}
      {written : Except StoreError Unit} {after : Host}
      (hentry : Store.registration layout host.disk message.chatId = .ok entry)
      (hhanded : handOver layout entry mode message host = (handed, answer))
      (hentering : entering layout message answer.isOk host handed = (after.disk, written))
      (hdelivered : after.delivered = some answer.isOk) (houtput : after.output = host.output)
      (hlog : after.log = host.log ++ (handOverEvents entry mode message answer ++
        enteringEvents message answer written)) :
      Routing layout mode message host (resultOf answer) after

theorem enterOutcome_eq (success : Bool) (host : Host) :
    enterOutcome layout message success host =
      let (update, change) :=
        Delivery.summaryUpdate message success (host.clock host.clockReadings)
      let (disk, written) := Store.updateSummary layout host.disk update change
      (written, { host with disk, clockReadings := host.clockReadings + 1 }) := by
  unfold enterOutcome
  simp only [bind, StateT.bind, Host.now, Host.alter]

/-- A message of an unknown chat is not routed, and nothing is changed. -/
theorem route_of_not_registered
    (h : Store.registration layout host.disk message.chatId = .error error) :
    route layout mode message host =
      (.error (.unknownRecipient message.chatId error), { host with delivered := none }) := by
  have hdispatch := @dispatch_of_not_registered layout mode message
    { host with delivered := none } error h (some Host.report)
  unfold route
  simp only [bind, StateT.bind, Host.forgetReport]
  rw [hdispatch]
  rfl

theorem routing_of_route {result : Except Failure Unit}
    (h : route layout mode message host = (result, after)) :
    Routing layout mode message host result after := by
  cases hentry : Store.registration layout host.disk message.chatId with
  | error error =>
      rw [route_of_not_registered hentry] at h
      cases h
      exact .unknown hentry
  | ok entry =>
      unfold route at h
      simp only [bind, StateT.bind, Host.forgetReport] at h
      have hdispatch := @dispatch_of_registration layout mode message
        { host with delivered := none } entry hentry Host.report
      rw [hdispatch] at h
      cases hhanded : handOver layout entry mode message { host with delivered := none } with
      | mk handed answer =>
          cases hentering : entering layout message answer.isOk host handed with
          | mk entered written =>
              simp only [entering] at hentering
              simp only [handedOver, hhanded, Host.report, Host.reported, enterOutcome_eq,
                StateT.bind, hentering] at h
              cases answer <;> cases written <;> cases h <;>
                exact .entered hentry hhanded hentering rfl rfl (by simp [enteringEvents])

/-! ## What each way leaves -/

variable {handed entered : Disk} {answer : Except DeliveryError UInt32} {success : Bool}
  {written : Except StoreError Unit}

theorem handOver_cases (h : handOver layout entry mode message host = (handed, answer)) :
    (∃ error, answer = .error error) ∧ handed = host.disk ∨
      ∃ attempts, answer = .ok attempts ∧ Outbox.HandsOver layout entry.connection.kind mode
        message (host.clock host.clockReadings) host.disk attempts handed :=
  Outbox.put_cases h

/-- What the summary of a chat is after a message went out. -/
def summaryAfter (message : Outgoing) (success : Bool) (now : Instant) (summary : Summary) :
    Summary where
  text := message.payload.preview
  recentKind := some message.payload.kind
  latestMessageId := some message.messageId
  readStatus := if success then .sent else .failed
  timestamp := some now
  unreadCount := if success then 0 else summary.unreadCount

theorem apply_summaryUpdate (message : Outgoing) (success : Bool) (now : Instant)
    (summary : Summary) :
    summary.apply (Delivery.summaryUpdate message success now).1
      (Delivery.summaryUpdate message success now).2 =
        summaryAfter message success now summary := by
  cases success <;> rfl

/-- Whether a message may have been put into an outbox, with nothing of the store changed. -/
structure LeavesStore (layout : Layout) (d after : Disk) : Prop where
  keeps : d.Keeps after
  registryNode_eq : Store.registryNode layout after = Store.registryNode layout d
  admits : ∀ name, name ≠ "outbox" → d.Admits layout.dataFolder name →
    after.Admits layout.dataFolder name

theorem leavesStore_of_handOver
    (h : handOver layout entry mode message host = (handed, answer)) :
    LeavesStore layout host.disk handed := by
  rcases handOver_cases h with ⟨-, rfl⟩ | ⟨attempts, -, hhands⟩
  · exact ⟨.refl _, rfl, fun _ _ hadmits => hadmits⟩
  · exact ⟨hhands.keeps, hhands.registryNode_eq, fun _ => hhands.admits⟩

/-- Whether the summary of the chat tells of the message, and everything else about the chat is as
it was. -/
def HasSummaryAfter (layout : Layout) (message : Outgoing) (success : Bool) (host after : Host) :
    Prop :=
  ∃ connection, Store.connection layout host.disk message.chatId = .ok connection ∧
    Store.connection layout after.disk message.chatId = .ok { connection with
      summary := summaryAfter message success (host.clock (host.clockReadings + 1))
        connection.summary }

/-- What becomes of the summary of the chat. -/
structure Summarizes (layout : Layout) (message : Outgoing) (success : Bool) (host after : Host) :
    Prop where
  /-- The outcome is entered, or the log tells that it could not be. -/
  entered_or_told : HasSummaryAfter layout message success host after ∨
    Store.registryNode layout after.disk = Store.registryNode layout host.disk ∧
      ∃ error, summaryFailedEvent message error ∈ after.log
  /-- It is entered if nothing stands in the way of the lock and the draft of the registry. -/
  entered_of_admits : host.disk.Admits layout.dataFolder "store.lock" →
    host.disk.Admits layout.dataFolder "connections.toml.tmp" →
      HasSummaryAfter layout message success host after

theorem summarizes_of_entering
    (hentry : Store.registration layout host.disk message.chatId = .ok entry)
    (hleaves : LeavesStore layout host.disk handed)
    (hentering : entering layout message success host handed = (after.disk, written))
    (htold : ∀ error, written = .error error → summaryFailedEvent message error ∈ after.log) :
    Summarizes layout message success host after := by
  obtain ⟨known, hopens, hknown, hfind⟩ := Store.registration_eq_ok hentry
  have hhanded : Store.registryIn (Store.registryNode layout handed) = some known := by
    rw [hleaves.registryNode_eq]
    exact hknown
  rcases Store.updateSummary_cases hentering with
    ⟨⟨error, rfl⟩, hlocks⟩ | ⟨-, known', hknown', -, hrewrites⟩
  · constructor
    · exact .inr ⟨hlocks.registryNode_eq.trans hleaves.registryNode_eq, error, htold error rfl⟩
    -- With nothing in the way the registry would have been rewritten.
    · intro hlock hdraft
      obtain ⟨written, hok⟩ := @Store.updateSummary_of_admits layout handed
        (Delivery.summaryUpdate message success (host.clock (host.clockReadings + 1))).1 known entry
        (hleaves.admits _ (by decide) hlock) (hleaves.admits _ (by decide) hdraft) hhanded hfind
        (Delivery.summaryUpdate message success (host.clock (host.clockReadings + 1))).2
      cases hok.symm.trans hentering
  · obtain rfl : known = known' := Option.some.inj (hhanded.symm.trans hknown')
    have hsummary : HasSummaryAfter layout message success host after := by
      have hopensAfter := (hleaves.keeps.trans hrewrites.keeps).opens hopens
      refine ⟨entry.connection, Inbox.connection_of_registryIn hopens hknown hfind, ?_⟩
      rw [← apply_summaryUpdate]
      exact Inbox.connection_of_registryIn hopensAfter hrewrites.registryIn_eq
        (Registry.find?_applyUpdate hfind _)
    exact ⟨.inl hsummary, fun _ _ => hsummary⟩

/-! ## Endings -/

/-- Whether a delivery reports these outcomes one after another, whatever callback it is given: the
callback is called for each of them, and never besides. -/
def Reports (layout : Layout) (mode : DeliveryMode) (message : Outgoing) (host : Host)
    (outcomes : List Bool) : Prop :=
  ∃ result told, ∀ callback : Delivery.Callback Host,
    (Host.router layout).dispatch mode message (some callback) host =
      (result, (outcomes.forM callback told).2)

theorem reports_of_handOver
    (hentry : Store.registration layout host.disk message.chatId = .ok entry)
    (h : handOver layout entry mode message host = (handed, answer)) :
    Reports layout mode message host [answer.isOk] := by
  refine ⟨(answer.map fun _ => ()).mapError .delivery, handedOver layout entry mode message host,
    fun callback => ?_⟩
  rw [dispatch_of_registration hentry, h]
  rfl

/-- How routing a message ends. -/
inductive Ending
  | unknown
  | delivered
  | undelivered

namespace Ending

variable {result : Except Failure Unit}

/-- The chat is not known: nothing is delivered, and nothing is changed. -/
structure IsUnknown (layout : Layout) (mode : DeliveryMode) (message : Outgoing) (host : Host)
    (result : Except Failure Unit) (after : Host) : Prop where
  result_eq : ∃ error, Store.isGroup layout host.disk message.chatId = .error error ∧
    result = .error (.unknownRecipient message.chatId error)
  reports : Reports layout mode message host []
  disk_eq : after.disk = host.disk

/-- The outbox for the kind of its chat had no reason to refuse the message. The message is there,
and nothing else there is changed but that no draft of it is left. -/
structure IsDelivered (layout : Layout) (mode : DeliveryMode) (message : Outgoing) (host : Host)
    (result : Except Failure Unit) (after : Host) : Prop where
  result_eq : result = .ok ()
  reports : Reports layout mode message host [true]
  spooled : ∃ connection spooled,
    Store.connection layout host.disk message.chatId = .ok connection ∧
    (∀ error, ¬ Outbox.Refuses layout connection.kind mode message (host.clock host.clockReadings)
      host.disk error) ∧
    Outbox.read after.disk
      (Layout.messageFile (layout.outbox connection.kind) message.messageId) = .ok (some spooled) ∧
    spooled.message = Outbox.prepared connection.kind message ∧
    Outbox.KeepsOthers layout connection.kind message.messageId host.disk after.disk
  summarizes : Summarizes layout message true host after

/-- The outbox for the kind of its chat had a reason to refuse the message, which the log tells, and
the outboxes are as they were. -/
structure IsUndelivered (layout : Layout) (mode : DeliveryMode) (message : Outgoing) (host : Host)
    (result : Except Failure Unit) (after : Host) : Prop where
  result_eq : ∃ failure, result = .error failure ∧
    failure.message = "Network error in sending message"
  refused : ∃ connection error,
    Store.connection layout host.disk message.chatId = .ok connection ∧
    Outbox.Refuses layout connection.kind mode message (host.clock host.clockReadings) host.disk
      error ∧
    undeliveredEvent message error ∈ after.log
  reports : Reports layout mode message host [false]
  keepsOutboxes : Outbox.KeepsOutboxes layout host.disk after.disk
  summarizes : Summarizes layout message false host after

/-- What an ending says. -/
def Describes : Ending → Layout → DeliveryMode → Outgoing → Host → Except Failure Unit → Host → Prop
  | unknown => IsUnknown
  | delivered => IsDelivered
  | undelivered => IsUndelivered

/-- The ending that a result tells of. -/
def ofResult : Except Failure Unit → Ending
  | .ok () => delivered
  | .error (.unknownRecipient _ _) => unknown
  | .error _ => undelivered

/-- The result of a command tells how it ended. -/
theorem eq_ofResult {ending : Ending} (h : ending.Describes layout mode message host result after) :
    ending = ofResult result := by
  cases ending with
  | unknown =>
      obtain ⟨error, -, rfl⟩ := IsUnknown.result_eq h
      rfl
  | delivered =>
      obtain rfl := IsDelivered.result_eq h
      rfl
  | undelivered =>
      obtain ⟨failure, rfl, hmessage⟩ := IsUndelivered.result_eq h
      cases failure with
      | unknownRecipient chatId error =>
          have hfirst : ("cannot send to chat " ++ chatId).toList.head? =
              "Network error in sending message".toList.head? :=
            congrArg (fun text : String => text.toList.head?) hmessage
          simp at hfirst
      | _ => rfl

end Ending

theorem keepsOutboxes_of_entering
    (h : entering layout message success host handed = (entered, written)) :
    Outbox.KeepsOutboxes layout handed entered := by
  rcases Store.updateSummary_cases h with ⟨-, hlocks⟩ | ⟨-, _, -, -, hrewrites⟩
  · exact Outbox.keepsOutboxes_of_locks hlocks
  · exact Outbox.keepsOutboxes_of_rewrites hrewrites

theorem keeps_of_entering (h : entering layout message success host handed = (entered, written)) :
    handed.Keeps entered := by
  rcases Store.updateSummary_cases h with ⟨-, hlocks⟩ | ⟨-, _, -, -, hrewrites⟩
  · exact hlocks.keeps
  · exact hrewrites.keeps

/-- A message that was handed over is found in the outbox, also after the summary was changed. -/
theorem read_of_handsOver {kind : ChatKind} {now : Instant} {d : Disk} {attempts : UInt32}
    (hhands : Outbox.HandsOver layout kind mode message now d attempts handed)
    (hentering : entering layout message success host handed = (entered, written)) :
    Outbox.read entered (Layout.messageFile (layout.outbox kind) message.messageId) =
      .ok (some { attempts, spooledAt := now, message := Outbox.prepared kind message }) := by
  have hpiece := Identifier.isPiece_of_isValid hhands.validMessage
  have hkeeps := hhands.keeps.trans (keeps_of_entering hentering)
  apply (Outbox.read_messageFile_eq_some_iff hpiece).mpr
  refine ⟨hkeeps.opens (hhands.opens_draft.of_draft hpiece), ?_⟩
  rw [(keepsOutboxes_of_entering hentering).spooledAt_eq]
  exact hhands.spooledAt_eq

/-- Routing a message ends in exactly one of three ways, and result, outboxes, callback and summary
agree on which. Which one it is follows from what the disk holds: whether the chat is registered,
and whether the outbox has a reason to refuse the message. -/
theorem route_existsUnique_ending (layout : Layout) (mode : DeliveryMode) (message : Outgoing)
    (host : Host) : ∃! ending : Ending, ending.Describes layout mode message host
      (route layout mode message host).1 (route layout mode message host).2 := by
  cases hroute : route layout mode message host with
  | mk result after =>
      suffices hends : ∃ ending : Ending, ending.Describes layout mode message host result after by
        obtain ⟨ending, hending⟩ := hends
        refine ⟨ending, hending, ?_⟩
        intro other hother
        rw [Ending.eq_ofResult hother, Ending.eq_ofResult hending]
      cases routing_of_route hroute with
      | @unknown error hlookup =>
          refine ⟨.unknown, ⟨error, isGroup_eq_error_iff.mpr hlookup, rfl⟩, ?_, rfl⟩
          exact ⟨_, _, fun callback => dispatch_of_not_registered hlookup (some callback)⟩
      | @entered entry handed answer written _ hentry hhanded hentering _ _ hlog =>
          have hreports := reports_of_handOver hentry hhanded
          have hsummarizes := summarizes_of_entering hentry (leavesStore_of_handOver hhanded)
            hentering (by
              rintro error rfl
              simp [hlog, enteringEvents])
          have hkeeps := keepsOutboxes_of_entering hentering
          have hconnection : Store.connection layout host.disk message.chatId =
              .ok entry.connection := by
            rw [Store.connection, hentry]
            rfl
          rcases handOver_cases hhanded with ⟨⟨error, rfl⟩, rfl⟩ | ⟨attempts, rfl, hhands⟩
          · have hrefused := Outbox.put_eq_error_iff.mp (congrArg Prod.snd hhanded)
            refine ⟨.undelivered, ⟨_, rfl, rfl⟩, ?_, hreports, hkeeps, hsummarizes⟩
            exact ⟨entry.connection, error, hconnection, hrefused, by simp [hlog, enteringEvents]⟩
          · have haccepted : ∀ error, ¬ Outbox.Refuses layout entry.connection.kind mode message
                (host.clock host.clockReadings) host.disk error := by
              intro error hrefused
              cases (Outbox.put_of_refuses hrefused).symm.trans (congrArg Prod.snd hhanded)
            refine ⟨.delivered, rfl, hreports, ?_, hsummarizes⟩
            exact ⟨entry.connection, _, hconnection, haccepted,
              read_of_handsOver hhands hentering, rfl, hhands.keepsOthers.trans hkeeps⟩

/-! ## Commands that route -/

variable {command : Command} {start : Host}

/-- The routing that a command comes to, if it does: how, of which message, and on which host. -/
def routedBy (layout : Layout) (command : Command) (host : Host) :
    Option (DeliveryMode × Outgoing × Host) :=
  match command with
  | .send arguments =>
    match arguments.payload host.disk.currentPath (newId host).1 with
    | .error _ => none
    | .ok payload =>
      some (.send,
        { chatId := arguments.chat
          messageId := arguments.messageId.getD (newId (newId host).2).1
          replyId := arguments.replyTo
          singleRecipient := arguments.recipient
          payload },
        (newId (newId host).2).2)
  | .retry messageId =>
    match Outbox.find layout host.disk messageId with
    | .ok (some spooled) => some (.retry, spooled.message, host)
    | _ => none
  | _ => none

/-- A command that ends as routing does. -/
structure FollowsRouting (layout : Layout) (mode : DeliveryMode) (message : Outgoing)
    (host start : Host) (result : Except Failure Unit) (after : Host) : Prop where
  start_disk : start.disk = host.disk
  start_log : start.log = host.log
  result_eq : result = (route layout mode message start).1
  disk_eq : after.disk = (route layout mode message start).2.disk
  log_eq : after.log = (route layout mode message start).2.log

/-- Routes a message and prints a line if that worked, as sending and retrying do. -/
def routeAndPrint (layout : Layout) (mode : DeliveryMode) (message : Outgoing) (line : String) :
    StateM Host (Except Failure Unit) := do
  match ← route layout mode message with
  | .error failure => return .error failure
  | .ok () =>
    Host.print line
    return .ok ()

theorem followsRouting_of_print (line : String) (hdisk : start.disk = host.disk)
    (hlog : start.log = host.log) :
    FollowsRouting layout mode message host start
      (routeAndPrint layout mode message line start).1
      (routeAndPrint layout mode message line start).2 := by
  unfold routeAndPrint
  simp only [bind, StateT.bind]
  cases hroute : route layout mode message start with
  | mk result after =>
      cases result <;>
        exact ⟨hdisk, hlog, by rw [hroute]; rfl, by rw [hroute]; rfl, by rw [hroute]; rfl⟩

theorem routeAndPrint_eq_ok {line : String}
    (h : routeAndPrint layout mode message line host = (.ok (), after)) :
    ∃ routed, route layout mode message host = (.ok (), routed) ∧ after.disk = routed.disk ∧
      after.output = routed.output ++ line ++ "\n" := by
  unfold routeAndPrint at h
  simp only [bind, StateT.bind] at h
  cases hroute : route layout mode message host with
  | mk result routed =>
      rw [hroute] at h
      cases result with
      | error failure => cases h
      | ok _ =>
          cases h
          exact ⟨routed, rfl, rfl, rfl⟩

theorem routeAndPrint_of_not_registered {line : String}
    (h : Store.registration layout host.disk message.chatId = .error error) :
    routeAndPrint layout mode message line host =
      (.error (.unknownRecipient message.chatId error), { host with delivered := none }) := by
  unfold routeAndPrint
  simp only [bind, StateT.bind]
  rw [route_of_not_registered h]
  rfl

theorem execute_retry_of_find {messageId : String} {found : Spooled} (notifications : Bool)
    (h : Outbox.find layout host.disk messageId = .ok (some found)) :
    execute ⟨layout, notifications⟩ (.retry messageId) host =
      routeAndPrint layout .retry found.message
        (attemptLine found.message.messageId (found.attempts + 1)) host := by
  rw [execute]
  unfold retryMessage
  simp only [bind, StateT.bind, Host.ask, h]
  rfl

theorem execute_send_of_routedBy {arguments : SendArguments} (notifications : Bool)
    (h : routedBy layout (.send arguments) host = some (mode, message, start)) :
    mode = .send ∧ start = (newId (newId host).2).2 ∧
      execute ⟨layout, notifications⟩ (.send arguments) host =
        routeAndPrint layout .send message message.messageId start := by
  rw [routedBy] at h
  rw [execute]
  unfold sendMessage
  simp only [bind, StateT.bind, Host.ask]
  cases hpayload : arguments.payload host.disk.currentPath (newId host).1 with
  | error e =>
      rw [hpayload] at h
      cases h
  | ok payload =>
      rw [hpayload] at h
      cases h
      have hdrawn : newId host = ((newId host).1, (newId host).2) := rfl
      refine ⟨rfl, rfl, ?_⟩
      rw [hdrawn]
      simp only [hpayload]
      rfl

theorem execute_of_routedBy (notifications : Bool)
    (h : routedBy layout command host = some (mode, message, start)) :
    FollowsRouting layout mode message host start
      (execute ⟨layout, notifications⟩ command host).1
      (execute ⟨layout, notifications⟩ command host).2 := by
  cases command with
  | send arguments =>
      obtain ⟨rfl, rfl, hsend⟩ := execute_send_of_routedBy notifications h
      rw [hsend]
      exact followsRouting_of_print _ rfl rfl
  | retry messageId =>
      rw [routedBy] at h
      match hfind : Outbox.find layout host.disk messageId with
      | .error e =>
          rw [hfind] at h
          cases h
      | .ok none =>
          rw [hfind] at h
          cases h
      | .ok (some spooled) =>
          rw [hfind] at h
          cases h
          rw [execute_retry_of_find notifications hfind]
          exact followsRouting_of_print _ rfl rfl
  | _ => cases h

/-- A message that is not composed is not sent. -/
theorem sendMessage_of_not_routed (notifications : Bool) {arguments : SendArguments}
    (h : routedBy layout (.send arguments) host = none) :
    ∃ error, sendMessage ⟨layout, notifications⟩ arguments host =
      (.error (.compose error), (newId host).2) := by
  rw [routedBy] at h
  unfold sendMessage
  simp only [bind, StateT.bind, Host.ask]
  cases hpayload : arguments.payload host.disk.currentPath (newId host).1 with
  | error e =>
      have hdrawn : newId host = ((newId host).1, (newId host).2) := rfl
      refine ⟨e, ?_⟩
      rw [hdrawn]
      simp only [hpayload]
      rfl
  | ok payload =>
      rw [hpayload] at h
      cases h

theorem sendMessage_disk (notifications : Bool) {arguments : SendArguments}
    (h : routedBy layout (.send arguments) host = none) :
    (sendMessage ⟨layout, notifications⟩ arguments host).2.disk = host.disk := by
  obtain ⟨error, hsend⟩ := sendMessage_of_not_routed notifications h
  rw [hsend]
  rfl

/-- A message that is not found in an outbox is not handed over again. -/
theorem retryMessage_of_not_routed (notifications : Bool) {messageId : String}
    (h : routedBy layout (.retry messageId) host = none) :
    ∃ failure, retryMessage ⟨layout, notifications⟩ messageId host = (.error failure, host) := by
  rw [routedBy] at h
  unfold retryMessage
  simp only [bind, StateT.bind, Host.ask]
  cases hfind : Outbox.find layout host.disk messageId with
  | error e => exact ⟨.outbox e, rfl⟩
  | ok found =>
      cases found with
      | none => exact ⟨.notSpooled messageId, rfl⟩
      | some spooled =>
          rw [hfind] at h
          cases h

theorem retryMessage_disk (notifications : Bool) {messageId : String}
    (h : routedBy layout (.retry messageId) host = none) :
    (retryMessage ⟨layout, notifications⟩ messageId host).2.disk = host.disk := by
  obtain ⟨failure, hretry⟩ := retryMessage_of_not_routed notifications h
  rw [hretry]

end Courier.Command
