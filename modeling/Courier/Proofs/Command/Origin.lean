import Courier.Proofs.Command.Lookup

/-!
# Where messages come from

In a data folder that held no files at first, whatever is exchanged was composed from the arguments
of a command that sends, or stood in a file that was received. Retrying brings in nothing new: what
waits in an outbox was put there by a command before.
-/

namespace Courier.Command

open DataFolder (IsFileless IsSameFolder)
open Outbox (spooledAt)

variable {layout : Layout} {turn : Turn} {turns : List Turn} {first d : Disk} {chatId : String}
  {payload : Payload}

/-- Whether a command brings a payload into a chat: it is composed from the arguments, or it stands
in the file that is received. -/
inductive Turn.Brings (turn : Turn) : String → Payload → Prop
  | composed {arguments : SendArguments} {payload : Payload}
      (hcommand : turn.command = .send arguments)
      (hpayload : arguments.payload turn.before.disk.currentPath (newId turn.before).1 =
        .ok payload) :
      Turn.Brings turn arguments.chat payload
  | received {p : Path} {message : Inbound} (hcommand : turn.command = .receive p)
      (hread : (readInbound p turn.before).1 = .ok message) :
      Turn.Brings turn message.chatId message.payload

/-- Whether one of some commands brings a payload into a chat. -/
def IsBroughtBy (turns : List Turn) (chatId : String) (payload : Payload) : Prop :=
  ∃ turn ∈ turns, turn.Brings chatId payload

theorem IsBroughtBy.concat (h : IsBroughtBy turns chatId payload) (turn : Turn) :
    IsBroughtBy (turns ++ [turn]) chatId payload := by
  obtain ⟨bringing, hmem, hbrings⟩ := h
  exact ⟨bringing, List.mem_append_left _ hmem, hbrings⟩

theorem Turn.Brings.isBroughtBy (h : turn.Brings chatId payload) (turns : List Turn) :
    IsBroughtBy (turns ++ [turn]) chatId payload :=
  ⟨turn, List.mem_append_right _ List.mem_cons_self, h⟩

/-! ## Outboxes -/

/-- Whether everything in the outboxes comes from the commands. -/
def AreOutboxesFilledBy (layout : Layout) (turns : List Turn) (d : Disk) : Prop :=
  ∀ kind messageId spooled, spooledAt layout kind messageId d = some spooled →
    IsBroughtBy turns spooled.message.chatId spooled.message.payload

/-- A message that is routed was composed, or it waited in an outbox. -/
theorem AreOutboxesFilledBy.routed {mode : DeliveryMode} {message : Outgoing} {start : Host}
    (h : AreOutboxesFilledBy layout turns turn.before.disk)
    (hrouted : routedBy layout turn.command turn.before = some (mode, message, start)) :
    IsBroughtBy (turns ++ [turn]) message.chatId message.payload := by
  cases hcommand : turn.command with
  | send arguments =>
      rw [hcommand, routedBy] at hrouted
      cases hpayload : arguments.payload turn.before.disk.currentPath (newId turn.before).1 with
      | error error =>
          rw [hpayload] at hrouted
          cases hrouted
      | ok payload =>
          rw [hpayload] at hrouted
          cases hrouted
          exact (Turn.Brings.composed hcommand hpayload).isBroughtBy turns
  | retry messageId =>
      rw [hcommand, routedBy] at hrouted
      split at hrouted
      next found hfind =>
        cases hrouted
        obtain ⟨-, kind, hfound⟩ := Outbox.find_eq_some hfind
        exact (h kind messageId found hfound).concat turn
      next => cases hrouted
  | _ =>
      rw [hcommand] at hrouted
      cases hrouted

/-- What a command leaves in the outboxes comes from the commands up to it. -/
theorem AreOutboxesFilledBy.after (h : AreOutboxesFilledBy layout turns turn.before.disk) :
    AreOutboxesFilledBy layout (turns ++ [turn]) (turn.after layout).disk := by
  intro kind messageId spooled hspooled
  have hkept (hsame : spooledAt layout kind messageId (turn.after layout).disk =
      spooledAt layout kind messageId turn.before.disk) :
      IsBroughtBy (turns ++ [turn]) spooled.message.chatId spooled.message.payload :=
    (h kind messageId spooled (hsame.symm.trans hspooled)).concat turn
  by_cases hdelivers : ∃ kind messageId, turn.Delivers layout kind messageId
  · obtain ⟨kind', messageId', hdelivered⟩ := hdelivers
    by_cases hown : kind' = kind ∧ messageId' = messageId
    · obtain ⟨rfl, rfl⟩ := hown
      obtain ⟨mode, message, start, now, attempts, handed, hrouted, rfl, hhands, -, houtboxes⟩ :=
        hdelivered.handsOver
      rw [houtboxes.spooledAt_eq, hhands.spooledAt_eq] at hspooled
      cases hspooled
      -- Preparing a message for an outbox changes neither its chat nor its payload.
      rw [Outbox.prepared_chatId, Outbox.prepared_payload]
      exact h.routed hrouted
    · exact hkept (hdelivered.holds.2.spooledAt_eq hown)
  · have hnone : ∀ kind messageId, ¬ turn.Delivers layout kind messageId :=
      fun kind messageId hdelivered => hdelivers ⟨kind, messageId, hdelivered⟩
    exact hkept ((Turn.keepsOutboxes hnone).spooledAt_eq kind messageId)

theorem AreOutboxesFilledBy.of_isSameFolder {later : Disk} (h : AreOutboxesFilledBy layout turns d)
    (hfolder : IsSameFolder layout d later) : AreOutboxesFilledBy layout turns later := by
  intro kind messageId spooled hspooled
  apply h kind messageId spooled
  have hbelow := Place.spooled_below (layout.place d) kind messageId
  rw [spooledAt, hfolder.place_eq, hfolder.look_eq _ hbelow] at hspooled
  exact hspooled

/-- From a data folder without files on, the outboxes are filled by the commands. -/
theorem Session.areOutboxesFilledBy (hsession : Session layout first turns d)
    (hempty : IsFileless (layout.place first) first.look) : AreOutboxesFilledBy layout turns d := by
  induction hsession with
  | start =>
      intro kind messageId spooled hspooled
      have hbelow := Place.spooled_below (layout.place first) kind messageId
      rw [spooledAt] at hspooled
      cases hnode : first.look (Place.spooled (layout.place first) kind messageId) with
      | none =>
          rw [hnode] at hspooled
          cases hspooled
      | some node =>
          cases node with
          | folder =>
              rw [hnode] at hspooled
              cases hspooled
          | file content => exact absurd hnode (hempty _ content hbelow)
  | turn _ turn hfolder ih => exact (ih.of_isSameFolder hfolder).after

/-! ## Exchanges -/

theorem receivedBy_eq_some {context : Context} {command : Command} {host : Host}
    {message : Inbound} {result : Except Inbox.ReceiveError Inbox.Outcome}
    (h : receivedBy context command host = some (message, result)) :
    ∃ p, command = .receive p ∧ (readInbound p host).1 = .ok message := by
  cases command with
  | receive p =>
      rw [receivedBy] at h
      split at h
      next read hread =>
        cases h
        exact ⟨p, rfl, congrArg Prod.fst hread⟩
      next => cases h
  | _ => cases h

theorem sent?_eq_some {message : Outgoing} {now : Instant} {result : Except Failure Unit}
    {exchange : Exchange} (h : Turn.sent? message now result = some exchange) :
    exchange.chatId = message.chatId ∧ exchange.payload = message.payload := by
  unfold Turn.sent? at h
  split at h <;> cases h <;> exact ⟨rfl, rfl⟩

/-- A message that is exchanged comes from the commands up to the one that comes to it. -/
theorem AreOutboxesFilledBy.exchanged {exchange : Exchange}
    (h : AreOutboxesFilledBy layout turns turn.before.disk)
    (hexchange : turn.exchange? layout = some exchange) :
    IsBroughtBy (turns ++ [turn]) exchange.chatId exchange.payload := by
  rw [Turn.exchange?] at hexchange
  split at hexchange
  next message notified hreceived =>
    cases hexchange
    obtain ⟨p, hcommand, hread⟩ := receivedBy_eq_some hreceived
    exact (Turn.Brings.received hcommand hread).isBroughtBy turns
  next =>
    split at hexchange
    next mode message start hrouted =>
      obtain ⟨hchat, hpayload⟩ := sent?_eq_some hexchange
      rw [hchat, hpayload]
      exact h.routed hrouted
    next => cases hexchange

end Courier.Command
