import Courier.Proofs.Inbox.Answer
import Courier.Proofs.Store.Refusal
import Courier.Proofs.Stored.Document

/-!
# Why a receive fails

What a later step of a receive looks up was looked up before, and a message that was read from a
file can be written to one. So the later steps fail for nothing but a file that cannot be used, and
a saved message can always be taken back.
-/

namespace Courier

open Inbox (Notice Outcome ReceiveError receive)
open Store (Saves registry registration)

variable {layout : Layout} {message : Inbound} {notifications : Bool} {host after : Host}
  {result : Except ReceiveError Outcome} {d : Disk}

/-! ## Identifiers -/

/-- Whether both identifiers of a message are accepted. -/
def Inbound.HasValidIds (message : Inbound) : Prop :=
  Identifier.isValid message.chatId = true ∧ Identifier.isValid message.messageId = true

/-- Whether a message was received before is told of those that have valid identifiers. -/
theorem Store.isReceived_of_hasValidIds (h : message.HasValidIds) :
    ∃ received, Store.isReceived layout d message.chatId message.messageId = .ok received := by
  rw [isReceived, messagePath_of_isValid h.1 h.2]
  exact ⟨_, rfl⟩

theorem Store.isReceived_of_not_hasValidIds (h : ¬ message.HasValidIds) :
    ∃ id ∈ [message.chatId, message.messageId], Identifier.isValid id = false ∧
      Store.isReceived layout d message.chatId message.messageId = .error (.invalidId id) := by
  by_cases hchat : Identifier.isValid message.chatId = true
  · have hmessage : ¬ Identifier.isValid message.messageId = true := fun hmessage =>
      h ⟨hchat, hmessage⟩
    refine ⟨message.messageId, by simp, Bool.eq_false_iff.mpr hmessage, ?_⟩
    rw [isReceived, messagePath, checkId, if_pos hchat, checkId, if_neg hmessage]
    rfl
  · refine ⟨message.chatId, by simp, Bool.eq_false_iff.mpr hchat, ?_⟩
    rw [isReceived, messagePath, checkId, if_neg hchat]
    rfl

namespace Inbox

/-! ## The steps after the lookups -/

/-- Whether a failure is one that receiving a message of a known chat may end in. -/
inductive IsLateFailure (message : Inbound) : ReceiveError → Prop
  | guard {id : String} (hmem : id ∈ [message.chatId, message.messageId])
      (hinvalid : Identifier.isValid id = false) : IsLateFailure message (.guard (.invalidId id))
  | persist {error : StoreError} (hvalid : message.HasValidIds)
      (hunavailable : error.IsUnavailable) : IsLateFailure message (.persist error)
  | connectionUpdate {error : StoreError} (hvalid : message.HasValidIds)
      (hunavailable : error.IsUnavailable) : IsLateFailure message (.connectionUpdate error)

theorem isUnavailable_of_saves {saved : Disk} (hsaves : Saves layout d message saved)
    {updated : Disk} {error : StoreError}
    (h : Store.updateSummary layout saved (summaryUpdate message) .increment =
      (updated, .error error)) : error.IsUnavailable := by
  obtain ⟨known, hknown, hfind⟩ := hsaves.known
  have hread : registry layout saved = .ok known := by
    apply Store.registry_of_registryIn (hsaves.keeps.opens hsaves.opensRegistry)
    rw [hsaves.registryNode_eq]
    exact hknown
  exact Store.updateSummary_eq_error hread hfind h

theorem kept_eq_error {entry : Registration} {t : Toml.Table}
    (hentry : registration layout d message.chatId = .ok entry)
    (htable : Stored.inboundTable message = .ok t) {permissions : Permissions}
    {error : ReceiveError} (h : kept layout message permissions d = .error error) :
    IsLateFailure message error := by
  unfold kept at h
  by_cases hvalid : message.HasValidIds
  · obtain ⟨received, hreceived⟩ := @Store.isReceived_of_hasValidIds layout message d hvalid
    rw [hreceived] at h
    cases received with
    | true => cases h
    | false =>
        dsimp only at h
        cases hsave : Store.saveMessage layout d message with
        | mk saved reply =>
            rw [hsave] at h
            cases reply with
            | error failure =>
                cases h
                exact .persist hvalid (Store.saveMessage_eq_error hentry
                  (Store.messagePath_of_isValid hvalid.1 hvalid.2) htable hsave)
            | ok isNew =>
                cases isNew with
                | false => cases h
                | true =>
                    obtain ⟨-, hsaves⟩ :=
                      (Store.saveMessage_cases hsave).resolve_left fun h => h.1 rfl
                    dsimp only at h
                    cases hupdate : Store.updateSummary layout saved (summaryUpdate message)
                        .increment with
                    | mk updated reply =>
                        rw [hupdate] at h
                        cases reply with
                        | ok done => cases h
                        | error failure =>
                            cases h
                            exact .connectionUpdate hvalid
                              (isUnavailable_of_saves hsaves hupdate)
  · obtain ⟨id, hmem, hinvalid, hreceived⟩ :=
      @Store.isReceived_of_not_hasValidIds layout message d hvalid
    rw [hreceived] at h
    cases h
    exact .guard hmem hinvalid

/-! ## The log -/

/-- Whether an event tells that a saved message could not be taken back. -/
def IsRollbackFailure (event : Log.Event) : Prop :=
  ("code", .text "RECEIVE_ROLLBACK_FAILED") ∈ event.details

/-- Whether a host has logged nothing more but events that tell of no failed rollback. -/
def LogsNoRollbackFailure (host after : Host) : Prop :=
  ∃ events, after.log = host.log ++ events ∧ ∀ event ∈ events, ¬ IsRollbackFailure event

theorem LogsNoRollbackFailure.of_log_eq (h : after.log = host.log) :
    LogsNoRollbackFailure host after :=
  ⟨[], by rw [h, List.append_nil], List.forall_mem_nil _⟩

theorem LogsNoRollbackFailure.trans {between : Host} (hfirst : LogsNoRollbackFailure host between)
    (hsecond : LogsNoRollbackFailure between after) : LogsNoRollbackFailure host after := by
  obtain ⟨events, hlog, hevents⟩ := hfirst
  obtain ⟨later, hlogLater, hlater⟩ := hsecond
  refine ⟨events ++ later, ?_, List.forall_mem_append.mpr ⟨hevents, hlater⟩⟩
  rw [hlogLater, hlog, List.append_assoc]

theorem logsNoRollbackFailure_record {event : Log.Event} (h : ¬ IsRollbackFailure event)
    (host : Host) : LogsNoRollbackFailure host (Host.record event host).2 :=
  ⟨[event], rfl, by simpa using h⟩

theorem not_isRollbackFailure_duplicateEvent (message : Inbound) :
    ¬ IsRollbackFailure (duplicateEvent message) := by
  simp [IsRollbackFailure, duplicateEvent, event]

theorem not_isRollbackFailure_processedEvent (message : Inbound) (notified : Bool) :
    ¬ IsRollbackFailure (processedEvent message notified) := by
  simp [IsRollbackFailure, processedEvent, event]

theorem logsNoRollbackFailure_notify (enabled : Bool) (notice : Notice) (host : Host) :
    LogsNoRollbackFailure host (Host.notify enabled notice host).2 := by
  cases enabled with
  | false => exact ⟨[_], rfl, by simp [IsRollbackFailure, Console.event]⟩
  | true => exact ⟨[_], rfl, by simp [IsRollbackFailure, Console.event]⟩

/-- A message that was saved can be taken back, so no rollback fails. -/
theorem logsNoRollbackFailure_announce {connection : Connection} {permissions : Permissions}
    {saved : Disk} (hsaves : Saves layout host.disk message saved)
    (h : announce (Host.services layout notifications) connection permissions message
      { host with disk := saved } = (result, after)) : LogsNoRollbackFailure host after := by
  cases hupdate : Store.updateSummary layout saved (summaryUpdate message) .increment with
  | mk updated reply =>
      cases reply with
      | error error =>
          rcases Store.updateSummary_cases hupdate with ⟨-, hlocks⟩ | ⟨⟨⟩, -⟩
          obtain ⟨disk, hdiscard, -⟩ := discardMessage_of_saves hsaves hlocks
          unfold announce rollBack at h
          simp only [bind, StateT.bind, Host.services, Host.servicesGuardedBy, Host.alter,
            hupdate] at h
          rw [hdiscard] at h
          cases h
          exact .of_log_eq rfl
      | ok done =>
          unfold announce at h
          simp only [bind, StateT.bind, Host.services, Host.servicesGuardedBy, Host.alter,
            hupdate] at h
          have hprocessed := not_isRollbackFailure_processedEvent message permissions.notifications
          have hupdated : LogsNoRollbackFailure host { host with disk := updated } :=
            .of_log_eq rfl
          cases hallowed : permissions.notifications with
          | false =>
              simp only [hallowed] at h hprocessed
              cases h
              exact hupdated.trans (logsNoRollbackFailure_record hprocessed _)
          | true =>
              simp only [hallowed] at h hprocessed
              cases h
              exact (hupdated.trans (logsNoRollbackFailure_notify _ _ _)).trans
                (logsNoRollbackFailure_record hprocessed _)

theorem logsNoRollbackFailure_skip
    (h : skip (Host.services layout notifications) message host = (result, after)) :
    LogsNoRollbackFailure host after := by
  cases h
  exact logsNoRollbackFailure_record (not_isRollbackFailure_duplicateEvent message) host

theorem logsNoRollbackFailure_keep {connection : Connection} {permissions : Permissions}
    (h : keep (Host.services layout notifications) connection permissions message host =
      (result, after)) : LogsNoRollbackFailure host after := by
  unfold keep at h
  simp only [bind, StateT.bind, Host.services, Host.servicesGuardedBy, Host.ask] at h
  cases hreceived : Store.isReceived layout host.disk message.chatId message.messageId with
  | error error =>
      simp only [hreceived] at h
      cases h
      exact .of_log_eq rfl
  | ok received =>
      cases received with
      | true =>
          simp only [hreceived] at h
          exact logsNoRollbackFailure_skip h
      | false =>
          cases hsave : Store.saveMessage layout host.disk message with
          | mk saved reply =>
              simp only [hreceived, StateT.bind, Host.alter, hsave] at h
              have hsaved : LogsNoRollbackFailure host { host with disk := saved } :=
                .of_log_eq rfl
              cases reply with
              | error error =>
                  cases h
                  exact hsaved
              | ok isNew =>
                  cases isNew with
                  | false => exact hsaved.trans (logsNoRollbackFailure_skip h)
                  | true =>
                      obtain ⟨-, hsaves⟩ :=
                        (Store.saveMessage_cases hsave).resolve_left fun h => h.1 rfl
                      exact logsNoRollbackFailure_announce hsaves h

/-- No rollback fails, whatever message is received. -/
theorem logsNoRollbackFailure_receive
    (h : receive (Host.services layout notifications) message host = (result, after)) :
    LogsNoRollbackFailure host after := by
  by_cases hregistered : ∃ entry, registration layout host.disk message.chatId = .ok entry ∧
      entry.connection.kind = .direct
  · obtain ⟨entry, hentry, hkind⟩ := hregistered
    rw [Host.services, receive_of_registration hentry hkind] at h
    exact logsNoRollbackFailure_keep h
  · rw [Host.services] at h
    obtain ⟨error, -, hrefused⟩ := @receive_of_not_registered layout message notifications _ host
      fun entry hentry hkind => hregistered ⟨entry, hentry, hkind⟩
    rw [hrefused] at h
    cases h
    exact .of_log_eq rfl

/-! ## The answer -/

/-- What a failure to receive may be, and when it may be. -/
structure IsExplained (layout : Layout) (message : Inbound) (d : Disk)
    (result : Except ReceiveError Outcome) : Prop where
  permissions : ∀ error, result ≠ .error (.permissions error)
  guard_iff : (∃ error, result = .error (.guard error)) ↔
    (∃ entry, registration layout d message.chatId = .ok entry ∧
      entry.connection.kind = .direct) ∧ ¬ message.HasValidIds
  guard : ∀ error, result = .error (.guard error) → ∃ id ∈ [message.chatId, message.messageId],
    Identifier.isValid id = false ∧ error = .invalidId id
  persist : ∀ error, result = .error (.persist error) → error.IsUnavailable
  connectionUpdate : ∀ error, result = .error (.connectionUpdate error) → error.IsUnavailable

theorem kept_of_not_hasValidIds (hvalid : ¬ message.HasValidIds) (permissions : Permissions) :
    ∃ error, kept layout message permissions d = .error (.guard error) := by
  obtain ⟨id, -, -, hreceived⟩ := @Store.isReceived_of_not_hasValidIds layout message d hvalid
  exact ⟨.invalidId id, by rw [kept, hreceived]⟩

theorem not_hasValidIds_of_mem {id : String} (hmem : id ∈ [message.chatId, message.messageId])
    (hinvalid : Identifier.isValid id = false) : ¬ message.HasValidIds := by
  rintro ⟨hchat, hmessage⟩
  rcases List.mem_cons.mp hmem with rfl | hlast
  · exact absurd hchat (Bool.eq_false_iff.mp hinvalid)
  · rw [List.mem_singleton.mp hlast] at hinvalid
    exact absurd hmessage (Bool.eq_false_iff.mp hinvalid)

/-- The answer about a message of a registered direct chat. -/
theorem isExplained_kept {entry : Registration} {t : Toml.Table}
    (hentry : registration layout d message.chatId = .ok entry)
    (hkind : entry.connection.kind = .direct) (htable : Stored.inboundTable message = .ok t)
    (permissions : Permissions) :
    IsExplained layout message d (kept layout message permissions d) := by
  have hlate {error : ReceiveError} (h : kept layout message permissions d = .error error) :
      IsLateFailure message error := kept_eq_error hentry htable h
  constructor
  · intro error h
    cases hlate h
  · constructor
    · rintro ⟨error, h⟩
      cases hlate h with
      | guard hmem hinvalid => exact ⟨⟨entry, hentry, hkind⟩, not_hasValidIds_of_mem hmem hinvalid⟩
    · rintro ⟨-, hvalid⟩
      exact kept_of_not_hasValidIds hvalid permissions
  · intro error h
    cases hlate h with
    | guard hmem hinvalid => exact ⟨_, hmem, hinvalid, rfl⟩
  · intro error h
    cases hlate h with
    | persist _ hunavailable => exact hunavailable
  · intro error h
    cases hlate h with
    | connectionUpdate _ hunavailable => exact hunavailable

theorem isExplained_answer {t : Toml.Table} (htable : Stored.inboundTable message = .ok t)
    (layout : Layout) (d : Disk) : IsExplained layout message d (answer layout message d) := by
  unfold answer
  cases hentry : registration layout d message.chatId with
  | error error =>
      constructor
      · exact nofun
      · simp [hentry]
      · exact nofun
      · exact nofun
      · exact nofun
  | ok entry =>
      by_cases hkind : entry.connection.kind = .direct
      · simp only [if_pos hkind]
        exact isExplained_kept hentry hkind htable entry.permissions
      · simp only [if_neg hkind]
        constructor
        · exact nofun
        · simp [hentry, hkind]
        · exact nofun
        · exact nofun
        · exact nofun

/-- A message that was read from a file can be written to one. -/
theorem inboundTable_of_readInbound {p : Path} {before read : Host}
    (h : Command.readInbound p before = (.ok message, read)) :
    ∃ t, Stored.inboundTable message = .ok t := by
  unfold Command.readInbound at h
  cases htext : before.disk.readText p with
  | error failure =>
      simp only [bind, StateT.bind, Host.ask, htext] at h
      cases h
  | ok text =>
      simp only [bind, StateT.bind, Host.ask, Host.now, htext] at h
      cases hmessage : (Toml.read? text).bind
          (Stored.inbound? (before.clock before.clockReadings)) with
      | none =>
          rw [hmessage] at h
          cases h
      | some found =>
          rw [hmessage] at h
          cases h
          obtain ⟨t, ht, hfound⟩ := Option.bind_eq_some_iff.mp hmessage
          exact Stored.inboundTable_of_inbound? (Toml.read?_isProper ht) hfound

/-- A message that was read from a file is received, or refused for what the lookups found, or for
an identifier that is not accepted, or because a file cannot be used. -/
theorem receive_isExplained {p : Path} {before read : Host}
    (hread : Command.readInbound p before = (.ok message, read))
    (hreceive : receive (Host.services layout notifications) message host = (result, after)) :
    IsExplained layout message host.disk result ∧ LogsNoRollbackFailure host after := by
  obtain ⟨t, htable⟩ := inboundTable_of_readInbound hread
  refine ⟨?_, logsNoRollbackFailure_receive hreceive⟩
  rw [(receive_answer hreceive).1]
  exact isExplained_answer htable layout host.disk

/-- A host that knows the chat, with a file whose message has a slash in its identifier. -/
def slashedHost : Host :=
  { openHost with disk := { openHost.disk with
      root := openHost.disk.root.put ["m.toml"]
        (.file "chat_id='a'\nmessage_id='b/c'\ncontent_type='text'\ndata.text='hi'\n".toUTF8) } }

/-- The message in that file. -/
def slashed : Inbound :=
  { greeting with messageId := "b/c" }

theorem receive_isExplained_slashed : ∃ read after,
    Command.readInbound ⟨"/m.toml"⟩ slashedHost = (.ok slashed, read) ∧
    receive (Host.services ⟨⟨"/data"⟩⟩ true) slashed read =
      (.error (.guard (.invalidId "b/c")), after) ∧
    IsExplained ⟨⟨"/data"⟩⟩ slashed read.disk (.error (.guard (.invalidId "b/c"))) ∧
    LogsNoRollbackFailure read after := by
  have hfound : (Command.readInbound ⟨"/m.toml"⟩ slashedHost).1.toOption = some slashed := by
    decide +kernel
  cases hread : Command.readInbound ⟨"/m.toml"⟩ slashedHost with
  | mk answer read =>
      rw [hread] at hfound
      cases answer with
      | error failure => cases hfound
      | ok message =>
          obtain rfl : message = slashed := Option.some.inj hfound
          have hrefused : (receive (Host.services ⟨⟨"/data"⟩⟩ true) slashed
              (Command.readInbound ⟨"/m.toml"⟩ slashedHost).2).1 =
                .error (.guard (.invalidId "b/c")) := by
            decide +kernel
          rw [hread] at hrefused
          refine ⟨read, _, rfl, Prod.ext hrefused rfl, ?_⟩
          exact receive_isExplained hread (Prod.ext hrefused rfl)

end Inbox

end Courier
