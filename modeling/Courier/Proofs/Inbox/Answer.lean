import Courier.Proofs.Inbox.History
import Courier.Proofs.Store.Undisturbed

/-!
# What a receive answers

The answer of a receive and its notifications follow from the disk. A message that nothing
disturbed, in a chat that kept its entry but for the summary, is answered alike.
-/

namespace Courier.Inbox

open Disk (hasFolder)
open Store (Locks Rewrites Prepares Saves KeepsLock Undisturbed registryIn registryNode)

variable {layout : Layout} {message : Inbound} {notifications : Bool} {host after : Host}
  {result : Except ReceiveError Outcome} {d e : Disk}

/-! ## Answers -/

/-- What a receive answers once the message is saved and the summary was to be changed. -/
def entered (permissions : Permissions) (updated : Except StoreError Unit) :
    Except ReceiveError Outcome :=
  (updated.mapError ReceiveError.connectionUpdate).map fun _ =>
    .processed permissions.notifications

/-- What a receive answers for a message that passed every check. -/
def kept (layout : Layout) (message : Inbound) (permissions : Permissions) (d : Disk) :
    Except ReceiveError Outcome :=
  match Store.isReceived layout d message.chatId message.messageId with
  | .error error => .error (.guard error)
  | .ok true => .ok .duplicate
  | .ok false =>
    match Store.saveMessage layout d message with
    | (_, .error error) => .error (.persist error)
    | (_, .ok false) => .ok .duplicate
    | (saved, .ok true) =>
      entered permissions (Store.updateSummary layout saved (summaryUpdate message) .increment).2

/-- What a receive answers, which only depends on the disk. -/
def answer (layout : Layout) (message : Inbound) (d : Disk) : Except ReceiveError Outcome :=
  match Store.registration layout d message.chatId with
  | .error error => .error (.connection error)
  | .ok entry =>
    if entry.connection.kind = .direct then kept layout message entry.permissions d
    else .error (.notDirectChat message.chatId entry.connection.kind)

/-- The notifications that come of an answer about a chat. -/
def noticesFor (connection : Connection) (message : Inbound) :
    Except ReceiveError Outcome → List Notice
  | .ok (.processed true) => [notice connection message]
  | _ => []

/-- The notifications of a receive. -/
def told (layout : Layout) (message : Inbound) (d : Disk) : List Notice :=
  (Store.connection layout d message.chatId).toOption.toList.flatMap fun connection =>
    noticesFor connection message (answer layout message d)

theorem notices_notify (notice : Notice) (host : Host) :
    (Host.notify notifications notice host).2.notices = host.notices ++ [notice] := by
  cases notifications <;> rfl

variable {guard : String → String → StateM Host (Except StoreError Bool)}

/-- A message that was saved is answered for by the change of the summary alone: whether it could
be taken back is only told in the log. -/
theorem announce_answer {connection : Connection} {permissions : Permissions} {saved : Disk}
    (h : announce (Host.servicesGuardedBy layout notifications guard) connection permissions message
      { host with disk := saved } = (result, after)) :
    result = entered permissions
        (Store.updateSummary layout saved (summaryUpdate message) .increment).2 ∧
      after.notices = host.notices ++ noticesFor connection message result := by
  cases hupdate : Store.updateSummary layout saved (summaryUpdate message) .increment with
  | mk updated reply =>
      cases reply with
      | error error =>
          unfold announce rollBack at h
          simp only [bind, StateT.bind, Host.servicesGuardedBy, Host.alter, hupdate] at h
          cases hdiscard : Store.discardMessage layout updated message.chatId message.messageId with
          | mk discarded reply =>
              cases reply with
              | error failure =>
                  simp only [hdiscard] at h
                  cases h
                  exact ⟨rfl, (List.append_nil _).symm⟩
              | ok _ =>
                  simp only [hdiscard] at h
                  cases h
                  exact ⟨rfl, (List.append_nil _).symm⟩
      | ok _ =>
          unfold announce at h
          simp only [bind, StateT.bind, Host.servicesGuardedBy, Host.alter, hupdate] at h
          cases hallowed : permissions.notifications with
          | false =>
              simp only [hallowed] at h
              cases h
              exact ⟨by simp [entered, hallowed, Except.map, Except.mapError],
                (List.append_nil _).symm⟩
          | true =>
              simp only [hallowed] at h
              cases h
              refine ⟨by simp [entered, hallowed, Except.map, Except.mapError], ?_⟩
              exact notices_notify _ _

theorem keep_answer {connection : Connection} {permissions : Permissions}
    (h : keep (Host.services layout notifications) connection permissions message host =
      (result, after)) :
    result = kept layout message permissions host.disk ∧
      after.notices = host.notices ++ noticesFor connection message result := by
  have hnone : host.notices = host.notices ++ [] := (List.append_nil _).symm
  unfold keep at h
  unfold kept
  simp only [bind, StateT.bind, Host.services, Host.servicesGuardedBy, Host.ask] at h
  cases hreceived : Store.isReceived layout host.disk message.chatId message.messageId with
  | error error =>
      simp only [hreceived] at h
      cases h
      exact ⟨rfl, hnone⟩
  | ok received =>
      cases received with
      | true =>
          simp only [hreceived] at h
          cases h
          exact ⟨rfl, hnone⟩
      | false =>
          cases hsave : Store.saveMessage layout host.disk message with
          | mk saved reply =>
              simp only [hreceived, StateT.bind, Host.alter, hsave] at h
              cases reply with
              | error error =>
                  cases h
                  exact ⟨rfl, hnone⟩
              | ok isNew =>
                  cases isNew with
                  | false =>
                      cases h
                      exact ⟨rfl, hnone⟩
                  | true => exact announce_answer h

/-- What a receive answers and notifies of follows from the disk. -/
theorem receive_answer (h : receive (Host.services layout notifications) message host =
    (result, after)) :
    result = answer layout message host.disk ∧
      after.notices = host.notices ++ told layout message host.disk := by
  unfold told answer
  cases hentry : Store.registration layout host.disk message.chatId with
  | error error =>
      unfold receive at h
      simp only [bind, StateT.bind, Host.services, Host.servicesGuardedBy, Host.ask,
        Store.connection, hentry, Except.bind] at h
      cases h
      exact ⟨rfl, by simp [Store.connection, hentry, bind, Except.bind, Except.toOption]⟩
  | ok entry =>
      have hconnection : Store.connection layout host.disk message.chatId =
          .ok entry.connection := by
        rw [Store.connection, hentry]
        rfl
      rw [hconnection]
      by_cases hkind : entry.connection.kind = .direct
      · rw [Host.services, receive_of_registration hentry hkind] at h
        obtain ⟨hresult, hnotices⟩ := keep_answer h
        simp only [if_pos hkind]
        refine ⟨hresult, ?_⟩
        rw [hnotices, hresult]
        simp [Except.toOption]
      · unfold receive at h
        simp only [bind, StateT.bind, Host.services, Host.servicesGuardedBy, Host.ask,
          hconnection, hkind, ne_eq, not_false_eq_true, if_true] at h
        cases h
        exact ⟨by simp [hkind], by simp [hkind, Except.toOption, noticesFor]⟩

/-! ## Undisturbed messages -/

/-- An entry of the registry with its summary changed. -/
def withSummary (change : Summary → Summary) (entry : Registration) : Registration :=
  { entry with connection := { entry.connection with summary := change entry.connection.summary } }

/-- An entry of the registry apart from its summary. -/
def withoutSummary : Registration → Registration :=
  withSummary fun _ => {}

/-- Whether the entry of a chat is the same but for its summary, or missing for the same reason. -/
def KeepsEntry (layout : Layout) (chatId : String) (d e : Disk) : Prop :=
  (Store.registration layout e chatId).map withoutSummary =
    (Store.registration layout d chatId).map withoutSummary

theorem KeepsEntry.cases {chatId : String} (h : KeepsEntry layout chatId d e) :
    (∃ error, Store.registration layout d chatId = .error error ∧
      Store.registration layout e chatId = .error error) ∨
    ∃ entry entry', Store.registration layout d chatId = .ok entry ∧
      Store.registration layout e chatId = .ok entry' ∧
      withoutSummary entry' = withoutSummary entry := by
  unfold KeepsEntry at h
  cases hd : Store.registration layout d chatId with
  | error error =>
      cases he : Store.registration layout e chatId with
      | error error' =>
          rw [hd, he] at h
          exact .inl ⟨error, rfl, congrArg Except.error (Except.error.inj h)⟩
      | ok entry' =>
          rw [hd, he] at h
          cases h
  | ok entry =>
      cases he : Store.registration layout e chatId with
      | error error' =>
          rw [hd, he] at h
          cases h
      | ok entry' =>
          rw [hd, he] at h
          exact .inr ⟨entry, entry', rfl, rfl, Except.ok.inj h⟩

theorem eq_of_withoutSummary {entry entry' : Registration}
    (h : withoutSummary entry' = withoutSummary entry) :
    entry'.permissions = entry.permissions ∧
      entry'.connection.kind = entry.connection.kind ∧
      notice entry'.connection message = notice entry.connection message := by
  simp only [withoutSummary, withSummary, Registration.mk.injEq, Connection.mk.injEq] at h
  obtain ⟨⟨-, hname, hkind, hdisconnected, -⟩, hpermissions⟩ := h
  exact ⟨hpermissions, hkind, by rw [notice, notice, hname, hdisconnected]⟩

/-- What the summary is changed for is answered alike once the message is saved on both disks. -/
theorem updateSummary_answer_of_saves (h : Undisturbed layout message d e) {saved saved' : Disk}
    (hd : Saves layout d message saved) (he : Saves layout e message saved') :
    (Store.updateSummary layout saved' (summaryUpdate message) .increment).2 =
      (Store.updateSummary layout saved (summaryUpdate message) .increment).2 := by
  obtain ⟨known, hknown, hfind⟩ := hd.known
  obtain ⟨known', hknown', hfind'⟩ := he.known
  have hagrees := (h.keeps.agreesOn hd.opensRegistry.passes).keeps hd.opensRegistry.passes
    hd.keeps he.keeps
  have hplace := layout.place_of_keeps hd.keeps
  have hplace' := layout.place_of_keeps h.keeps
  apply Store.updateSummary_answer hagrees
  · have hlock := he.keepsLock.hasFolder_eq
    rw [hplace'] at hlock
    rw [hplace, hlock, h.lock_eq, hd.keepsLock.hasFolder_eq]
  · have hdraft : saved.look (Place.registryDraft (layout.place d)) =
        d.look (Place.registryDraft (layout.place d)) :=
      hd.look_outside (by decide) (by decide) []
    have hdraft' : saved'.look (Place.registryDraft (layout.place e)) =
        e.look (Place.registryDraft (layout.place e)) :=
      he.look_outside (by decide) (by decide) []
    rw [hplace'] at hdraft'
    rw [hplace, Store.hasFolder_eq_of_look hdraft', h.registryDraft_eq,
      Store.hasFolder_eq_of_look hdraft]
  · exact hd.keeps.opens hd.opensRegistry
  · rw [hd.registryNode_eq]
    exact hknown
  · rw [he.registryNode_eq]
    exact hknown'
  · exact hfind
  · exact hfind'

theorem kept_eq (h : Undisturbed layout message d e) {entry entry' : Registration}
    (hentry : Store.registration layout d message.chatId = .ok entry)
    (hentry' : Store.registration layout e message.chatId = .ok entry')
    (permissions : Permissions) :
    kept layout message permissions e = kept layout message permissions d := by
  obtain ⟨-, hopens, -, -⟩ := Store.registration_eq_ok hentry
  have hanswer := h.saveMessage_answer hentry hentry'
  unfold kept
  rw [h.isReceived_eq hopens.passes]
  cases hreceived : Store.isReceived layout d message.chatId message.messageId with
  | error error => rfl
  | ok received =>
      cases received with
      | true => rfl
      | false =>
          dsimp only
          cases hsave : Store.saveMessage layout d message with
          | mk saved reply =>
              cases hsave' : Store.saveMessage layout e message with
              | mk saved' reply' =>
                  rw [hsave, hsave'] at hanswer
                  obtain rfl : reply' = reply := hanswer
                  cases reply' with
                  | error error => rfl
                  | ok isNew =>
                      cases isNew with
                      | false => rfl
                      | true =>
                          have hd := (Store.saveMessage_cases hsave).resolve_left fun h => h.1 rfl
                          have he := (Store.saveMessage_cases hsave').resolve_left fun h => h.1 rfl
                          dsimp only
                          rw [updateSummary_answer_of_saves h hd.2 he.2]

theorem noticesFor_congr {connection connection' : Connection}
    (h : notice connection' message = notice connection message) :
    noticesFor connection' message = noticesFor connection message := by
  funext result
  unfold noticesFor
  rw [h]

/-- A message that is not disturbed, in a chat that is kept, is answered and notified alike. -/
theorem answer_eq (h : Undisturbed layout message d e)
    (hentry : KeepsEntry layout message.chatId d e) :
    answer layout message e = answer layout message d ∧
      told layout message e = told layout message d := by
  rcases hentry.cases with ⟨error, hd, he⟩ | ⟨entry, entry', hd, he, hsame⟩
  · have hanswer : answer layout message e = answer layout message d := by
      rw [answer, answer, hd, he]
    refine ⟨hanswer, ?_⟩
    rw [told, told, hanswer, Store.connection, Store.connection, hd, he]
  · obtain ⟨hpermissions, hkind, hnotice⟩ := @eq_of_withoutSummary message entry entry' hsame
    have hanswer : answer layout message e = answer layout message d := by
      rw [answer, answer, hd, he]
      dsimp only
      rw [hkind, hpermissions, kept_eq h hd he]
    refine ⟨hanswer, ?_⟩
    rw [told, told, hanswer, Store.connection, Store.connection, hd, he]
    simp only [bind, Except.bind, pure, Except.pure, Except.toOption, Option.toList_some,
      List.flatMap_singleton, noticesFor_congr hnotice]

end Courier.Inbox
