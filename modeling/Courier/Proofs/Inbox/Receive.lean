import Courier.Host.Services
import Courier.Proofs.Chat.Registry
import Courier.Proofs.Store.Message

/-!
# How receiving goes

Receiving over the disk of a host ends in one of five ways, whatever it is told about messages
received before. What each of them leaves on the disk is all that later results need.
-/

namespace Courier.Inbox

open Store (Prepares Saves Locks Rewrites Discards)

variable {layout : Layout} {message : Inbound}

/-- The ways of receiving a message, from the question whether it was received before. -/
inductive Course (layout : Layout) (message : Inbound) (host : Host) :
    Except ReceiveError Outcome → Host → Prop
  /-- Refused before anything was changed. -/
  | refused {error : ReceiveError} (herror : ∀ e, error ≠ .connectionUpdate e) :
      Course layout message host (.error error) host
  /-- Received before; at most the lock and folders were made. -/
  | duplicate {after : Host} (hdisk : Prepares layout host.disk message.chatId after.disk) :
      Course layout message host (.ok .duplicate) after
  /-- Not saved. -/
  | unsaved {error : StoreError} {disk : Disk}
      (hdisk : Prepares layout host.disk message.chatId disk) :
      Course layout message host (.error (.persist error)) { host with disk }
  /-- Saved, but taken back since the summary could not be changed. -/
  | takenBack {error : StoreError} {saved failed disk : Disk}
      (hsave : Store.saveMessage layout host.disk message = (saved, .ok true))
      (hsaves : Saves layout host.disk message saved) (hlocks : Locks layout saved failed)
      (hupdate : Store.updateSummary layout saved (summaryUpdate message) .increment =
        (failed, .error error))
      (hdiscard : Store.discardMessage layout failed message.chatId message.messageId =
        (disk, .ok ()))
      (hdiscards : Discards layout failed message.chatId message.messageId disk) :
      Course layout message host (.error (.connectionUpdate error)) { host with disk }
  /-- Saved and entered into the summary of its chat. -/
  | processed {notified : Bool} {saved : Disk} {known : Registry} {after : Host}
      (hsaves : Saves layout host.disk message saved)
      (hknown : Store.registryIn (Store.registryNode layout saved) = some known)
      (hrewrites : Rewrites layout saved known
        (known.applyUpdate (summaryUpdate message) .increment) after.disk) :
      Course layout message host (.ok (.processed notified)) after

theorem connection_of_registryIn {d : Disk} (hopens : d.Opens layout.dataFolder "connections.toml")
    {known : Registry} (hknown : Store.registryIn (Store.registryNode layout d) = some known)
    {chatId : String} {entry : Registration} (hfind : known.find? chatId = some entry) :
    Store.connection layout d chatId = .ok entry.connection := by
  rw [Store.connection, Store.registration_of_registryIn hopens hknown hfind]
  rfl

/-- A message that is processed counts as one more unread message of its chat. -/
theorem Course.unreadCount_eq {host after : Host} {notified : Bool}
    (h : Course layout message host (.ok (.processed notified)) after) :
    ∃ connection updated, Store.connection layout host.disk message.chatId = .ok connection ∧
      Store.connection layout after.disk message.chatId = .ok updated ∧
      updated.summary.unreadCount = saturatingSucc connection.summary.unreadCount := by
  cases h with
  | @processed _ saved known _ hsaves hknown hrewrites =>
      obtain ⟨known', hknown', hfound⟩ := hsaves.known
      rw [hsaves.registryNode_eq, hknown'] at hknown
      obtain rfl : known' = known := Option.some.inj hknown
      obtain ⟨entry, hfind⟩ := Option.ne_none_iff_exists'.mp hfound
      have hopens := (hsaves.keeps.trans hrewrites.keeps).opens hsaves.opensRegistry
      refine ⟨_, _, connection_of_registryIn hsaves.opensRegistry hknown' hfind,
        connection_of_registryIn hopens hrewrites.registryIn_eq
          (Registry.find?_applyUpdate hfind .increment), rfl⟩

variable {notifications : Bool}
  {guard : String → String → StateM Host (Except StoreError Bool)} {host after : Host}
  {result : Except ReceiveError Outcome}

theorem skip_eq (h : skip (Host.servicesGuardedBy layout notifications guard) message host =
    (result, after)) : result = .ok .duplicate ∧ after.disk = host.disk := by
  unfold skip at h
  simp only [bind, StateT.bind, Host.servicesGuardedBy, Host.record] at h
  cases h
  exact ⟨rfl, rfl⟩

/-- A message that was saved can be discarded, whatever kept the summary from being changed. -/
theorem discardMessage_of_saves {d saved failed : Disk} (hsaves : Saves layout d message saved)
    (hlocks : Locks layout saved failed) :
    ∃ disk, Store.discardMessage layout failed message.chatId message.messageId =
      (disk, .ok ()) ∧ Discards layout failed message.chatId message.messageId disk := by
  obtain ⟨t, -, hwritten⟩ := hsaves.written
  have hplace := layout.place_of_keeps hsaves.keeps
  have hplace' := layout.place_of_keeps hlocks.keeps
  have hpiece := Identifier.isPiece_of_isValid hsaves.validMessage
  have hlock : failed.Admits layout.dataFolder "store.lock" :=
    hlocks.keepsLock.admits hlocks.keeps (hsaves.keepsLock.admits hsaves.keeps hsaves.admitsLock)
  have hfile : failed.look (Place.message (layout.place failed) message.chatId
      message.messageId) = some (.file (Toml.write t).toUTF8) := by
    rw [hplace', hlocks.look_of_ne (Place.message_ne_lock _ _ _), hplace]
    exact hwritten
  exact Store.discardMessage_of_opens hsaves.validChat hsaves.validMessage hlock
    (hlocks.keeps.opens (hsaves.opensDraft.of_draft hpiece)) hfile

theorem notify_disk (enabled : Bool) (notice : Notice) (host : Host) :
    (Host.notify enabled notice host).2.disk = host.disk := by
  cases enabled <;> rfl

/-- A message is told of once it is in the summary, and shown if that is allowed. -/
theorem announce_of_updated {connection : Connection} {permissions : Permissions}
    {saved updated : Disk}
    (hupdate : Store.updateSummary layout saved (summaryUpdate message) .increment =
      (updated, .ok ())) :
    ∃ after, announce (Host.servicesGuardedBy layout notifications guard) connection permissions
        message { host with disk := saved } = (.ok (.processed permissions.notifications), after) ∧
      after.disk = updated := by
  unfold announce
  simp only [bind, StateT.bind, Host.servicesGuardedBy, Host.alter, hupdate]
  cases permissions.notifications with
  | false => exact ⟨_, rfl, rfl⟩
  | true => exact ⟨_, rfl, notify_disk _ _ _⟩

theorem announce_cases {connection : Connection} {permissions : Permissions} {saved : Disk}
    (hsave : Store.saveMessage layout host.disk message = (saved, .ok true))
    (hsaves : Saves layout host.disk message saved)
    (h : announce (Host.servicesGuardedBy layout notifications guard) connection permissions
      message { host with disk := saved } = (result, after)) :
    Course layout message host result after := by
  cases hupdate : Store.updateSummary layout saved (summaryUpdate message) .increment with
  | mk updated answer =>
      rcases Store.updateSummary_cases hupdate with
        ⟨⟨e, rfl⟩, hlocks⟩ | ⟨rfl, known, hknown, -, hrewrites⟩
      · obtain ⟨disk, hdiscard, hdiscards⟩ := discardMessage_of_saves hsaves hlocks
        unfold announce at h
        simp only [bind, StateT.bind, Host.servicesGuardedBy, Host.alter, hupdate, rollBack] at h
        rw [hdiscard] at h
        cases h
        exact .takenBack hsave hsaves hlocks hupdate hdiscard hdiscards
      · obtain ⟨told, htold, rfl⟩ := @announce_of_updated layout message notifications guard host
          connection permissions saved updated hupdate
        rw [htold] at h
        cases h
        exact .processed hsaves hknown hrewrites

/-- Once a message may be kept, its course is told by the host after the question whether it was
received before. -/
theorem keep_cases {connection : Connection} {permissions : Permissions}
    (h : keep (Host.servicesGuardedBy layout notifications guard) connection permissions message
      host = (result, after)) :
    ∃ answer guarded, guard message.chatId message.messageId host = (answer, guarded) ∧
      Course layout message guarded result after := by
  unfold keep at h
  simp only [bind, StateT.bind, Host.servicesGuardedBy] at h
  cases hguard : guard message.chatId message.messageId host with
  | mk answer guarded =>
      refine ⟨answer, guarded, rfl, ?_⟩
      have hrefl : Prepares layout guarded.disk message.chatId guarded.disk :=
        (Store.Locks.refl layout guarded.disk).prepares _
      simp only [hguard] at h
      match answer with
      | .error e =>
          cases h
          exact .refused (by simp)
      | .ok true =>
          obtain ⟨rfl, hdisk⟩ := skip_eq h
          exact .duplicate (hdisk ▸ hrefl)
      | .ok false =>
          simp only [StateT.bind, Host.alter] at h
          cases hsave : Store.saveMessage layout guarded.disk message with
          | mk disk saved =>
              simp only [hsave] at h
              rcases Store.saveMessage_cases hsave with ⟨hresult, hprepares⟩ | ⟨rfl, hsaves⟩
              · match saved with
                | .error e =>
                    cases h
                    exact .unsaved hprepares
                | .ok true => exact absurd rfl hresult
                | .ok false =>
                    obtain ⟨rfl, hdisk⟩ := skip_eq h
                    exact .duplicate (hdisk ▸ hprepares)
              · exact announce_cases hsave hsaves h

/-- A message of a registered direct chat is kept, if it is new. -/
theorem receive_of_registration {entry : Registration}
    (hentry : Store.registration layout host.disk message.chatId = .ok entry)
    (hkind : entry.connection.kind = .direct) :
    receive (Host.servicesGuardedBy layout notifications guard) message host =
      keep (Host.servicesGuardedBy layout notifications guard) entry.connection entry.permissions
        message host := by
  have hconnection : Store.connection layout host.disk message.chatId = .ok entry.connection := by
    rw [Store.connection, hentry]
    rfl
  have hpermissions : Store.permissions layout host.disk message.chatId .direct =
      .ok entry.permissions := by
    rw [Store.permissions, hentry]
    simp only [bind, Except.bind, hkind]
    rfl
  unfold receive
  simp only [bind, StateT.bind, Host.servicesGuardedBy, Host.ask, hconnection, hkind, ne_eq,
    not_true_eq_false, if_false, hpermissions]

/-- All other messages are refused, before anything was changed. -/
theorem receive_of_not_registered
    (hentry : ∀ entry, Store.registration layout host.disk message.chatId = .ok entry →
      entry.connection.kind ≠ .direct) :
    ∃ error, (∀ e, error ≠ .connectionUpdate e) ∧
      receive (Host.servicesGuardedBy layout notifications guard) message host =
        (.error error, host) := by
  unfold receive
  simp only [bind, StateT.bind, Host.servicesGuardedBy, Host.ask, Store.connection]
  cases hfound : Store.registration layout host.disk message.chatId with
  | error e =>
      refine ⟨.connection e, ?_, rfl⟩
      intro failure h
      cases h
  | ok entry =>
      have hkind := hentry entry hfound
      simp only [Except.bind, pure, Except.pure, ne_eq, hkind, not_false_eq_true, if_true]
      refine ⟨.notDirectChat message.chatId entry.connection.kind, ?_, rfl⟩
      intro failure h
      cases h

/-- A message is received in one of the ways, after at most the question whether it was received
before. -/
theorem receive_cases
    (h : receive (Host.servicesGuardedBy layout notifications guard) message host =
      (result, after)) :
    Course layout message host result after ∨
      ∃ answer guarded, guard message.chatId message.messageId host = (answer, guarded) ∧
        Course layout message guarded result after := by
  by_cases hregistered : ∃ entry, Store.registration layout host.disk message.chatId = .ok entry ∧
      entry.connection.kind = .direct
  · obtain ⟨entry, hentry, hkind⟩ := hregistered
    rw [receive_of_registration hentry hkind] at h
    exact .inr (keep_cases h)
  · obtain ⟨error, herror, hrefused⟩ := @receive_of_not_registered layout message notifications
      guard host fun entry hentry hkind => hregistered ⟨entry, hentry, hkind⟩
    rw [hrefused] at h
    cases h
    exact .inl (.refused herror)

/-- With the store to say what was received before, nothing happens before the course. -/
theorem course_of_receive (h : receive (Host.services layout notifications) message host =
    (result, after)) : Course layout message host result after := by
  rcases receive_cases h with hcourse | ⟨answer, guarded, hguard, hcourse⟩
  · exact hcourse
  · cases hguard
    exact hcourse

end Courier.Inbox
