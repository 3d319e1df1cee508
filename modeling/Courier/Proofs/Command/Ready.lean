import Courier.Proofs.Chat.Exchange
import Courier.Proofs.Command.Confinement

/-!
# When nothing stands in the way

Where the lock and the drafts can be written, chats are registered, messages are delivered, and
messages that are new are received. None of this puts anything in the way of later commands.
-/

namespace Courier.Command

open Store (registryIn registryNode)

variable {layout : Layout} {mode : DeliveryMode} {message : Outgoing} {chatId messageId : String}
  {host after : Host} {entry : Registration} {d changed later : Disk}

/-! ## Registered chats -/

/-- The entry of a chat in the registry at its place. -/
def registered (layout : Layout) (d : Disk) (chatId : String) : Option Registration :=
  (registryIn (registryNode layout d)).bind fun known => known.find? chatId

theorem registered_congr (h : registryNode layout later = registryNode layout d)
    (chatId : String) : registered layout later chatId = registered layout d chatId := by
  rw [registered, registered, h]

theorem registered_eq_some (h : registered layout d chatId = some entry) :
    ∃ known, registryIn (registryNode layout d) = some known ∧ known.find? chatId = some entry :=
  Option.bind_eq_some_iff.mp h

/-- Once the registry is rewritten, a chat of it has the entry in the new registry. -/
theorem registered_of_rewrites {known changed : Registry}
    (h : registered layout d chatId = some entry)
    (hrewrites : Store.Rewrites layout d known changed later) :
    known.find? chatId = some entry ∧ registered layout later chatId = changed.find? chatId := by
  obtain ⟨before, hbefore, hfind⟩ := registered_eq_some h
  refine ⟨?_, by rw [registered, hrewrites.registryIn_eq]; rfl⟩
  rcases hrewrites.known_eq with hin | ⟨-, hnone⟩
  · rw [hbefore] at hin
    obtain rfl := Option.some.inj hin
    exact hfind
  · rw [hnone] at hbefore
    cases hbefore

/-! ## Readiness -/

/-- Whether nothing stands in the way of the lock, of the draft of the registry, and of the drafts
of a message in the outboxes. -/
structure IsReady (layout : Layout) (messageId : String) (d : Disk) : Prop where
  lock : d.Admits layout.dataFolder "store.lock"
  registryDraft : d.Admits layout.dataFolder "connections.toml.tmp"
  spooledDraft : ∀ kind, d.Admits (layout.outbox kind) (messageId ++ ".toml.tmp")

/-- Readiness can be computed. -/
theorem isReady_of_placeOfFile (hid : Identifier.isValid messageId = true)
    (hlock : (d.placeOfFile (layout.dataFolder.child "store.lock")).isOk = true)
    (hdraft : (d.placeOfFile (layout.dataFolder.child "connections.toml.tmp")).isOk = true)
    (hspooled : ∀ kind,
      (d.placeOfFile ((layout.outbox kind).child (messageId ++ ".toml.tmp"))).isOk = true) :
    IsReady layout messageId d where
  lock := Disk.admits_of_placeOfFile Layout.isName_lock hlock
  registryDraft := Disk.admits_of_placeOfFile Layout.isName_registryDraft hdraft
  spooledDraft kind :=
    Disk.admits_of_placeOfFile (Disk.isName_draft (Identifier.isPiece_of_isValid hid))
      (hspooled kind)

theorem IsReady.keepsOutboxes (h : IsReady layout messageId d) (hkeeps : d.Keeps changed)
    (houtboxes : Outbox.KeepsOutboxes layout d changed) (kind : ChatKind) :
    changed.Admits (layout.outbox kind) (messageId ++ ".toml.tmp") := by
  apply (h.spooledDraft kind).keeps hkeeps
  rw [layout.placeOf_outbox, ← Place.spooledDraft, Place.spooledDraft_eq]
  exact .inl (houtboxes.look_eq _)

/-- No change of the disk puts anything in the way. -/
theorem isReady_of_change (h : IsReady layout messageId d) (hchange : Change layout d changed) :
    IsReady layout messageId changed := by
  cases hchange with
  | locked hlocks =>
      refine ⟨hlocks.keepsLock.admits hlocks.keeps h.lock, ?_, ?_⟩
      · exact hlocks.admits h.registryDraft (Place.registryDraft_ne_lock _)
      · exact h.keepsOutboxes hlocks.keeps (Outbox.keepsOutboxes_of_locks hlocks)
  | rewritten _ hrewrites =>
      refine ⟨hrewrites.keepsLock.admits hrewrites.keeps h.lock, ?_, ?_⟩
      · exact h.registryDraft.keeps hrewrites.keeps (.inr hrewrites.draft_eq)
      · exact h.keepsOutboxes hrewrites.keeps (Outbox.keepsOutboxes_of_rewrites hrewrites)
  | @spooled kind spooled _ _ _ hspools =>
      refine ⟨hspools.admits (by decide) h.lock, hspools.admits (by decide) h.registryDraft, ?_⟩
      intro kind'
      apply (h.spooledDraft kind').keeps hspools.keeps
      rw [layout.placeOf_outbox, ← Place.spooledDraft]
      by_cases hown : Place.spooledDraft (layout.place d) kind' messageId =
          Place.spooledDraft (layout.place d) kind spooled.messageId
      · rw [hown]
        exact .inr hspools.draft_eq
      · exact .inl (hspools.look_of_ne (Place.spooled_ne_draft _ _ _ _ _).symm hown)

theorem isReady_of_changes (h : IsReady layout messageId d) (hchanges : Changes layout d changed) :
    IsReady layout messageId changed := by
  induction hchanges with
  | refl => exact h
  | tail _ hchange ih => exact isReady_of_change ih hchange

/-- A data folder that is ready stays so, whatever is sent, retried or registered. -/
theorem isReady_of_execute {command : Command} (h : IsReady layout messageId host.disk)
    (hcommand : ∀ p, command ≠ .receive p) (notifications : Bool) :
    IsReady layout messageId (execute ⟨layout, notifications⟩ command host).2.disk :=
  isReady_of_changes h (acts_execute notifications command host hcommand)

/-! ## Registering -/

/-- Where nothing stands in the way, a chat with a valid identifier is registered. -/
theorem registers_of_isReady {arguments : AddChatArguments} {known : Registry}
    (hready : IsReady layout messageId host.disk)
    (hid : Identifier.isValid arguments.chat = true)
    (hknown : registryIn (registryNode layout host.disk) = some known ∨
      known = [] ∧ registryNode layout host.disk = none) (notifications : Bool) :
    (execute ⟨layout, notifications⟩ (.addChat arguments) host).1 = .ok () ∧
      Store.Rewrites layout host.disk known
        (known.register (describedChat arguments).1 (describedChat arguments).2)
        (execute ⟨layout, notifications⟩ (.addChat arguments) host).2.disk := by
  obtain ⟨registered, hregister⟩ := @Store.register_of_admits layout host.disk
    (describedChat arguments).1 known hid hready.lock hready.registryDraft hknown
    (describedChat arguments).2
  have hdisk : (execute ⟨layout, notifications⟩ (.addChat arguments) host).2.disk = registered := by
    rw [execute, registerChat_disk, hregister]
  refine ⟨?_, ?_⟩
  · rw [execute]
    unfold registerChat
    simp only [bind, StateT.bind, Host.alter, hregister]
    rfl
  · rw [hdisk]
    rcases Store.register_cases hregister with ⟨⟨error, ⟨⟩⟩, -⟩ | ⟨-, -, known', hrewrites⟩
    have hsame : known' = known := by
      rcases hknown with hin | ⟨rfl, hnone⟩
      · rcases hrewrites.known_eq with hin' | ⟨-, hnone⟩
        · exact Option.some.inj (hin'.symm.trans hin)
        · rw [hnone] at hin
          cases hin
      · rcases hrewrites.known_eq with hin' | ⟨rfl, -⟩
        · rw [hnone] at hin'
          cases hin'
        · rfl
    rw [← hsame]
    exact hrewrites

/-- Where nothing stands in the way, a chat is registered anew or again, and is of the kind it was
registered with. -/
theorem kind_of_register {arguments : AddChatArguments}
    (hready : IsReady layout messageId host.disk)
    (hid : Identifier.isValid arguments.chat = true)
    (hknown : (∃ entry, registered layout host.disk chatId = some entry) ∨
      registryNode layout host.disk = none) (notifications : Bool) :
    ∃ after, execute ⟨layout, notifications⟩ (.addChat arguments) host = (.ok (), after) ∧
      IsReady layout messageId after.disk ∧ Outbox.KeepsOutboxes layout host.disk after.disk ∧
      ∃ entry, registered layout after.disk arguments.chat = some entry ∧
        entry.connection.kind = if arguments.group then .group else .direct := by
  have hin : ∃ known, registryIn (registryNode layout host.disk) = some known ∨
      known = [] ∧ registryNode layout host.disk = none := by
    rcases hknown with ⟨entry, hentry⟩ | hnone
    · obtain ⟨known, hknown, -⟩ := registered_eq_some hentry
      exact ⟨known, .inl hknown⟩
    · exact ⟨[], .inr ⟨rfl, hnone⟩⟩
  obtain ⟨known, hin⟩ := hin
  obtain ⟨hok, hrewrites⟩ := registers_of_isReady hready hid hin notifications
  obtain ⟨entry, hentry, hkind⟩ := known.find?_register_self (describedChat arguments).1
    (describedChat arguments).2
  have hregisters : ∀ p, Command.addChat arguments ≠ .receive p := by simp
  refine ⟨_, Prod.ext hok rfl, isReady_of_execute hready hregisters notifications,
    Outbox.keepsOutboxes_of_rewrites hrewrites, entry, ?_, hkind⟩
  rw [registered, hrewrites.registryIn_eq]
  exact hentry

/-! ## Routing -/

theorem registered_of_registration {entry : Registration}
    (h : Store.registration layout d chatId = .ok entry) :
    registered layout d chatId = some entry := by
  obtain ⟨known, -, hknown, hfind⟩ := Store.registration_eq_ok h
  rw [registered, hknown]
  exact hfind

/-- Where nothing stands in the way, a message of a registered chat that can be written down is
routed, unless what its outbox holds under its identifier cannot be read or must stay. -/
theorem route_of_isReady {entry : Registration}
    (hready : IsReady layout message.messageId host.disk)
    (hchat : registered layout host.disk message.chatId = some entry)
    (hid : Identifier.isValid message.messageId = true) (hfits : ¬ message.payload.IsOverlong)
    (hreadable : Outbox.spooledIn (host.disk.look
        (Place.spooled (layout.place host.disk) entry.connection.kind message.messageId)) = none →
      host.disk.look (Place.spooled (layout.place host.disk) entry.connection.kind
        message.messageId) = none)
    (hnew : mode = .send → host.disk.look (Place.spooled (layout.place host.disk)
      entry.connection.kind message.messageId) = none) :
    (route layout mode message host).1 = .ok () := by
  obtain ⟨known, hknown, hfind⟩ := registered_eq_some hchat
  have hopens := hready.registryDraft.toOpens.of_draft Layout.isPiece_connections
  have hregistration := Store.registration_of_registryIn hopens hknown hfind
  cases hroute : route layout mode message host with
  | mk result after =>
      cases routing_of_route hroute with
      | unknown hlookup => cases hlookup.symm.trans hregistration
      | @entered entry' handed answer _ _ hentry hhanded =>
          obtain rfl : entry' = entry := Except.ok.inj (hentry.symm.trans hregistration)
          obtain ⟨put, attempts, hput⟩ := Outbox.put_of_admits hid hfits hreadable hnew
            (hready.spooledDraft _) (host.clock host.clockReadings)
          obtain ⟨-, rfl⟩ := Prod.mk.inj (hput.symm.trans hhanded)
          rfl

/-- What routing did if it succeeded: the message was put into the outbox for the kind of its chat,
and nothing was done with the outboxes afterwards. -/
theorem handsOver_of_route (h : route layout mode message host = (.ok (), after)) :
    ∃ entry attempts handed,
      Store.registration layout host.disk message.chatId = .ok entry ∧
      Outbox.HandsOver layout entry.connection.kind mode message (host.clock host.clockReadings)
        host.disk attempts handed ∧
      handed.Keeps after.disk ∧ Outbox.KeepsOutboxes layout handed after.disk ∧
      after.output = host.output := by
  generalize hresult : (.ok () : Except Failure Unit) = result at h
  cases routing_of_route h with
  | unknown => cases hresult
  | @entered entry handed answer _ _ hentry hhanded hentering _ houtput =>
      rcases handOver_cases hhanded with ⟨⟨error, rfl⟩, -⟩ | ⟨attempts, rfl, hhands⟩
      · cases hresult
      · exact ⟨entry, attempts, handed, hentry, hhands, keeps_of_entering hentering,
          keepsOutboxes_of_entering hentering, houtput⟩

/-- Routing changes the kind of no chat. -/
theorem kind_of_route {result : Except Failure Unit} {chatId : String} {entry : Registration}
    (h : registered layout host.disk chatId = some entry)
    (hroute : route layout mode message host = (result, after)) :
    ∃ updated, registered layout after.disk chatId = some updated ∧
      updated.connection.kind = entry.connection.kind := by
  cases routing_of_route hroute with
  | unknown => exact ⟨entry, h, rfl⟩
  | @entered _ handed answer _ _ _ hhanded hentering =>
      rw [← registered_congr (leavesStore_of_handOver hhanded).registryNode_eq] at h
      simp only [entering, Exchange.summaryUpdate_outgoing] at hentering
      rcases Store.updateSummary_cases hentering with ⟨-, hlocks⟩ | ⟨-, known, -, -, hrewrites⟩
      · rw [registered_congr hlocks.registryNode_eq]
        exact ⟨entry, h, rfl⟩
      · obtain ⟨hfind, hafter⟩ := registered_of_rewrites h hrewrites
        rw [hafter]
        exact Registry.kind_applyUpdate hfind _ _

/-- Where nothing stands in the way, a new message of a registered chat is sent. -/
theorem sends_of_isReady {arguments : SendArguments} {start : Host} {entry : Registration}
    (hrouted : routedBy layout (.send arguments) host = some (.send, message, start))
    (hready : IsReady layout message.messageId host.disk)
    (hchat : registered layout host.disk message.chatId = some entry)
    (hid : Identifier.isValid message.messageId = true) (hfits : ¬ message.payload.IsOverlong)
    (hnew : host.disk.look (Place.spooled (layout.place host.disk) entry.connection.kind
      message.messageId) = none) (notifications : Bool) :
    ∃ after, execute ⟨layout, notifications⟩ (.send arguments) host = (.ok (), after) ∧
      IsReady layout message.messageId after.disk ∧
      Outbox.KeepsOthers layout entry.connection.kind message.messageId host.disk after.disk ∧
      (∃ spooled, Outbox.spooledAt layout entry.connection.kind message.messageId after.disk =
          some spooled ∧ spooled.attempts = 1 ∧
        spooled.message = Outbox.prepared entry.connection.kind message) ∧
      ∃ updated, registered layout after.disk message.chatId = some updated ∧
        updated.connection.kind = entry.connection.kind := by
  have hfollows := execute_of_routedBy notifications hrouted
  have hsends : ∀ p, Command.send arguments ≠ .receive p := by simp
  have hafter := isReady_of_execute hready hsends notifications
  rw [← hfollows.start_disk] at hready hchat hnew ⊢
  have hresult : (route layout .send message start).1 = .ok () :=
    route_of_isReady hready hchat hid hfits (fun _ => hnew) fun _ => hnew
  obtain ⟨routed, hroute⟩ : ∃ routed, route layout .send message start = (.ok (), routed) :=
    ⟨_, Prod.ext hresult rfl⟩
  obtain ⟨entry', attempts, handed, hentry', hhands, hkeeps, houtboxes, -⟩ :=
    handsOver_of_route hroute
  obtain rfl : entry' = entry :=
    Option.some.inj ((registered_of_registration hentry').symm.trans hchat)
  obtain ⟨updated, hupdated, hkind⟩ := kind_of_route hchat hroute
  have hfirst : attempts = 1 := by
    rw [hhands.attempts_eq, hnew]
    rfl
  refine ⟨_, Prod.ext (hfollows.result_eq.trans hresult) rfl, hafter, ?_⟩
  rw [hfollows.disk_eq, hroute]
  refine ⟨hhands.keepsOthers.trans houtboxes, ?_, updated, hupdated, hkind⟩
  exact ⟨_, (houtboxes.spooledAt_eq _ _).trans hhands.spooledAt_eq, hfirst, rfl⟩

/-! ## Receiving -/

/-- Whether nothing stands in the way of saving a message that was not received before. -/
structure IsReceptive (layout : Layout) (chatId messageId : String) (d : Disk) : Prop where
  draft : d.Admits (layout.chatMessages chatId) (messageId ++ ".toml.tmp")
  absent : d.look (Place.message (layout.place d) chatId messageId) = none

theorem IsReceptive.of_look_eq (h : IsReceptive layout chatId messageId d)
    (hchat : Identifier.isValid chatId = true) (hkeeps : d.Keeps later)
    (hdraft : later.look (Place.messageDraft (layout.place d) chatId messageId) =
      d.look (Place.messageDraft (layout.place d) chatId messageId))
    (hmessage : later.look (Place.message (layout.place d) chatId messageId) =
      d.look (Place.message (layout.place d) chatId messageId)) :
    IsReceptive layout chatId messageId later := by
  constructor
  · apply h.draft.keeps hkeeps
    rw [layout.placeOf_chatMessages d (Identifier.isName_of_isValid hchat), ← Place.messageDraft]
    exact .inl hdraft
  · rw [layout.place_of_keeps hkeeps, hmessage]
    exact h.absent

theorem IsReceptive.keepsMessages (h : IsReceptive layout chatId messageId d)
    (hchat : Identifier.isValid chatId = true) (hkeeps : d.Keeps later)
    (hmessages : Inbox.KeepsMessages layout d later) :
    IsReceptive layout chatId messageId later := by
  apply h.of_look_eq hchat hkeeps
  · rw [Place.messageDraft, Place.chat, List.append_assoc]
    exact hmessages.look_eq chatId _
  · exact hmessages.look_message chatId messageId

variable {received : Inbound}

/-- Saving a message puts nothing in the way of another one. -/
theorem IsReceptive.saves (h : IsReceptive layout chatId messageId d)
    (hchat : Identifier.isValid chatId = true) (hsaves : Store.Saves layout d received later)
    (hne : received.messageId ≠ messageId) : IsReceptive layout chatId messageId later := by
  apply h.of_look_eq hchat hsaves.keeps
  · apply hsaves.look_of_ne
    · exact Place.messageDraft_ne_lock _ _ _
    · exact Store.messageDraft_not_mem_chatFolders _ _ _ _
    · exact fun heq => hne (Place.messageDraft_injective _ heq).2.symm
    · exact (Place.message_ne_messageDraft _ _ _ _ _).symm
  · apply hsaves.look_of_ne
    · exact Place.message_ne_lock _ _ _
    · exact Store.message_not_mem_chatFolders _ _ _ _
    · exact Place.message_ne_messageDraft _ _ _ _ _
    · exact fun heq => hne (Place.message_injective _ heq).2.symm

theorem keepsOutboxes_of_saves (hsaves : Store.Saves layout d received later) :
    Outbox.KeepsOutboxes layout d later :=
  ⟨layout.place_of_keeps hsaves.keeps, hsaves.look_outside (by decide) (by decide)⟩

theorem isReady_of_saves (h : IsReady layout messageId d)
    (hsaves : Store.Saves layout d received later) : IsReady layout messageId later := by
  refine ⟨hsaves.keepsLock.admits hsaves.keeps h.lock, ?_,
    h.keepsOutboxes hsaves.keeps (keepsOutboxes_of_saves hsaves)⟩
  exact h.registryDraft.keeps hsaves.keeps (.inl (hsaves.look_outside (by decide) (by decide) []))

/-- Whether a file with this text, outside of the data folder, can be read. -/
structure HasFile (layout : Layout) (folder : Path) (name text : String) (d : Disk) : Prop where
  opens : d.Opens folder name
  outside : ¬ layout.place d <+: d.placeOf folder ++ [name]
  look_eq : d.look (d.placeOf folder ++ [name]) = some (.file text.toUTF8)

/-- A message that tells its time is read from its file. -/
theorem HasFile.readInbound_eq {folder : Path} {name text : String} {now : Instant}
    (h : HasFile layout folder name text host.disk) (hname : Path.IsName name)
    (hmessage : (Toml.read? text).bind (Stored.inbound? now) = some received)
    (htime : (Toml.read? text).bind (·.get? "received_at") ≠ none) :
    (readInbound (folder.child name) host).1 = .ok received := by
  have htext : host.disk.readText (folder.child name) = .ok text := by
    rw [Disk.readText_child hname h.opens, h.look_eq, Disk.textOf, fromUTF8?_toUTF8]
  obtain ⟨t, ht, hreceived⟩ := Option.bind_eq_some_iff.mp hmessage
  rw [ht] at htime
  have hread : (Toml.read? text).bind (Stored.inbound? (host.clock host.clockReadings)) =
      some received := by
    rw [ht, Option.bind_some, Stored.inbound?_of_receivedAt htime now, hreceived]
  unfold readInbound
  simp only [bind, StateT.bind, Host.ask, Host.now, htext, hread]
  rfl

/-- What receiving a message from a file did if it was processed: it was saved, and the summary of
its chat was changed. -/
theorem processed_of_receivedBy {p : Path} {notifications notified : Bool}
    (h : receivedBy ⟨layout, notifications⟩ (.receive p) host =
      some (received, .ok (.processed notified))) :
    ∃ saved known, Store.Saves layout host.disk received saved ∧
      Store.Rewrites layout saved known
        (known.applyUpdate (Inbox.summaryUpdate received) .increment)
        (execute ⟨layout, notifications⟩ (.receive p) host).2.disk := by
  rcases receiveFile_cases layout notifications p host with
    ⟨hnone, -⟩ | ⟨message, result, read, final, hreceived, hread, hcourse, hdisk⟩
  · cases hnone.symm.trans h
  · cases hreceived.symm.trans h
    cases hcourse with
    | @processed _ saved known _ hsaves _ hrewrites =>
        rw [hread] at hsaves
        rw [← hdisk] at hrewrites
        exact ⟨saved, known, hsaves, hrewrites⟩

/-- What receiving a message made of the registry if it was processed. -/
theorem registryIn_of_receivedBy {p : Path} {notifications notified : Bool} {known : Registry}
    (hprocessed : receivedBy ⟨layout, notifications⟩ (.receive p) host =
      some (received, .ok (.processed notified)))
    (hknown : registryIn (registryNode layout host.disk) = some known) :
    registryIn (registryNode layout (execute ⟨layout, notifications⟩ (.receive p) host).2.disk) =
      some (known.applyUpdate (Inbox.summaryUpdate received) .increment) := by
  obtain ⟨saved, known', hsaves, hrewrites⟩ := processed_of_receivedBy hprocessed
  rw [← hsaves.registryNode_eq] at hknown
  rcases hrewrites.known_eq with hin | ⟨-, hnone⟩
  · obtain rfl : known = known' := Option.some.inj (hknown.symm.trans hin)
    exact hrewrites.registryIn_eq
  · rw [hnone] at hknown
    cases hknown

/-- Where nothing stands in the way, a new message of a direct chat is received from its file. -/
theorem receives_of_isReady {p : Path} (hread : (readInbound p host).1 = .ok received)
    (hready : IsReady layout messageId host.disk)
    (hchat : registered layout host.disk received.chatId = some entry)
    (hkind : entry.connection.kind = .direct)
    (hchatId : Identifier.isValid received.chatId = true)
    (hid : Identifier.isValid received.messageId = true) (hfits : ¬ received.payload.IsOverlong)
    (hreceptive : IsReceptive layout received.chatId received.messageId host.disk)
    (notifications : Bool) :
    ∃ notified, receivedBy ⟨layout, notifications⟩ (.receive p) host =
      some (received, .ok (.processed notified)) := by
  obtain ⟨known, hknown, hfind⟩ := registered_eq_some hchat
  obtain ⟨t, htable⟩ : ∃ t, Stored.inboundTable received = .ok t := by
    cases htable : Stored.inboundTable received with
    | ok t => exact ⟨t, rfl⟩
    | error e => exact absurd ((Stored.inboundTable_eq_error_iff received).mp ⟨e, htable⟩) hfits
  have hreceivable : Inbox.IsReceivable layout notifications received host.disk :=
    Inbox.isReceivable_of_admits hchatId hid htable hready.lock hready.registryDraft hknown hfind
      hkind hreceptive.draft hreceptive.absent
  obtain ⟨notified, final, -, -, hreceive, -⟩ :=
    hreceivable (readInbound p host).2 (readInbound_disk p host)
  refine ⟨notified, ?_⟩
  cases hanswer : readInbound p host with
  | mk answer read =>
      rw [hanswer] at hread hreceive
      obtain rfl : answer = .ok received := hread
      have hresult : (Inbox.receive (Host.services layout notifications) received read).1 =
          .ok (.processed notified) := congrArg Prod.fst hreceive
      rw [receivedBy, hanswer]
      exact congrArg (fun result => some (received, result)) hresult

/-! ## What stays ready -/

section Processed

variable {p : Path} {notifications notified : Bool}
  (hprocessed : receivedBy ⟨layout, notifications⟩ (.receive p) host =
    some (received, .ok (.processed notified)))

include hprocessed

theorem isReady_of_receivedBy (h : IsReady layout messageId host.disk) :
    IsReady layout messageId (execute ⟨layout, notifications⟩ (.receive p) host).2.disk := by
  obtain ⟨saved, known, hsaves, hrewrites⟩ := processed_of_receivedBy hprocessed
  exact isReady_of_change (isReady_of_saves h hsaves)
    (.rewritten (known.isExtendedBy_applyUpdate _ _) hrewrites)

theorem keepsOutboxes_of_receivedBy :
    Outbox.KeepsOutboxes layout host.disk
      (execute ⟨layout, notifications⟩ (.receive p) host).2.disk := by
  obtain ⟨saved, known, hsaves, hrewrites⟩ := processed_of_receivedBy hprocessed
  exact (keepsOutboxes_of_saves hsaves).trans (Outbox.keepsOutboxes_of_rewrites hrewrites)

/-- Receiving changes the kind of no chat. -/
theorem kind_of_receivedBy (h : registered layout host.disk chatId = some entry) :
    ∃ updated, registered layout (execute ⟨layout, notifications⟩ (.receive p) host).2.disk chatId =
        some updated ∧ updated.connection.kind = entry.connection.kind := by
  obtain ⟨known, hknown, hfind⟩ := registered_eq_some h
  rw [registered, registryIn_of_receivedBy hprocessed hknown]
  exact Registry.kind_applyUpdate hfind _ _

theorem IsReceptive.receivedBy (h : IsReceptive layout chatId messageId host.disk)
    (hchat : Identifier.isValid chatId = true) (hne : received.messageId ≠ messageId) :
    IsReceptive layout chatId messageId
      (execute ⟨layout, notifications⟩ (.receive p) host).2.disk := by
  obtain ⟨saved, known, hsaves, hrewrites⟩ := processed_of_receivedBy hprocessed
  exact (h.saves hchat hsaves hne).keepsMessages hchat hrewrites.keeps
    (Inbox.keepsMessages_of_rewrites hrewrites)

end Processed

theorem IsReceptive.execute {command : Command} (h : IsReceptive layout chatId messageId host.disk)
    (hchat : Identifier.isValid chatId = true) (hcommand : ∀ p, command ≠ .receive p)
    (notifications : Bool) :
    IsReceptive layout chatId messageId
      (execute ⟨layout, notifications⟩ command host).2.disk :=
  h.keepsMessages hchat (keeps_of_execute notifications command host)
    (Inbox.keepsMessages_of_changes (acts_execute notifications command host hcommand))

/-- Files outside of the data folder stay. -/
theorem HasFile.execute {folder : Path} {name text : String}
    (h : HasFile layout folder name text host.disk) (command : Command) (notifications : Bool) :
    HasFile layout folder name text (execute ⟨layout, notifications⟩ command host).2.disk := by
  obtain ⟨_, _, _, hwrites⟩ := @writes_of_execute layout notifications command host
  have hkeeps := hwrites.confined.keeps
  refine ⟨hkeeps.opens h.opens, ?_, ?_⟩
  · rw [hkeeps.placeOf_eq, layout.place_of_keeps hkeeps]
    exact h.outside
  · rw [hkeeps.placeOf_eq, hwrites.confined.look_outside h.outside]
    exact h.look_eq

end Courier.Command
