import Courier.Proofs.Command.DataFolder
import Courier.Proofs.Command.Ready

/-!
# What a retry hands over

A retry finds a message in either outbox and puts it into the outbox for the kind that its chat has
now. Where this is the outbox in which it was found, the attempt that is printed is the one that is
written down, and all messages stay. A chat that was registered again with another kind parts the
two: the attempt is counted by the copy that is found, and written down by the one that is replaced.
-/

namespace Courier.Command

open DataFolder (IsFileless IsSameFolder Run freshHost freshChat)

variable {layout : Layout} {messageId : String} {host after : Host} {target : ChatKind}
  {found written : Spooled} {notifications : Bool}

/-! ## Retrying -/

theorem attemptLine_injective (messageId : String) : (attemptLine messageId).Injective := by
  intro m n h
  have hnumeral : toString m = toString n := by
    simpa [attemptLine, String.append_assoc] using h
  have hdigits : Nat.toDigits 10 m.toNat = Nat.toDigits 10 n.toNat :=
    String.ofList_injective hnumeral
  apply UInt32.toNat_inj.mp
  calc
    m.toNat = Nat.ofDigitChars 10 (Nat.toDigits 10 m.toNat) 0 :=
      Nat.ofDigitChars_ten_toDigits.symm
    _ = Nat.ofDigitChars 10 (Nat.toDigits 10 n.toNat) 0 := by rw [hdigits]
    _ = n.toNat := Nat.ofDigitChars_ten_toDigits

/-- A retry that succeeds has found a message and routed it, and tells of its next attempt. -/
theorem retry_eq_ok
    (h : execute ⟨layout, notifications⟩ (.retry messageId) host = (.ok (), after)) :
    ∃ found routed, Outbox.find layout host.disk messageId = .ok (some found) ∧
      route layout .retry found.message host = (.ok (), routed) ∧ after.disk = routed.disk ∧
      after.output = routed.output ++
        attemptLine found.message.messageId (found.attempts + 1) ++ "\n" := by
  have hfound : ∃ found, Outbox.find layout host.disk messageId = .ok (some found) := by
    rw [execute] at h
    unfold retryMessage at h
    simp only [bind, StateT.bind, Host.ask] at h
    cases hfind : Outbox.find layout host.disk messageId with
    | error e =>
        rw [hfind] at h
        cases h
    | ok found =>
        cases found with
        | none =>
            rw [hfind] at h
            cases h
        | some found => exact ⟨found, rfl⟩
  obtain ⟨found, hfind⟩ := hfound
  rw [execute_retry_of_find notifications hfind] at h
  obtain ⟨routed, hroute, hdisk, houtput⟩ := routeAndPrint_eq_ok h
  exact ⟨found, routed, hfind, hroute, hdisk, houtput⟩

/-- What a retry did if it succeeded: it found one message and wrote another into the outbox for the
kind of its chat. -/
structure Redelivers (layout : Layout) (messageId : String) (target : ChatKind)
    (found written : Spooled) (host after : Host) : Prop where
  find_eq : Outbox.find layout host.disk messageId = .ok (some found)
  found_in : ∃ kind, Outbox.spooledAt layout kind messageId host.disk = some found
  kind_eq : ∃ connection,
    Store.connection layout host.disk found.message.chatId = .ok connection ∧
      connection.kind = target
  output_eq : after.output =
    host.output ++ attemptLine messageId (found.attempts + 1) ++ "\n"
  written_eq : Outbox.read after.disk (Layout.messageFile (layout.outbox target) messageId) =
    .ok (some written)
  message_eq : written.message = Outbox.prepared target found.message
  /-- The attempts are counted on from what the outbox held itself. -/
  attempts_eq : written.attempts = saturatingSucc
    (((Outbox.spooledAt layout target messageId host.disk).map (·.attempts)).getD 0)
  keepsOthers : Outbox.KeepsOthers layout target messageId host.disk after.disk

/-- A retry that succeeds redelivers, if messages are found under their own identifiers. -/
theorem redelivers_of_retry
    (hnames : ∀ kind spooled, Outbox.spooledAt layout kind messageId host.disk = some spooled →
      spooled.message.messageId = messageId)
    (h : execute ⟨layout, notifications⟩ (.retry messageId) host = (.ok (), after)) :
    ∃ target found written, Redelivers layout messageId target found written host after := by
  obtain ⟨found, routed, hfind, hroute, hdisk, houtput⟩ := retry_eq_ok h
  obtain ⟨-, source, hfound⟩ := Outbox.find_eq_some hfind
  obtain rfl := hnames source found hfound
  obtain ⟨entry, attempts, handed, hentry, hhands, hkeeps, houtboxes, hsame⟩ :=
    handsOver_of_route hroute
  have hpiece := Identifier.isPiece_of_isValid hhands.validMessage
  have hopens := (hhands.keeps.trans hkeeps).opens (hhands.opens_draft.of_draft hpiece)
  have hwritten := (houtboxes.spooledAt_eq _ _).trans hhands.spooledAt_eq
  refine ⟨entry.connection.kind, found,
    { attempts
      spooledAt := host.clock host.clockReadings
      message := Outbox.prepared entry.connection.kind found.message }, ?_⟩
  constructor
  · exact hfind
  · exact ⟨source, hfound⟩
  · refine ⟨entry.connection, ?_, rfl⟩
    rw [Store.connection, hentry]
    rfl
  · rw [houtput, hsame]
  · rw [hdisk]
    exact (Outbox.read_messageFile_eq_some_iff hpiece).mpr ⟨hopens, hwritten⟩
  · rfl
  · exact hhands.attempts_eq
  · rw [hdisk]
    exact hhands.keepsOthers.trans houtboxes

/-! ## Faithful retries -/

/-- Whether every message in an outbox is still there under its identifier, for the same chat and
with the same payload. -/
def KeepsSpooled (layout : Layout) (d after : Disk) : Prop :=
  ∀ kind messageId spooled, Outbox.spooledAt layout kind messageId d = some spooled →
    ∃ kept, Outbox.spooledAt layout kind messageId after = some kept ∧
      kept.message.chatId = spooled.message.chatId ∧
      kept.message.payload = spooled.message.payload

/-- Whether a retry told of the attempt that it wrote down, and no message was lost to another. -/
structure IsFaithful (layout : Layout) (messageId : String) (written : Spooled)
    (host after : Host) : Prop where
  output_eq : after.output =
    host.output ++ attemptLine messageId written.attempts ++ "\n"
  keepsSpooled : KeepsSpooled layout host.disk after.disk

namespace Redelivers

theorem isValid (h : Redelivers layout messageId target found written host after) :
    Identifier.isValid messageId = true :=
  (Outbox.find_eq_some h.find_eq).1

theorem spooledAt_eq (h : Redelivers layout messageId target found written host after) :
    Outbox.spooledAt layout target messageId after.disk = some written :=
  ((Outbox.read_messageFile_eq_some_iff (Identifier.isPiece_of_isValid h.isValid)).mp
    h.written_eq).2

/-- Only the message that is replaced can be lost. -/
theorem keepsSpooled_iff (h : Redelivers layout messageId target found written host after) :
    KeepsSpooled layout host.disk after.disk ↔
      ∀ copy, Outbox.spooledAt layout target messageId host.disk = some copy →
        copy.message.chatId = found.message.chatId ∧
          copy.message.payload = found.message.payload := by
  have hchat : written.message.chatId = found.message.chatId := by
    rw [h.message_eq, Outbox.prepared_chatId]
  have hpayload : written.message.payload = found.message.payload := by
    rw [h.message_eq, Outbox.prepared_payload]
  constructor
  · intro hkeeps copy hcopy
    obtain ⟨kept, hkept, hsameChat, hsamePayload⟩ := hkeeps target messageId copy hcopy
    obtain rfl : written = kept := Option.some.inj (h.spooledAt_eq.symm.trans hkept)
    exact ⟨hsameChat.symm.trans hchat, hsamePayload.symm.trans hpayload⟩
  · intro hsame kind other spooled hspooled
    by_cases hown : target = kind ∧ messageId = other
    · obtain ⟨rfl, rfl⟩ := hown
      obtain ⟨hsameChat, hsamePayload⟩ := hsame spooled hspooled
      exact ⟨written, h.spooledAt_eq, hchat.trans hsameChat.symm,
        hpayload.trans hsamePayload.symm⟩
    · exact ⟨spooled, (h.keepsOthers.spooledAt_eq hown).trans hspooled, rfl, rfl⟩

/-- The attempt that is printed is the one that is written down if the outbox held as many. -/
theorem output_eq_iff (h : Redelivers layout messageId target found written host after) :
    after.output = host.output ++ attemptLine messageId written.attempts ++ "\n" ↔
      written.attempts = found.attempts + 1 := by
  rw [h.output_eq]
  constructor
  · intro hprinted
    exact attemptLine_injective messageId (by simpa [String.append_assoc] using hprinted.symm)
  · intro hattempts
    rw [hattempts]

/-- A retry is faithful if the outbox held the same message with as many attempts, and only then. -/
theorem isFaithful_iff (h : Redelivers layout messageId target found written host after)
    (hattempts : found.attempts ≠ 0) :
    IsFaithful layout messageId written host after ↔
      ∃ copy, Outbox.spooledAt layout target messageId host.disk = some copy ∧
        saturatingSucc copy.attempts = found.attempts + 1 ∧
        copy.message.chatId = found.message.chatId ∧
        copy.message.payload = found.message.payload := by
  have hcounted := h.attempts_eq
  constructor
  · rintro ⟨houtput, hkeeps⟩
    have hwritten := h.output_eq_iff.mp houtput
    cases hcopy : Outbox.spooledAt layout target messageId host.disk with
    | none =>
        -- A message that was not there is written down as a first attempt.
        rw [hcopy] at hcounted
        have hnext : (0 : UInt32) + 1 = found.attempts + 1 := hcounted.symm.trans hwritten
        exact absurd ((UInt32.add_left_inj 1).mp hnext).symm hattempts
    | some copy =>
        rw [hcopy] at hcounted
        exact ⟨copy, rfl, hcounted.symm.trans hwritten,
          h.keepsSpooled_iff.mp hkeeps copy hcopy⟩
  · rintro ⟨copy, hcopy, hcount, hsame⟩
    rw [hcopy] at hcounted
    constructor
    · exact h.output_eq_iff.mpr (hcounted.trans hcount)
    · rw [h.keepsSpooled_iff, hcopy]
      rintro _ ⟨⟩
      exact hsame

end Redelivers

/-! ## Messages that wait -/

/-- Whether a message waits in one outbox only, with nothing in the way, and its chat is registered
with a kind. -/
structure Waits (layout : Layout) (source kind : ChatKind) (waiting : Spooled) (d : Disk) :
    Prop where
  ready : IsReady layout waiting.message.messageId d
  validMessage : Identifier.isValid waiting.message.messageId = true
  fits : ¬ waiting.message.payload.IsOverlong
  spooledAt_eq : Outbox.spooledAt layout source waiting.message.messageId d = some waiting
  absent : ∀ other ≠ source,
    d.look (Place.spooled (layout.place d) other waiting.message.messageId) = none
  chat : ∃ entry, registered layout d waiting.message.chatId = some entry ∧
    entry.connection.kind = kind

variable {source kind : ChatKind} {waiting : Spooled}

/-- A new message waits once it is sent, in the outbox for the kind of its chat. -/
theorem waits_of_send {arguments : SendArguments} {message : Outgoing} {start : Host}
    {entry : Registration}
    (hrouted : routedBy layout (.send arguments) host = some (.send, message, start))
    (hready : IsReady layout message.messageId host.disk)
    (hchat : registered layout host.disk message.chatId = some entry)
    (hid : Identifier.isValid message.messageId = true) (hfits : ¬ message.payload.IsOverlong)
    (hnew : ∀ kind, host.disk.look (Place.spooled (layout.place host.disk) kind
      message.messageId) = none) (notifications : Bool) :
    ∃ after waiting, execute ⟨layout, notifications⟩ (.send arguments) host = (.ok (), after) ∧
      waiting.attempts = 1 ∧ waiting.message = Outbox.prepared entry.connection.kind message ∧
      Waits layout entry.connection.kind entry.connection.kind waiting after.disk := by
  obtain ⟨after, hexecute, hafter, hothers, ⟨waiting, hwaiting, hattempts, hmessage⟩, updated,
    hupdated, hkind⟩ := sends_of_isReady hrouted hready hchat hid hfits (hnew _) notifications
  have hname : waiting.message.messageId = message.messageId := by
    rw [hmessage, Outbox.prepared_messageId]
  refine ⟨after, waiting, hexecute, hattempts, hmessage, ?_⟩
  constructor
  · rw [hname]
    exact hafter
  · rw [hname]
    exact hid
  · rw [hmessage, Outbox.prepared_payload]
    exact hfits
  · rw [hname]
    exact hwaiting
  · intro other hne
    rw [hname, hothers.place_eq, hothers.look_spooled (fun hown => hne hown.1.symm)]
    exact hnew other
  · rw [hmessage, Outbox.prepared_chatId]
    exact ⟨updated, hupdated, hkind⟩

/-- A message stays where it waits when its chat is registered again. -/
theorem Waits.register (h : Waits layout source kind waiting host.disk)
    {arguments : AddChatArguments} (hchat : arguments.chat = waiting.message.chatId)
    (hid : Identifier.isValid arguments.chat = true) (notifications : Bool) :
    ∃ after, execute ⟨layout, notifications⟩ (.addChat arguments) host = (.ok (), after) ∧
      Waits layout source (if arguments.group then .group else .direct) waiting after.disk := by
  obtain ⟨entry, hentry, -⟩ := h.chat
  obtain ⟨after, hexecute, hready, houtboxes, changed, hchanged, hkind⟩ :=
    kind_of_register h.ready hid (.inl ⟨entry, hentry⟩) notifications
  refine ⟨after, hexecute, ?_⟩
  constructor
  · exact hready
  · exact h.validMessage
  · exact h.fits
  · rw [houtboxes.spooledAt_eq]
    exact h.spooledAt_eq
  · intro other hne
    rw [houtboxes.place_eq, houtboxes.look_spooled]
    exact h.absent other hne
  · rw [← hchat]
    exact ⟨changed, hchanged, hkind⟩

theorem Waits.find_eq (h : Waits layout source kind waiting host.disk) :
    Outbox.find layout host.disk waiting.message.messageId = .ok (some waiting) := by
  apply Outbox.find_of_spooledAt h.validMessage _ h.spooledAt_eq h.absent
  intro other
  exact (h.ready.spooledDraft other).toOpens.of_draft
    (Identifier.isPiece_of_isValid h.validMessage)

theorem Waits.spooledAt_of_ne (h : Waits layout source kind waiting host.disk)
    (hne : kind ≠ source) :
    Outbox.spooledAt layout kind waiting.message.messageId host.disk = none := by
  rw [Outbox.spooledAt, h.absent kind hne]
  rfl

theorem Waits.messageId_eq (h : Waits layout source kind waiting host.disk) {other : ChatKind}
    {spooled : Spooled} (hspooled : Outbox.spooledAt layout other waiting.message.messageId
      host.disk = some spooled) : spooled.message.messageId = waiting.message.messageId := by
  by_cases hown : other = source
  · subst hown
    obtain rfl : waiting = spooled := Option.some.inj (h.spooledAt_eq.symm.trans hspooled)
    rfl
  · rw [Outbox.spooledAt, h.absent other hown] at hspooled
    cases hspooled

/-- A retry finds the message that waits, and puts it into the outbox for the kind of its chat. -/
theorem Waits.eq_of_redelivers (h : Waits layout source kind waiting host.disk)
    (hredelivers : Redelivers layout waiting.message.messageId target found written host after) :
    target = kind ∧ found = waiting := by
  obtain rfl : found = waiting :=
    Option.some.inj (Except.ok.inj (hredelivers.find_eq.symm.trans h.find_eq))
  obtain ⟨entry, hentry, rfl⟩ := h.chat
  obtain ⟨connection, hconnection, rfl⟩ := hredelivers.kind_eq
  obtain ⟨registration, hregistration, hsame⟩ := bind_eq_ok hconnection
  obtain rfl : registration = entry :=
    Option.some.inj ((registered_of_registration hregistration).symm.trans hentry)
  obtain rfl : registration.connection = connection := Except.ok.inj hsame
  exact ⟨rfl, rfl⟩

/-- A message that waits is retried. What is written down counts its attempts if it waits in the
outbox for the kind that its chat has now, and is a first attempt otherwise. -/
theorem Waits.retry (h : Waits layout source kind waiting host.disk) (notifications : Bool) :
    ∃ after written,
      execute ⟨layout, notifications⟩ (.retry waiting.message.messageId) host = (.ok (), after) ∧
      Redelivers layout waiting.message.messageId kind waiting written host after ∧
      written.attempts = if kind = source then saturatingSucc waiting.attempts else 1 := by
  have hrouted : routedBy layout (.retry waiting.message.messageId) host =
      some (.retry, waiting.message, host) := by
    rw [routedBy, h.find_eq]
  have hroute : (route layout .retry waiting.message host).1 = .ok () := by
    obtain ⟨entry, hentry, rfl⟩ := h.chat
    apply route_of_isReady h.ready hentry h.validMessage h.fits
    · intro hunreadable
      by_cases hown : entry.connection.kind = source
      · rw [hown] at hunreadable
        cases h.spooledAt_eq.symm.trans hunreadable
      · exact h.absent _ hown
    · rintro ⟨⟩
  obtain ⟨after, hexecute⟩ : ∃ after, execute ⟨layout, notifications⟩
      (.retry waiting.message.messageId) host = (.ok (), after) :=
    ⟨_, Prod.ext ((execute_of_routedBy notifications hrouted).result_eq.trans hroute) rfl⟩
  obtain ⟨target, found, written, hredelivers⟩ :=
    redelivers_of_retry (fun _ _ hspooled => h.messageId_eq hspooled) hexecute
  obtain ⟨rfl, rfl⟩ := h.eq_of_redelivers hredelivers
  refine ⟨after, written, hexecute, hredelivers, ?_⟩
  rw [hredelivers.attempts_eq]
  split
  next hown =>
    rw [hown, h.spooledAt_eq]
    rfl
  next hother =>
    rw [h.spooledAt_of_ne hother]
    rfl

/-! ## Data folders in use -/

/-- In a data folder without files at first that is only used by commands, a retry that succeeds
puts the message that it found into the outbox for the kind of its chat and touches nothing else
there. It is faithful as long as it found the message in this outbox, and in general if this outbox
held the same message with as many attempts, and only then. -/
theorem retry_redelivers {before d : Disk}
    (hbefore : IsFileless (layout.place before) before.look)
    (hrun : Run layout (layout.prepare before).1 d) (hfolder : IsSameFolder layout d host.disk)
    (hretry : execute ⟨layout, notifications⟩ (.retry messageId) host = (.ok (), after)) :
    ∃ target found written, Redelivers layout messageId target found written host after ∧
      (Outbox.spooledAt layout target messageId host.disk = some found →
        found.attempts.toNat < UInt32.size - 1 →
          IsFaithful layout messageId written host after) ∧
      (IsFaithful layout messageId written host after ↔
        ∃ copy, Outbox.spooledAt layout target messageId host.disk = some copy ∧
          saturatingSucc copy.attempts = found.attempts + 1 ∧
          copy.message.chatId = found.message.chatId ∧
          copy.message.payload = found.message.payload) := by
  have hopened := DataFolder.isFileless_prepare layout hbefore
  rw [← DataFolder.place_prepare layout before] at hopened
  have hkept := hrun.isKept hopened
  have horderly : DataFolder.IsOrderly (layout.place host.disk) (layout.prepare before).1.look
      host.disk.look := by
    rw [hfolder.place_eq, hkept.place_eq]
    apply hkept.isOrderly.congr
    intro q hq
    rw [← hkept.place_eq] at hq
    exact hfolder.look_eq q hq
  obtain ⟨target, found, written, hredelivers⟩ :=
    redelivers_of_retry (fun _ _ hspooled => (horderly.of_spooledIn hspooled).1) hretry
  obtain ⟨kind, hfound⟩ := hredelivers.found_in
  have hcounted := (horderly.of_spooledIn hfound).2
  have hfaithful := hredelivers.isFaithful_iff fun hnone => by
    rw [hnone] at hcounted
    cases hcounted
  refine ⟨target, found, written, hredelivers, ?_, hfaithful⟩
  intro hin hbound
  exact hfaithful.mpr ⟨found, hin, if_neg (Nat.ne_of_lt hbound), rfl, rfl⟩

/-- A message is sent to the direct chat of a fresh data folder. -/
def sentMessage : Except Failure Unit × Host :=
  execute ⟨⟨⟨"/data"⟩⟩, true⟩ (.send { chat := "a", text := some "hi", messageId := some "m" })
    freshChat.2

theorem isReady_freshHost : IsReady ⟨⟨"/data"⟩⟩ "m" freshHost.disk :=
  isReady_of_placeOfFile (by decide) (by decide +kernel) (by decide +kernel)
    fun kind => by cases kind <;> decide +kernel

theorem waits_sentMessage : ∃ waiting : Spooled, waiting.attempts = 1 ∧
    waiting.message = { chatId := "a", messageId := "m", payload := .text "hi" } ∧
    Waits ⟨⟨"/data"⟩⟩ .direct .direct waiting sentMessage.2.disk := by
  obtain ⟨chatted, hchatted, hready, houtboxes, entry, hentry, hkind⟩ :=
    @kind_of_register ⟨⟨"/data"⟩⟩ "a" "m" freshHost { chat := "a", name := "A" } isReady_freshHost
      (by decide) (.inr rfl) true
  have hempty : ∀ kind, chatted.disk.look
      (Place.spooled (Layout.place ⟨⟨"/data"⟩⟩ chatted.disk) kind "m") = none := by
    intro kind
    rw [houtboxes.place_eq, houtboxes.look_spooled]
    cases kind <;> rfl
  obtain ⟨sent, waiting, hsent, hattempts, hmessage, hwaits⟩ :=
    @waits_of_send ⟨⟨"/data"⟩⟩ chatted
      { chat := "a", text := some "hi", messageId := some "m" }
      { chatId := "a", messageId := "m", payload := .text "hi" } _ entry rfl hready hentry
      (by decide) id hempty true
  have hsame : sentMessage = (.ok (), sent) := by
    rw [sentMessage, freshChat, hchatted, hsent]
  rw [hkind] at hmessage hwaits
  rw [hsame]
  exact ⟨waiting, hattempts, hmessage, hwaits⟩

theorem run_sentMessage : Run ⟨⟨"/data"⟩⟩ freshHost.disk sentMessage.2.disk := by
  have hfirst : Run ⟨⟨"/data"⟩⟩ freshHost.disk freshChat.2.disk := by
    rw [freshChat]
    exact .command .start freshHost (.refl _ _) true _
  rw [sentMessage]
  exact .command hfirst freshChat.2 (.refl _ _) true _

theorem retry_redelivers_sent : ∃ after found written,
    execute ⟨⟨⟨"/data"⟩⟩, true⟩ (.retry "m") sentMessage.2 = (.ok (), after) ∧
    Redelivers ⟨⟨"/data"⟩⟩ "m" .direct found written sentMessage.2 after ∧
    written.attempts.toNat = 2 ∧ IsFaithful ⟨⟨"/data"⟩⟩ "m" written sentMessage.2 after := by
  have hfileless : IsFileless (Layout.place ⟨⟨"/data"⟩⟩ { root := .empty, current := [] })
      (Disk.look { root := .empty, current := [] }) := by
    have hplace : Layout.place ⟨⟨"/data"⟩⟩ { root := .empty, current := [] } = ["data"] := by
      decide +kernel
    rw [hplace]
    rintro _ content ⟨more, rfl⟩ hfile
    cases hfile
  have hrun := run_sentMessage
  obtain ⟨waiting, hattempts, hmessage, hwaits⟩ := waits_sentMessage
  have hname : waiting.message.messageId = "m" := by rw [hmessage]
  -- How the host came about does not matter from here on.
  generalize sentMessage.2 = sent at *
  obtain ⟨after, -, hretry, -⟩ := hwaits.retry true
  obtain ⟨target, found, written, hredelivers, hfaithful, -⟩ :=
    retry_redelivers hfileless hrun (.refl _ _) hretry
  obtain ⟨rfl, rfl⟩ := hwaits.eq_of_redelivers hredelivers
  have hcounted := hredelivers.attempts_eq
  rw [hwaits.spooledAt_eq, Option.map_some, Option.getD_some, hattempts] at hcounted
  have hthere := hfaithful hwaits.spooledAt_eq (by rw [hattempts]; decide)
  rw [hname] at hretry hredelivers hthere
  exact ⟨after, found, written, hretry, hredelivers, by rw [hcounted]; decide, hthere⟩

/-- The chat is registered again, as a group. -/
def regroupedChat : Except Failure Unit × Host :=
  execute ⟨⟨⟨"/data"⟩⟩, true⟩ (.addChat { chat := "a", name := "A", group := true }) sentMessage.2

theorem waits_regroupedChat : ∃ waiting : Spooled, waiting.attempts = 1 ∧
    waiting.message = { chatId := "a", messageId := "m", payload := .text "hi" } ∧
    Waits ⟨⟨"/data"⟩⟩ .direct .group waiting regroupedChat.2.disk := by
  obtain ⟨waiting, hattempts, hmessage, hsent⟩ := waits_sentMessage
  obtain ⟨regrouped, hregrouped, hwaits⟩ :=
    @Waits.register _ _ _ _ _ hsent { chat := "a", name := "A", group := true }
      (by rw [hmessage]) (by decide) true
  have hsame : regroupedChat = (.ok (), regrouped) := by
    rw [regroupedChat, hregrouped]
  rw [hsame]
  exact ⟨waiting, hattempts, hmessage, hwaits⟩

theorem run_regroupedChat : Run ⟨⟨"/data"⟩⟩ freshHost.disk regroupedChat.2.disk := by
  rw [regroupedChat]
  exact .command run_sentMessage sentMessage.2 (.refl _ _) true _

/-- The retry tells of a second attempt, but whatever is in an outbox afterwards tells of one. -/
theorem retry_misreports_regrouped : ∃ after,
    Run ⟨⟨"/data"⟩⟩ freshHost.disk regroupedChat.2.disk ∧
    execute ⟨⟨⟨"/data"⟩⟩, true⟩ (.retry "m") regroupedChat.2 = (.ok (), after) ∧
    after.output = regroupedChat.2.output ++ "m (attempt 2)" ++ "\n" ∧
    Outbox.spooledAt ⟨⟨"/data"⟩⟩ .group "m" regroupedChat.2.disk = none ∧
    ∀ kind, ∃ spooled, Outbox.spooledAt ⟨⟨"/data"⟩⟩ kind "m" after.disk = some spooled ∧
      spooled.attempts.toNat = 1 := by
  have hrun := run_regroupedChat
  obtain ⟨waiting, hattempts, hmessage, hwaits⟩ := waits_regroupedChat
  have hname : waiting.message.messageId = "m" := by rw [hmessage]
  generalize regroupedChat.2 = regrouped at *
  obtain ⟨after, written, hretry, hredelivers, hfirst⟩ := hwaits.retry true
  have hnone := hwaits.spooledAt_of_ne (by decide)
  have houtput := hredelivers.output_eq
  have hgroup := hredelivers.spooledAt_eq
  have hdirect : Outbox.spooledAt ⟨⟨"/data"⟩⟩ .direct waiting.message.messageId after.disk =
      some waiting :=
    (hredelivers.keepsOthers.spooledAt_eq (by simp)).trans hwaits.spooledAt_eq
  rw [hname] at hretry hnone houtput hgroup hdirect
  refine ⟨after, hrun, hretry, ?_, hnone, ?_⟩
  · rw [houtput, hattempts]
    rfl
  · intro kind
    cases kind with
    | direct => exact ⟨waiting, hdirect, by rw [hattempts]; rfl⟩
    | group => exact ⟨written, hgroup, by rw [hfirst]; rfl⟩

end Courier.Command
