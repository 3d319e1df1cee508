import Courier.Proofs.Store.Outbox

/-!
# Counting attempts

Messages are sent and retried through both outboxes, a transport takes files away, and others do
what they want outside of the outboxes, in any order. A callback may do all of this too. A message
is in an outbox if it was put there since its file was last taken away, and the file tells how
often.
-/

namespace Courier.Outbox

variable {layout : Layout} {kind : ChatKind} {mode : DeliveryMode} {message : Outgoing}
  {messageId : String} {host : Host} {first d after : Disk}

/-! ## Deeds -/

/-- What was done with the outboxes. -/
inductive Deed
  /-- A message was sent or retried. -/
  | call (kind : ChatKind) (mode : DeliveryMode) (message : Outgoing) (succeeded : Bool)
  /-- A file was taken away. -/
  | deletion (kind : ChatKind) (name : String)

/-- The messages that were put under an identifier since its file was last taken away, after one
more deed. -/
def Deed.note (kind : ChatKind) (messageId : String) (calls : List Outgoing) : Deed → List Outgoing
  | .call kind' _ message succeeded =>
    if succeeded ∧ kind' = kind ∧ message.messageId = messageId then calls ++ [message] else calls
  | .deletion kind' name => if kind' = kind ∧ name = messageId ++ ".toml" then [] else calls

/-- The messages that were put under an identifier since its file was last taken away. -/
def callsSinceDeletion (kind : ChatKind) (messageId : String) (deeds : List Deed) :
    List Outgoing :=
  deeds.foldl (Deed.note kind messageId) []

/-- Whether a disk is another one without one file in an outbox. -/
structure Deletes (layout : Layout) (kind : ChatKind) (name : String) (d after : Disk) : Prop where
  keeps : d.Keeps after
  look_eq : after.look (Place.outbox (layout.place d) kind ++ [name]) = none
  look_of_ne : ∀ more,
    layout.place d ++ "outbox" :: more ≠ Place.outbox (layout.place d) kind ++ [name] →
      after.look (layout.place d ++ "outbox" :: more) =
        d.look (layout.place d ++ "outbox" :: more)

/-- What can be done one after another, and what of it concerns the outboxes. -/
inductive Run (layout : Layout) : Disk → List Deed → Disk → Prop
  | nil (d : Disk) : Run layout d [] d
  /-- A message is sent or retried. What the callback does, if there is one, comes after that. -/
  | call {first : Disk} {deeds nested : List Deed} (kind : ChatKind) (mode : DeliveryMode)
      (message : Outgoing) (callback : Option (Delivery.Callback Host)) (host : Host)
      (hrun : Run layout first deeds host.disk)
      (hnested : Run layout (aboutToReport layout kind mode message host).disk nested
        (deliver layout kind mode message callback host).2.disk) :
      Run layout first
        (deeds ++ .call kind mode message (deliver layout kind mode message callback host).1.isOk ::
          nested)
        (deliver layout kind mode message callback host).2.disk
  | deletion {first d after : Disk} {deeds : List Deed} {kind : ChatKind} {name : String}
      (hrun : Run layout first deeds d) (hdeletes : Deletes layout kind name d after) :
      Run layout first (deeds ++ [.deletion kind name]) after
  | outside {first d after : Disk} {deeds : List Deed} (hrun : Run layout first deeds d)
      (hkeeps : d.Keeps after) (houtboxes : KeepsOutboxes layout d after) :
      Run layout first deeds after

/-! ## One call -/

theorem isOk_deliver (callback : Option (Delivery.Callback Host)) :
    (deliver layout kind mode message callback host).1.isOk =
      (put layout kind mode message (host.clock host.clockReadings) host.disk).2.isOk := by
  rw [deliver_eq]
  cases (put layout kind mode message (host.clock host.clockReadings) host.disk).2 <;> rfl

/-- A call puts its message into its outbox or does nothing. -/
theorem aboutToReport_cases (layout : Layout) (kind : ChatKind) (mode : DeliveryMode)
    (message : Outgoing) (callback : Option (Delivery.Callback Host)) (host : Host) :
    (deliver layout kind mode message callback host).1.isOk = false ∧
        (aboutToReport layout kind mode message host).disk = host.disk ∨
      (deliver layout kind mode message callback host).1.isOk = true ∧ ∃ attempts,
        HandsOver layout kind mode message (host.clock host.clockReadings) host.disk attempts
          (aboutToReport layout kind mode message host).disk := by
  have hdisk : (aboutToReport layout kind mode message host).disk =
      (put layout kind mode message (host.clock host.clockReadings) host.disk).1 := rfl
  rw [isOk_deliver, hdisk]
  cases hput : put layout kind mode message (host.clock host.clockReadings) host.disk with
  | mk handed answer =>
      rcases put_cases hput with ⟨⟨error, rfl⟩, rfl⟩ | ⟨attempts, rfl, hhands⟩
      · exact .inl ⟨rfl, rfl⟩
      · exact .inr ⟨rfl, attempts, hhands⟩

/-! ## What the files tell -/

/-- Whether the outbox tells of these messages under an identifier: nothing if there are none, else
the last of them and how many they are. -/
structure Tells (layout : Layout) (kind : ChatKind) (messageId : String) (calls : List Outgoing)
    (d : Disk) : Prop where
  absent : calls = [] → d.look (Place.spooled (layout.place d) kind messageId) = none
  present : ∀ last, calls.getLast? = some last →
    d.Opens (layout.outbox kind) (messageId ++ ".toml") ∧ Path.IsPiece messageId ∧
      ∃ spooled, spooledIn (d.look (Place.spooled (layout.place d) kind messageId)) =
          some spooled ∧
        spooled.attempts.toNat = min (UInt32.size - 1) calls.length ∧
        spooled.message = prepared kind last

theorem Tells.keeps {calls : List Outgoing} (h : Tells layout kind messageId calls d)
    (hkeeps : d.Keeps after)
    (hsame : after.look (Place.spooled (layout.place d) kind messageId) =
      d.look (Place.spooled (layout.place d) kind messageId)) :
    Tells layout kind messageId calls after := by
  have hplace := layout.place_of_keeps hkeeps
  constructor
  · intro hnil
    rw [hplace, hsame]
    exact h.absent hnil
  · intro last hlast
    obtain ⟨hopens, hpiece, hspooled⟩ := h.present last hlast
    rw [hplace, hsame]
    exact ⟨hkeeps.opens hopens, hpiece, hspooled⟩

/-- One more message is told of as one more attempt. -/
theorem Tells.concat {calls : List Outgoing} {now : Instant} {attempts : UInt32}
    (h : Tells layout kind message.messageId calls d)
    (hhands : HandsOver layout kind mode message now d attempts after) :
    Tells layout kind message.messageId (calls ++ [message]) after := by
  have hplace := layout.place_of_keeps hhands.keeps
  have hpiece := Identifier.isPiece_of_isValid hhands.validMessage
  have hcount : attempts.toNat = min (UInt32.size - 1) (calls.length + 1) := by
    rw [hhands.attempts_eq, toNat_saturatingSucc]
    cases hlast : calls.getLast? with
    | none =>
        obtain rfl := List.getLast?_eq_none_iff.mp hlast
        rw [h.absent rfl]
        rfl
    | some last =>
        obtain ⟨-, -, spooled, hspooled, hattempts, -⟩ := h.present last hlast
        rw [hspooled, Option.map_some, Option.getD_some, hattempts]
        omega
  constructor
  · intro hnil
    exact absurd hnil (List.append_ne_nil_of_right_ne_nil _ (List.cons_ne_nil _ _))
  · intro last hlast
    rw [List.getLast?_concat] at hlast
    obtain rfl := Option.some.inj hlast
    rw [hplace, List.length_append, List.length_singleton]
    exact ⟨hhands.keeps.opens (hhands.opens_draft.of_draft hpiece), hpiece, _,
      hhands.spooledIn_eq, hcount, rfl⟩

/-! ## What each deed does -/

/-- A call is told of if it succeeded. -/
theorem tells_of_call {calls : List Outgoing} {kind' : ChatKind} {messageId' : String}
    (callback : Option (Delivery.Callback Host))
    (h : Tells layout kind' messageId' calls host.disk) :
    Tells layout kind' messageId'
      (Deed.note kind' messageId' calls (.call kind mode message
        (deliver layout kind mode message callback host).1.isOk))
      (aboutToReport layout kind mode message host).disk := by
  rcases aboutToReport_cases layout kind mode message callback host with
    ⟨hfailed, hsame⟩ | ⟨hok, attempts, hhands⟩
  · rw [Deed.note, hfailed, hsame, if_neg (by simp)]
    exact h
  · rw [Deed.note, hok]
    by_cases hown : kind = kind' ∧ message.messageId = messageId'
    · obtain ⟨rfl, rfl⟩ := hown
      rw [if_pos ⟨rfl, rfl, rfl⟩]
      exact h.concat hhands
    · rw [if_neg fun hnoted => hown hnoted.2]
      exact h.keeps hhands.keeps (hhands.keepsOthers.look_spooled hown)

theorem tells_of_deletion {calls : List Outgoing} {kind' : ChatKind} {name : String}
    (hdeletes : Deletes layout kind' name d after) (h : Tells layout kind messageId calls d) :
    Tells layout kind messageId (Deed.note kind messageId calls (.deletion kind' name)) after := by
  have hplace := layout.place_of_keeps hdeletes.keeps
  rw [Deed.note]
  split
  next hown =>
    obtain ⟨rfl, rfl⟩ := hown
    constructor
    · intro _
      rw [hplace]
      exact hdeletes.look_eq
    · rintro last ⟨⟩
  next hother =>
    apply h.keeps hdeletes.keeps
    rw [Place.spooled_eq]
    apply hdeletes.look_of_ne
    intro heq
    simp only [Place.outbox, List.append_assoc, List.append_cancel_left_eq, List.cons_append,
      List.nil_append, List.cons.injEq, and_true, true_and] at heq
    exact hother ⟨(ChatKind.word_injective heq.1).symm, heq.2.symm⟩

/-- After any deeds the outboxes tell of the messages that were put there since the last
deletion. -/
theorem Run.tells {deeds : List Deed} (h : Run layout first deeds d) :
    first.Keeps d ∧ ∀ kind messageId calls, Tells layout kind messageId calls first →
      Tells layout kind messageId (deeds.foldl (Deed.note kind messageId) calls) d := by
  induction h with
  | nil d => exact ⟨.refl d, fun _ _ _ htells => htells⟩
  | @call first deeds nested kind mode message callback host hrun hnested ihrun ihnested =>
      constructor
      · have hput : host.disk.Keeps (aboutToReport layout kind mode message host).disk := by
          rcases aboutToReport_cases layout kind mode message callback host with
            ⟨-, hsame⟩ | ⟨-, attempts, hhands⟩
          · rw [hsame]
            exact .refl _
          · exact hhands.keeps
        exact (ihrun.1.trans hput).trans ihnested.1
      · intro kind' messageId calls htells
        rw [List.foldl_append, List.foldl_cons]
        exact ihnested.2 _ _ _ (tells_of_call callback (ihrun.2 _ _ _ htells))
  | deletion hrun hdeletes ih =>
      refine ⟨ih.1.trans hdeletes.keeps, ?_⟩
      intro kind messageId calls htells
      rw [List.foldl_append, List.foldl_cons, List.foldl_nil]
      exact tells_of_deletion hdeletes (ih.2 _ _ _ htells)
  | outside hrun hkeeps houtboxes ih =>
      refine ⟨ih.1.trans hkeeps, ?_⟩
      intro kind messageId calls htells
      exact (ih.2 _ _ _ htells).keeps hkeeps (houtboxes.look_spooled _ _)

/-! ## Bookkeeping -/

/-- What the outbox holds under an identifier once these messages were put there since the last
deletion: a file if there are any, and that reads as the last of them and tells their number. -/
structure IsBooked (layout : Layout) (kind : ChatKind) (messageId : String)
    (calls : List Outgoing) (d : Disk) : Prop where
  exists_iff : (∃ content, d.look (Place.spooled (layout.place d) kind messageId) =
    some (.file content)) ↔ calls ≠ []
  absent : calls = [] → d.look (Place.spooled (layout.place d) kind messageId) = none
  read_eq : ∀ last, calls.getLast? = some last → ∃ spooled,
    read d (Layout.messageFile (layout.outbox kind) messageId) = .ok (some spooled) ∧
      spooled.attempts.toNat = min (UInt32.size - 1) calls.length ∧
      spooled.message = prepared kind last

theorem Tells.isBooked {calls : List Outgoing} (h : Tells layout kind messageId calls d) :
    IsBooked layout kind messageId calls d := by
  constructor
  · constructor
    · rintro ⟨content, hfile⟩ hnil
      cases hfile.symm.trans (h.absent hnil)
    · intro hne
      obtain ⟨-, -, spooled, hspooled, -⟩ := h.present _ (List.getLast?_eq_some_getLast hne)
      cases hnode : d.look (Place.spooled (layout.place d) kind messageId) with
      | none => cases (congrArg spooledIn hnode).symm.trans hspooled
      | some node =>
          cases node with
          | file content => exact ⟨content, rfl⟩
          | folder => cases (congrArg spooledIn hnode).symm.trans hspooled
  · exact h.absent
  · intro last hlast
    obtain ⟨hopens, hpiece, spooled, hspooled, hattempts, hmessage⟩ := h.present last hlast
    exact ⟨spooled, (read_messageFile_eq_some_iff hpiece).mpr ⟨hopens, hspooled⟩, hattempts,
      hmessage⟩

/-- What a call does with the outboxes before it calls its callback, which is the last that it
does. -/
structure IsConfined (layout : Layout) (kind : ChatKind) (mode : DeliveryMode)
    (message : Outgoing) (callback : Option (Delivery.Callback Host)) (host : Host) : Prop where
  reports_last : (deliver layout kind mode message callback host).2 =
    reportTo callback (deliver layout kind mode message callback host).1.isOk
      (aboutToReport layout kind mode message host)
  absent_of_send : mode = .send →
    (deliver layout kind mode message callback host).1.isOk = true →
      host.disk.look (Place.spooled (layout.place host.disk) kind message.messageId) = none
  unchanged_of_failed : (deliver layout kind mode message callback host).1.isOk = false →
    (aboutToReport layout kind mode message host).disk = host.disk
  other_path : ∀ kind' ≠ kind, ∀ more,
    (aboutToReport layout kind mode message host).disk.look
      (Place.outbox (layout.place host.disk) kind' ++ more) =
        host.disk.look (Place.outbox (layout.place host.disk) kind' ++ more)

theorem isConfined (layout : Layout) (kind : ChatKind) (mode : DeliveryMode) (message : Outgoing)
    (callback : Option (Delivery.Callback Host)) (host : Host) :
    IsConfined layout kind mode message callback host := by
  have hlast : (deliver layout kind mode message callback host).2 =
      reportTo callback (deliver layout kind mode message callback host).1.isOk
        (aboutToReport layout kind mode message host) := by
    rw [isOk_deliver, deliver_eq]
  rcases aboutToReport_cases layout kind mode message callback host with
    ⟨hfailed, hsame⟩ | ⟨hok, attempts, hhands⟩
  · refine ⟨hlast, ?_, fun _ => hsame, fun _ _ _ => by rw [hsame]⟩
    intro _ hok
    cases hfailed.symm.trans hok
  · refine ⟨hlast, fun hmode _ => hhands.absent hmode, ?_, ?_⟩
    · intro hfailed
      cases hfailed.symm.trans hok
    · intro kind' hne more
      have hword : kind'.word ≠ kind.word := fun heq => hne (ChatKind.word_injective heq)
      apply hhands.look_of_ne
      · simp [Place.outbox, Place.spooled, hword]
      · simp [Place.outbox, Place.spooledDraft, hword]

/-- A call without a callback ends when its message is in the outbox. -/
theorem Run.call_silently {deeds : List Deed} (h : Run layout first deeds host.disk)
    (kind : ChatKind) (mode : DeliveryMode) (message : Outgoing) :
    Run layout first
      (deeds ++ [.call kind mode message (deliver layout kind mode message none host).1.isOk])
      (deliver layout kind mode message none host).2.disk := by
  apply Run.call kind mode message none host h
  rw [(isConfined layout kind mode message none host).reports_last]
  exact .nil _

/-- Starting with empty outboxes, whatever is done: under every identifier an outbox holds a file
exactly if a call succeeded there since the file was last taken away, and that file tells the number
of these calls and the last of their messages. A message is only sent where no file was, a call that
fails changes nothing, and no call changes the outbox of the other kind. -/
theorem attempts_counted {deeds : List Deed}
    (hempty : ∀ kind name, first.look (Place.outbox (layout.place first) kind ++ [name]) = none)
    (hrun : Run layout first deeds d) :
    (∀ kind messageId,
      IsBooked layout kind messageId (callsSinceDeletion kind messageId deeds) d) ∧
    ∀ kind mode message callback host, IsConfined layout kind mode message callback host := by
  refine ⟨?_, isConfined layout⟩
  intro kind messageId
  have hfirst : Tells layout kind messageId [] first := by
    refine ⟨fun _ => hempty kind (messageId ++ ".toml"), ?_⟩
    rintro last ⟨⟩
  exact (hrun.tells.2 kind messageId [] hfirst).isBooked

/-- A host with empty outboxes. -/
def emptyHost : Host where
  disk :=
    { root := .folder [("data", .folder [("outbox", .folder [("direct", .empty),
        ("group", .empty)])])]
      current := [] }
  clock _ := .ofEpoch 0 0
  random n := n

/-- A message. -/
def parcel : Outgoing :=
  { chatId := "a", messageId := "m", payload := .text "hi" }

/-- The message is sent. -/
def parcelSent : Except DeliveryError Unit × Host :=
  deliver ⟨⟨"/data"⟩⟩ .direct .send parcel none emptyHost

/-- The message is handed over again. -/
def parcelRetried : Except DeliveryError Unit × Host :=
  deliver ⟨⟨"/data"⟩⟩ .direct .retry parcel none parcelSent.2

theorem isOk_parcelSent : parcelSent.1.isOk = true := by
  decide +kernel

/-- What was sent can be handed over again. -/
theorem isOk_parcelRetried : parcelRetried.1.isOk = true := by
  have hsent : parcelSent.2 =
      aboutToReport ⟨⟨"/data"⟩⟩ .direct .send parcel emptyHost :=
    (isConfined ⟨⟨"/data"⟩⟩ .direct .send parcel none emptyHost).reports_last
  rcases aboutToReport_cases ⟨⟨"/data"⟩⟩ .direct .send parcel none emptyHost with
    ⟨hfailed, -⟩ | ⟨-, attempts, hhands⟩
  · cases hfailed.symm.trans isOk_parcelSent
  · rw [← hsent] at hhands
    obtain ⟨again, attempts', hput⟩ :=
      hhands.put_retry (parcelSent.2.clock parcelSent.2.clockReadings)
    rw [parcelRetried, isOk_deliver, hput]
    rfl

theorem attempts_counted_retried :
    parcelSent.1.isOk = true ∧ parcelRetried.1.isOk = true ∧
    Run ⟨⟨"/data"⟩⟩ emptyHost.disk
      [.call .direct .send parcel parcelSent.1.isOk,
        .call .direct .retry parcel parcelRetried.1.isOk] parcelRetried.2.disk ∧
    ∃ spooled, read parcelRetried.2.disk
        (Layout.messageFile (Layout.outbox ⟨⟨"/data"⟩⟩ .direct) "m") = .ok (some spooled) ∧
      spooled.attempts.toNat = 2 ∧ spooled.message = parcel := by
  have hempty : ∀ kind name, emptyHost.disk.look
      (Place.outbox (Layout.place ⟨⟨"/data"⟩⟩ emptyHost.disk) kind ++ [name]) = none := by
    have hplace : Layout.place ⟨⟨"/data"⟩⟩ emptyHost.disk = ["data"] := by decide +kernel
    intro kind name
    rw [hplace]
    cases kind <;> rfl
  have hrun : Run ⟨⟨"/data"⟩⟩ emptyHost.disk
      [.call .direct .send parcel parcelSent.1.isOk,
        .call .direct .retry parcel parcelRetried.1.isOk] parcelRetried.2.disk := by
    have hsent : Run ⟨⟨"/data"⟩⟩ emptyHost.disk [.call .direct .send parcel parcelSent.1.isOk]
        parcelSent.2.disk :=
      Run.call_silently (.nil emptyHost.disk) .direct .send parcel
    exact hsent.call_silently .direct .retry parcel
  refine ⟨isOk_parcelSent, isOk_parcelRetried, hrun, ?_⟩
  have hbooked := (attempts_counted hempty hrun).1 .direct "m"
  rw [isOk_parcelSent, isOk_parcelRetried] at hbooked
  have hcalls : callsSinceDeletion .direct "m" [.call .direct .send parcel true,
      .call .direct .retry parcel true] = [parcel, parcel] := rfl
  rw [hcalls] at hbooked
  obtain ⟨spooled, hread, hattempts, hmessage⟩ := hbooked.read_eq parcel rfl
  refine ⟨spooled, hread, ?_, hmessage⟩
  rw [hattempts]
  decide

end Courier.Outbox
