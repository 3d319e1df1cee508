import Courier.Host.Services
import Courier.Proofs.Store.Local

/-!
# What an outbox does

A message is put into an outbox as a whole or not at all. What is put there has been handed over at
least once, and in the outbox for direct chats it is meant for no single member.
-/

namespace Courier.Outbox

variable {layout : Layout} {kind : ChatKind} {mode : DeliveryMode} {message : Outgoing}
  {now : Instant} {d after : Disk}

theorem prepared_chatId (kind : ChatKind) (message : Outgoing) :
    (prepared kind message).chatId = message.chatId := by
  unfold prepared
  split <;> rfl

theorem prepared_messageId (kind : ChatKind) (message : Outgoing) :
    (prepared kind message).messageId = message.messageId := by
  unfold prepared
  split <;> rfl

theorem prepared_payload (kind : ChatKind) (message : Outgoing) :
    (prepared kind message).payload = message.payload := by
  unfold prepared
  split <;> rfl

theorem prepared_singleRecipient (message : Outgoing) :
    (prepared .direct message).singleRecipient = none := by
  rw [prepared, if_pos rfl]

theorem saturatingSucc_ne_zero (n : UInt32) : saturatingSucc n ≠ 0 := by
  intro h
  have hzero := congrArg UInt32.toNat h
  rw [toNat_saturatingSucc] at hzero
  simp only [UInt32.size, UInt32.toNat_zero] at hzero
  omega

/-- A message that is sent is not there yet. What is put there counts on from what is there. -/
theorem next_eq_ok {present : Option Spooled} {spooled : Spooled}
    (h : next kind mode message now present = .ok spooled) :
    (mode = .send → present = none) ∧
      spooled = { attempts := saturatingSucc ((present.map (·.attempts)).getD 0)
                  spooledAt := now
                  message := prepared kind message } := by
  unfold next at h
  split at h
  · cases h
  next hnew =>
    cases h
    refine ⟨?_, rfl⟩
    rintro rfl
    simpa using hnew

/-! ## Reading -/

/-- The message in a file of an outbox. -/
def spooledIn : Option Node → Option Spooled
  | some (.file content) => ((String.fromUTF8? content).bind Toml.read?).bind Stored.spooled?
  | _ => none

/-- Written messages are found again. -/
theorem spooledIn_write {spooled : Spooled} {t : Toml.Table}
    (h : Stored.spooledTable spooled = .ok t) :
    spooledIn (some (.file (Toml.write t).toUTF8)) = some spooled := by
  rw [spooledIn, fromUTF8?_toUTF8]
  exact Stored.spooled_isReadBack.decode_eq h

section Reading

variable {folder : Path} {name : String}

theorem read_child_eq_ok_iff (hname : Path.IsName name) (hopens : d.Opens folder name)
    {present : Option Spooled} :
    read d (folder.child name) = .ok present ↔
      present = spooledIn (d.look (d.placeOf folder ++ [name])) ∧
        (present = none → d.look (d.placeOf folder ++ [name]) = none) := by
  unfold read
  rw [Disk.readText_child hname hopens]
  cases d.look (d.placeOf folder ++ [name]) with
  | none => simp [Disk.textOf, spooledIn, eq_comm]
  | some node =>
      cases node with
      | folder => simp +contextual [Disk.textOf, spooledIn]
      | file content =>
          rw [Disk.textOf, spooledIn]
          cases String.fromUTF8? content with
          | none => simp +contextual
          | some text =>
              rw [Option.bind_some]
              cases hread : (Toml.read? text).bind Stored.spooled? with
              | none => simp +contextual [hread]
              | some spooled =>
                  simp only [hread, Except.ok.injEq, reduceCtorEq, imp_false]
                  constructor
                  · rintro rfl
                    exact ⟨rfl, Option.some_ne_none spooled⟩
                  · rintro ⟨rfl, -⟩
                    rfl

/-- A message that is read shows that its path can be followed. -/
theorem read_child_eq_some_iff (hname : Path.IsName name) {spooled : Spooled} :
    read d (folder.child name) = .ok (some spooled) ↔
      d.Opens folder name ∧ spooledIn (d.look (d.placeOf folder ++ [name])) = some spooled := by
  constructor
  · intro h
    have hopens : d.Opens folder name := by
      unfold read at h
      cases htext : d.readText (folder.child name) with
      | ok text => exact Disk.readText_child_eq_ok hname htext
      | error e =>
          rw [htext] at h
          cases e <;> cases h
    exact ⟨hopens, ((read_child_eq_ok_iff hname hopens).mp h).1.symm⟩
  · rintro ⟨hopens, hspooled⟩
    exact (read_child_eq_ok_iff hname hopens).mpr ⟨hspooled.symm, by simp⟩

end Reading

/-- What is read shows that no folder stands there. -/
theorem ne_folder_of_read_eq_ok {folder : Path} {name : String} (hname : Path.IsName name)
    (hopens : d.Opens folder name) {present : Option Spooled}
    (h : read d (folder.child name) = .ok present) :
    d.look (d.placeOf folder ++ [name]) ≠ some .folder := by
  intro hfolder
  unfold read at h
  rw [Disk.readText_child hname hopens, hfolder] at h
  cases h

theorem checkId_eq_ok {messageId : String} (h : checkId messageId = .ok ()) :
    Identifier.isValid messageId = true := by
  unfold checkId at h
  split at h
  · assumption
  · cases h

theorem plan_eq_ok {p : Path} {spooled : Spooled} {t : Toml.Table}
    (h : plan layout kind mode message now d = .ok (p, spooled, t)) :
    Identifier.isValid message.messageId = true ∧
      p = (layout.outbox kind).child (message.messageId ++ ".toml") ∧
      (∃ present, read d p = .ok present ∧ next kind mode message now present = .ok spooled) ∧
      Stored.spooledTable spooled = .ok t := by
  unfold plan at h
  obtain ⟨_, hid, hrest⟩ := bind_eq_ok h
  obtain ⟨present, hread, hrest⟩ := bind_eq_ok hrest
  obtain ⟨planned, hnext, hrest⟩ := bind_eq_ok hrest
  cases htable : Stored.spooledTable planned with
  | error e =>
      rw [htable] at hrest
      cases hrest
  | ok written =>
      rw [htable] at hrest
      cases hrest
      exact ⟨checkId_eq_ok hid, rfl, ⟨present, hread, hnext⟩, htable⟩

/-! ## Putting -/

/-- What putting a message into an outbox did if it succeeded. -/
structure Spools (layout : Layout) (kind : ChatKind) (message : Outgoing) (d after : Disk) :
    Prop where
  validMessage : Identifier.isValid message.messageId = true
  stored : ∃ spooled t, Stored.spooledTable spooled = .ok t ∧ spooled.attempts ≠ 0 ∧
    spooled.message = prepared kind message ∧
    d.Replaces (layout.outbox kind) message.messageId (Toml.write t) after

theorem Spools.keeps (h : Spools layout kind message d after) : d.Keeps after := by
  obtain ⟨_, _, _, _, _, hreplaces⟩ := h.stored
  exact hreplaces.keeps

theorem Spools.opens_draft (h : Spools layout kind message d after) :
    d.Opens (layout.outbox kind) (message.messageId ++ ".toml.tmp") := by
  obtain ⟨_, _, _, _, _, hreplaces⟩ := h.stored
  exact hreplaces.opens

/-- Only the message in the outbox is touched, and its draft. -/
theorem Spools.look_of_ne (h : Spools layout kind message d after) {q : List String}
    (hspooled : q ≠ Place.spooled (layout.place d) kind message.messageId)
    (hdraft : q ≠ Place.spooledDraft (layout.place d) kind message.messageId) :
    after.look q = d.look q := by
  obtain ⟨_, _, _, _, _, hreplaces⟩ := h.stored
  rw [Place.spooled, ← layout.placeOf_outbox] at hspooled
  rw [Place.spooledDraft, ← layout.placeOf_outbox] at hdraft
  rw [hreplaces.look_eq, View.set_of_ne _ hspooled, View.set_of_ne _ hdraft]

/-- Outside of the outboxes nothing is touched. -/
theorem Spools.look_outside (h : Spools layout kind message d after) {name : String}
    (hname : name ≠ "outbox") (more : List String) :
    after.look (layout.place d ++ name :: more) = d.look (layout.place d ++ name :: more) := by
  apply h.look_of_ne
  · simp [Place.spooled, Place.outbox, hname]
  · simp [Place.spooledDraft, Place.outbox, hname]

theorem Spools.registryNode_eq (h : Spools layout kind message d after) :
    Store.registryNode layout after = Store.registryNode layout d := by
  rw [Store.registryNode, Store.registryNode, layout.place_of_keeps h.keeps]
  exact h.look_outside (by decide) []

/-- Nothing stands in the way of a file in the data folder that did not before. -/
theorem Spools.admits (h : Spools layout kind message d after) {name : String}
    (hname : name ≠ "outbox") (hadmits : d.Admits layout.dataFolder name) :
    after.Admits layout.dataFolder name :=
  hadmits.keeps h.keeps (.inl (h.look_outside hname []))

theorem Spools.draft_eq (h : Spools layout kind message d after) :
    after.look (Place.spooledDraft (layout.place d) kind message.messageId) = none := by
  obtain ⟨_, _, _, _, _, hreplaces⟩ := h.stored
  rw [Place.spooledDraft, ← layout.placeOf_outbox, hreplaces.look_eq, View.set_of_ne _ (by simp),
    View.set_self]

theorem Spools.written (h : Spools layout kind message d after) :
    ∃ spooled t, Stored.spooledTable spooled = .ok t ∧ spooled.attempts ≠ 0 ∧
      spooled.message = prepared kind message ∧
      after.look (Place.spooled (layout.place d) kind message.messageId) =
        some (.file (Toml.write t).toUTF8) := by
  obtain ⟨spooled, t, htable, hattempts, hmessage, hreplaces⟩ := h.stored
  refine ⟨spooled, t, htable, hattempts, hmessage, ?_⟩
  rw [Place.spooled, ← layout.placeOf_outbox, hreplaces.look_eq, View.set_self]

/-- What putting a message into an outbox did if it succeeded, told by what the outbox held of the
message and what it holds now. -/
structure HandsOver (layout : Layout) (kind : ChatKind) (mode : DeliveryMode) (message : Outgoing)
    (now : Instant) (d : Disk) (attempts : UInt32) (after : Disk) : Prop
    extends Spools layout kind message d after where
  /-- What was there could be read. -/
  readable : spooledIn (d.look (Place.spooled (layout.place d) kind message.messageId)) = none →
    d.look (Place.spooled (layout.place d) kind message.messageId) = none
  absent : mode = .send →
    d.look (Place.spooled (layout.place d) kind message.messageId) = none
  attempts_eq : attempts = saturatingSucc
    (((spooledIn (d.look (Place.spooled (layout.place d) kind message.messageId))).map
      (·.attempts)).getD 0)
  spooledIn_eq : spooledIn (after.look (Place.spooled (layout.place d) kind message.messageId)) =
    some { attempts, spooledAt := now, message := prepared kind message }

theorem handsOver_of_replaces {present : Option Spooled} {spooled : Spooled} {t : Toml.Table}
    (hid : Identifier.isValid message.messageId = true)
    (hread : read d ((layout.outbox kind).child (message.messageId ++ ".toml")) = .ok present)
    (hnext : next kind mode message now present = .ok spooled)
    (htable : Stored.spooledTable spooled = .ok t)
    (hreplaces : d.Replaces (layout.outbox kind) message.messageId (Toml.write t) after) :
    HandsOver layout kind mode message now d spooled.attempts after := by
  obtain ⟨hsend, rfl⟩ := next_eq_ok hnext
  have hpiece := Identifier.isPiece_of_isValid hid
  have hplace : d.placeOf (layout.outbox kind) ++ [message.messageId ++ ".toml"] =
      Place.spooled (layout.place d) kind message.messageId := by
    rw [layout.placeOf_outbox, Place.spooled]
  obtain ⟨hpresent, habsent⟩ := (read_child_eq_ok_iff (Disk.isName_document hpiece)
    (hreplaces.opens.of_draft hpiece)).mp hread
  rw [hplace] at hpresent habsent
  have hspools : Spools layout kind message d after :=
    ⟨hid, _, t, htable, saturatingSucc_ne_zero _, rfl, hreplaces⟩
  constructor
  · exact hspools
  · intro hnone
    exact habsent (hpresent.trans hnone)
  · intro hmode
    exact habsent (hsend hmode)
  · rw [← hpresent]
  · rw [← hplace, hreplaces.look_eq, View.set_self]
    exact spooledIn_write htable

theorem put_cases {result : Except DeliveryError UInt32}
    (h : put layout kind mode message now d = (after, result)) :
    (∃ error, result = .error error) ∧ after = d ∨
      ∃ attempts, result = .ok attempts ∧
        HandsOver layout kind mode message now d attempts after := by
  unfold put at h
  cases hplan : plan layout kind mode message now d with
  | error e =>
      rw [hplan] at h
      cases h
      exact .inl ⟨⟨e, rfl⟩, rfl⟩
  | ok planned =>
      obtain ⟨p, spooled, t⟩ := planned
      obtain ⟨hid, rfl, ⟨present, hread, hnext⟩, htable⟩ := plan_eq_ok hplan
      have hpiece := Identifier.isPiece_of_isValid hid
      rw [hplan] at h
      dsimp only at h
      cases hreplace : d.replace ((layout.outbox kind).child (message.messageId ++ ".toml"))
          (Toml.write t) with
      | mk written answer =>
          rw [hreplace] at h
          rcases Disk.replace_child_cases hpiece _ hreplace with
            ⟨rfl, hreplaces⟩ | ⟨⟨e, rfl⟩, rfl | ⟨hfolder, hopens, -⟩⟩
          · cases h
            exact .inr ⟨_, rfl, handsOver_of_replaces hid hread hnext htable hreplaces⟩
          · cases h
            exact .inl ⟨⟨_, rfl⟩, rfl⟩
          · exact absurd hfolder (ne_folder_of_read_eq_ok (Disk.isName_document hpiece)
              (hopens.of_draft hpiece) hread)

/-! ## Refusing -/

/-- The document of a message that was handed over once more than what is there tells. -/
def counted (kind : ChatKind) (message : Outgoing) (now : Instant) (present : Option Spooled) :
    Spooled where
  attempts := saturatingSucc ((present.map (·.attempts)).getD 0)
  spooledAt := now
  message := prepared kind message

theorem next_eq_counted {present : Option Spooled} (hnew : mode = .send → present = none) :
    next kind mode message now present = .ok (counted kind message now present) := by
  have hsend : ¬ (mode = .send && present.isSome) = true := by
    intro hboth
    obtain ⟨hmode, hsome⟩ : mode = .send ∧ present.isSome = true := by simpa using hboth
    rw [hnew hmode] at hsome
    cases hsome
  exact if_neg hsend

/-- Why an outbox refuses a message. -/
inductive Refuses (layout : Layout) (kind : ChatKind) (mode : DeliveryMode) (message : Outgoing)
    (now : Instant) (d : Disk) : DeliveryError → Prop
  | invalid (hid : Identifier.isValid message.messageId = false) :
    Refuses layout kind mode message now d
      (.rejected (StoreError.invalidId message.messageId).message)
  /-- What is there under its identifier cannot be read. -/
  | unreadable (hid : Identifier.isValid message.messageId = true) {error : DeliveryError}
      (hread : read d (Layout.messageFile (layout.outbox kind) message.messageId) =
        .error error) :
    Refuses layout kind mode message now d error
  | sentBefore (hid : Identifier.isValid message.messageId = true) {present : Spooled}
      (hread : read d (Layout.messageFile (layout.outbox kind) message.messageId) =
        .ok (some present)) (hmode : mode = .send) :
    Refuses layout kind mode message now d
      (.rejected ("message " ++ message.messageId ++ " is already spooled"))
  | overlong (hid : Identifier.isValid message.messageId = true) {present : Option Spooled}
      (hread : read d (Layout.messageFile (layout.outbox kind) message.messageId) = .ok present)
      (hnew : mode = .send → present = none) (hlong : message.payload.IsOverlong) :
    Refuses layout kind mode message now d
      (.rejected Stored.Unwritable.numberTooLarge.message)
  /-- Its file cannot be written. -/
  | blocked (hid : Identifier.isValid message.messageId = true) {present : Option Spooled}
      (hread : read d (Layout.messageFile (layout.outbox kind) message.messageId) = .ok present)
      (hnew : mode = .send → present = none) {t : Toml.Table}
      (htable : Stored.spooledTable (counted kind message now present) = .ok t)
      {p : Path} {error : FileError}
      (hwrite : (d.replace (Layout.messageFile (layout.outbox kind) message.messageId)
        (Toml.write t)).2 = .error (p, error)) :
    Refuses layout kind mode message now d
      (unavailable (Layout.messageFile (layout.outbox kind) message.messageId) error)

section Refusing

variable {present : Option Spooled} {error : DeliveryError} {t : Toml.Table}

theorem put_of_plan_eq_error (h : plan layout kind mode message now d = .error error) :
    put layout kind mode message now d = (d, .error error) := by
  rw [put, h]

theorem plan_of_invalid (hid : Identifier.isValid message.messageId = false) :
    plan layout kind mode message now d =
      .error (.rejected (StoreError.invalidId message.messageId).message) := by
  unfold plan
  simp only [checkId, hid, Bool.false_eq_true, if_false]
  rfl

theorem plan_of_unreadable (hid : Identifier.isValid message.messageId = true)
    (hread : read d (Layout.messageFile (layout.outbox kind) message.messageId) = .error error) :
    plan layout kind mode message now d = .error error := by
  unfold plan
  simp only [bind, Except.bind, checkId, if_pos hid, hread]

theorem plan_of_sentBefore {present : Spooled} (hid : Identifier.isValid message.messageId = true)
    (hread : read d (Layout.messageFile (layout.outbox kind) message.messageId) =
      .ok (some present)) (hmode : mode = .send) :
    plan layout kind mode message now d =
      .error (.rejected ("message " ++ message.messageId ++ " is already spooled")) := by
  subst hmode
  unfold plan
  simp only [bind, Except.bind, checkId, if_pos hid, hread]
  rfl

theorem plan_of_overlong (hid : Identifier.isValid message.messageId = true)
    (hread : read d (Layout.messageFile (layout.outbox kind) message.messageId) = .ok present)
    (hnew : mode = .send → present = none) (hlong : message.payload.IsOverlong) :
    plan layout kind mode message now d =
      .error (.rejected Stored.Unwritable.numberTooLarge.message) := by
  obtain ⟨⟨⟩, htable⟩ := (Stored.spooledTable_eq_error_iff (counted kind message now present)).mpr
    (by rwa [counted, prepared_payload])
  unfold plan
  simp only [bind, Except.bind, checkId, if_pos hid, hread, next_eq_counted hnew, htable]
  rfl

theorem plan_of_table (hid : Identifier.isValid message.messageId = true)
    (hread : read d (Layout.messageFile (layout.outbox kind) message.messageId) = .ok present)
    (hnew : mode = .send → present = none)
    (htable : Stored.spooledTable (counted kind message now present) = .ok t) :
    plan layout kind mode message now d =
      .ok (Layout.messageFile (layout.outbox kind) message.messageId,
        counted kind message now present, t) := by
  unfold plan
  simp only [bind, Except.bind, checkId, if_pos hid, hread, next_eq_counted hnew, htable]
  rfl

/-- A message that is not too long can be written down. -/
theorem exists_table (hfits : ¬ message.payload.IsOverlong) (kind : ChatKind) (now : Instant)
    (present : Option Spooled) :
    ∃ t, Stored.spooledTable (counted kind message now present) = .ok t := by
  cases htable : Stored.spooledTable (counted kind message now present) with
  | ok t => exact ⟨t, rfl⟩
  | error unwritable =>
      have hlong := (Stored.spooledTable_eq_error_iff _).mp ⟨unwritable, htable⟩
      rw [counted, prepared_payload] at hlong
      exact absurd hlong hfits

theorem put_of_refuses (h : Refuses layout kind mode message now d error) :
    (put layout kind mode message now d).2 = .error error := by
  cases h with
  | invalid hid => rw [put_of_plan_eq_error (plan_of_invalid hid)]
  | unreadable hid hread => rw [put_of_plan_eq_error (plan_of_unreadable hid hread)]
  | sentBefore hid hread hmode => rw [put_of_plan_eq_error (plan_of_sentBefore hid hread hmode)]
  | overlong hid hread hnew hlong =>
      rw [put_of_plan_eq_error (plan_of_overlong hid hread hnew hlong)]
  | @blocked hid present hread hnew t htable p error hwrite =>
      rw [put, plan_of_table hid hread hnew htable]
      dsimp only
      cases hreplace : d.replace (Layout.messageFile (layout.outbox kind) message.messageId)
          (Toml.write t) with
      | mk written answer =>
          rw [hreplace] at hwrite
          obtain rfl : answer = .error (p, error) := hwrite
          rfl

/-- An outbox refuses a message for one of these reasons, and for each of them. -/
theorem put_eq_error_iff :
    (put layout kind mode message now d).2 = .error error ↔
      Refuses layout kind mode message now d error := by
  refine ⟨fun h => ?_, put_of_refuses⟩
  have htold {other : DeliveryError} (hother : Refuses layout kind mode message now d other) :
      Refuses layout kind mode message now d error := by
    obtain rfl : error = other := Except.error.inj (h.symm.trans (put_of_refuses hother))
    exact hother
  cases hid : Identifier.isValid message.messageId with
  | false => exact htold (.invalid hid)
  | true =>
      cases hread : read d (Layout.messageFile (layout.outbox kind) message.messageId) with
      | error unreadable => exact htold (.unreadable hid hread)
      | ok present =>
          by_cases hnew : mode = .send → present = none
          · by_cases hlong : message.payload.IsOverlong
            · exact htold (.overlong hid hread hnew hlong)
            · obtain ⟨t, htable⟩ := exists_table hlong kind now present
              rw [put, plan_of_table hid hread hnew htable] at h
              dsimp only at h
              cases hreplace : d.replace
                  (Layout.messageFile (layout.outbox kind) message.messageId) (Toml.write t) with
              | mk written answer =>
                  rw [hreplace] at h
                  cases answer with
                  | ok _ => cases h
                  | error failure =>
                      cases h
                      exact .blocked hid hread hnew htable (by rw [hreplace])
          · obtain ⟨hmode, hthere⟩ := Classical.not_imp.mp hnew
            obtain ⟨spooled, rfl⟩ := Option.ne_none_iff_exists'.mp hthere
            exact htold (.sentBefore hid hread hmode)

end Refusing

/-! ## Accepting -/

/-- A message that can be written down is put into an outbox where its draft can be written, unless
what is there cannot be read or must not be replaced. -/
theorem put_of_admits (hid : Identifier.isValid message.messageId = true)
    (hfits : ¬ message.payload.IsOverlong)
    (hreadable : spooledIn (d.look (Place.spooled (layout.place d) kind message.messageId)) =
      none → d.look (Place.spooled (layout.place d) kind message.messageId) = none)
    (hnew : mode = .send → d.look (Place.spooled (layout.place d) kind message.messageId) = none)
    (hdraft : d.Admits (layout.outbox kind) (message.messageId ++ ".toml.tmp")) (now : Instant) :
    ∃ after attempts, put layout kind mode message now d = (after, .ok attempts) := by
  have hpiece := Identifier.isPiece_of_isValid hid
  have hopens := hdraft.toOpens.of_draft hpiece
  rw [Place.spooled, ← layout.placeOf_outbox] at hreadable hnew
  -- What is there is a message or nothing, so it is read and can be replaced.
  have hread := (read_child_eq_ok_iff (Disk.isName_document hpiece) hopens).mpr ⟨rfl, hreadable⟩
  have hdocument := ne_folder_of_read_eq_ok (Disk.isName_document hpiece) hopens hread
  obtain ⟨t, htable⟩ := exists_table hfits kind now
    (spooledIn (d.look (d.placeOf (layout.outbox kind) ++ [message.messageId ++ ".toml"])))
  obtain ⟨after, hreplace, -⟩ := Disk.replace_child hpiece (Toml.write t) hdraft hdocument
  rw [put, plan_of_table hid hread (fun hmode => by rw [hnew hmode]; rfl) htable]
  dsimp only
  rw [Layout.messageFile, hreplace]
  exact ⟨after, _, rfl⟩

/-- What was put there can be handed over again. -/
theorem HandsOver.put_retry {attempts : UInt32}
    (h : HandsOver layout kind mode message now d attempts after) (later : Instant) :
    ∃ again attempts', put layout kind .retry message later after = (again, .ok attempts') := by
  obtain ⟨spooled, t, htable, -, hmessage, hreplaces⟩ := h.stored
  have hplace := layout.place_of_keeps h.keeps
  have hfits : ¬ message.payload.IsOverlong := by
    rw [← prepared_payload kind message, ← hmessage, ← Stored.spooledTable_eq_error_iff, htable]
    rintro ⟨error, ⟨⟩⟩
  apply put_of_admits h.validMessage hfits
  · rw [hplace, h.spooledIn_eq]
    rintro ⟨⟩
  · rintro ⟨⟩
  · refine ⟨h.keeps.opens h.opens_draft, ?_⟩
    rw [h.keeps.placeOf_eq, layout.placeOf_outbox, ← Place.spooledDraft, h.draft_eq]
    rintro ⟨⟩

/-! ## Delivering -/

/-- The host when a delivery has put its message into the outbox, or failed to, and is about to
report that. -/
def aboutToReport (layout : Layout) (kind : ChatKind) (mode : DeliveryMode) (message : Outgoing)
    (host : Host) : Host :=
  let (disk, answer) := put layout kind mode message (host.clock host.clockReadings) host.disk
  { host with
    disk
    clockReadings := host.clockReadings + 1
    log := host.log ++ [outcomeEvent kind message answer] }

/-- A host after a callback, if there is one, was told of an outcome. -/
def reportTo (callback : Option (Delivery.Callback Host)) (success : Bool) (host : Host) : Host :=
  match callback with
  | some callback => (callback success host).2
  | none => host

/-- A delivery calls its callback at its end, and once. -/
theorem deliver_eq (layout : Layout) (kind : ChatKind) (mode : DeliveryMode) (message : Outgoing)
    (callback : Option (Delivery.Callback Host)) (host : Host) :
    deliver layout kind mode message callback host =
      let answer := (put layout kind mode message (host.clock host.clockReadings) host.disk).2
      (answer.map fun _ => (),
        reportTo callback answer.isOk (aboutToReport layout kind mode message host)) := by
  unfold deliver
  simp only [bind, StateT.bind, Host.now, Host.alter, Host.record]
  cases callback <;> rfl

/-! ## What is left alone -/

/-- Whether the outboxes are as they were. -/
structure KeepsOutboxes (layout : Layout) (d after : Disk) : Prop where
  place_eq : layout.place after = layout.place d
  look_eq : ∀ more, after.look (layout.place d ++ "outbox" :: more) =
    d.look (layout.place d ++ "outbox" :: more)

theorem KeepsOutboxes.refl (layout : Layout) (d : Disk) : KeepsOutboxes layout d d :=
  ⟨rfl, fun _ => rfl⟩

theorem KeepsOutboxes.trans {between : Disk} (hfirst : KeepsOutboxes layout d between)
    (hsecond : KeepsOutboxes layout between after) : KeepsOutboxes layout d after := by
  refine ⟨hsecond.place_eq.trans hfirst.place_eq, fun more => ?_⟩
  rw [← hfirst.look_eq, ← hfirst.place_eq]
  exact hsecond.look_eq more

theorem KeepsOutboxes.look_spooled (h : KeepsOutboxes layout d after) (kind : ChatKind)
    (messageId : String) :
    after.look (Place.spooled (layout.place d) kind messageId) =
      d.look (Place.spooled (layout.place d) kind messageId) := by
  simp only [Place.spooled, Place.outbox, List.append_assoc, List.cons_append, List.nil_append]
  exact h.look_eq _

theorem keepsOutboxes_of_locks (h : Store.Locks layout d after) :
    KeepsOutboxes layout d after := by
  refine ⟨layout.place_of_keeps h.keeps, ?_⟩
  intro more
  apply h.look_of_ne
  simp [Place.lock]

theorem keepsOutboxes_of_rewrites {known changed : Registry}
    (h : Store.Rewrites layout d known changed after) : KeepsOutboxes layout d after := by
  refine ⟨h.place_eq, ?_⟩
  intro more
  apply h.look_of_ne
  · simp [Place.lock]
  · simp [Place.registryDraft]
  · simp [Place.registry]

/-- Whether the outboxes are as they were but for one message, with no draft of it. -/
structure KeepsOthers (layout : Layout) (kind : ChatKind) (messageId : String) (d after : Disk) :
    Prop where
  place_eq : layout.place after = layout.place d
  draft_eq : after.look (Place.spooledDraft (layout.place d) kind messageId) = none
  look_eq : ∀ more,
    layout.place d ++ "outbox" :: more ≠ Place.spooled (layout.place d) kind messageId →
    layout.place d ++ "outbox" :: more ≠ Place.spooledDraft (layout.place d) kind messageId →
      after.look (layout.place d ++ "outbox" :: more) =
        d.look (layout.place d ++ "outbox" :: more)

theorem Spools.keepsOthers (h : Spools layout kind message d after) :
    KeepsOthers layout kind message.messageId d after :=
  ⟨layout.place_of_keeps h.keeps, h.draft_eq, fun _ => h.look_of_ne⟩

theorem KeepsOthers.trans {messageId : String} {between : Disk}
    (hfirst : KeepsOthers layout kind messageId d between)
    (hsecond : KeepsOutboxes layout between after) :
    KeepsOthers layout kind messageId d after := by
  have hsame := hsecond.look_eq
  rw [hfirst.place_eq] at hsame
  refine ⟨hsecond.place_eq.trans hfirst.place_eq, ?_, ?_⟩
  · rw [← hfirst.draft_eq]
    simp only [Place.spooledDraft, Place.outbox, List.append_assoc, List.cons_append,
      List.nil_append]
    exact hsame _
  · intro more hspooled hdraft
    rw [hsame]
    exact hfirst.look_eq more hspooled hdraft

theorem KeepsOthers.look_spooled {kind' : ChatKind} {messageId messageId' : String}
    (h : KeepsOthers layout kind messageId d after)
    (hne : ¬ (kind = kind' ∧ messageId = messageId')) :
    after.look (Place.spooled (layout.place d) kind' messageId') =
      d.look (Place.spooled (layout.place d) kind' messageId') := by
  have hother : Place.spooled (layout.place d) kind' messageId' ≠
      Place.spooled (layout.place d) kind messageId := by
    intro heq
    obtain ⟨rfl, rfl⟩ := Place.spooled_injective _ heq
    exact hne ⟨rfl, rfl⟩
  have hdraft := Place.spooled_ne_draft (layout.place d) kind' kind messageId' messageId
  rw [Place.spooled_eq] at hother hdraft ⊢
  exact h.look_eq _ hother hdraft

/-! ## What an outbox holds -/

/-- The message that an outbox holds under an identifier. -/
def spooledAt (layout : Layout) (kind : ChatKind) (messageId : String) (d : Disk) :
    Option Spooled :=
  spooledIn (d.look (Place.spooled (layout.place d) kind messageId))

/-- A message is read from the place of its identifier. -/
theorem read_messageFile_eq_some_iff {messageId : String} {spooled : Spooled}
    (hpiece : Path.IsPiece messageId) :
    read d (Layout.messageFile (layout.outbox kind) messageId) = .ok (some spooled) ↔
      d.Opens (layout.outbox kind) (messageId ++ ".toml") ∧
        spooledAt layout kind messageId d = some spooled := by
  rw [Layout.messageFile, read_child_eq_some_iff (Disk.isName_document hpiece),
    layout.placeOf_outbox]
  rfl

theorem HandsOver.spooledAt_eq {attempts : UInt32}
    (h : HandsOver layout kind mode message now d attempts after) :
    spooledAt layout kind message.messageId after =
      some { attempts, spooledAt := now, message := prepared kind message } := by
  rw [spooledAt, layout.place_of_keeps h.keeps]
  exact h.spooledIn_eq

theorem KeepsOutboxes.spooledAt_eq (h : KeepsOutboxes layout d after) (kind : ChatKind)
    (messageId : String) :
    spooledAt layout kind messageId after = spooledAt layout kind messageId d := by
  rw [spooledAt, spooledAt, h.place_eq, h.look_spooled]

theorem KeepsOthers.spooledAt_eq {kind' : ChatKind} {messageId messageId' : String}
    (h : KeepsOthers layout kind messageId d after)
    (hne : ¬ (kind = kind' ∧ messageId = messageId')) :
    spooledAt layout kind' messageId' after = spooledAt layout kind' messageId' d := by
  rw [spooledAt, spooledAt, h.place_eq, h.look_spooled hne]

/-- A message that is found is in one of the outboxes, under a valid identifier. -/
theorem find_eq_some {messageId : String} {found : Spooled}
    (h : find layout d messageId = .ok (some found)) :
    Identifier.isValid messageId = true ∧
      ∃ kind, spooledAt layout kind messageId d = some found := by
  unfold find at h
  obtain ⟨_, hid, hrest⟩ := bind_eq_ok h
  have hpiece := Identifier.isPiece_of_isValid (checkId_eq_ok hid)
  refine ⟨checkId_eq_ok hid, ?_⟩
  obtain ⟨present, hdirect, hrest⟩ := bind_eq_ok hrest
  cases present with
  | some spooled =>
      cases hrest
      exact ⟨.direct, ((read_messageFile_eq_some_iff hpiece).mp hdirect).2⟩
  | none => exact ⟨.group, ((read_messageFile_eq_some_iff hpiece).mp hrest).2⟩

/-- What the outboxes hold is looked up in the one for direct chats first. -/
theorem find_of_reads {messageId : String} {direct group : Option Spooled}
    (hid : Identifier.isValid messageId = true)
    (hdirect : read d (Layout.messageFile (layout.outbox .direct) messageId) = .ok direct)
    (hgroup : read d (Layout.messageFile (layout.outbox .group) messageId) = .ok group) :
    find layout d messageId = .ok (direct.or group) := by
  unfold find
  simp only [bind, Except.bind, checkId, if_pos hid, hdirect]
  cases direct with
  | some spooled => rfl
  | none => exact hgroup

/-- The file of a message can be used in both outboxes if its draft can be used in one. -/
theorem isUsable_messageFile {messageId : String} (hid : Identifier.isValid messageId = true)
    (h : ((layout.outbox kind).child (messageId ++ ".toml.tmp")).IsUsable) (other : ChatKind) :
    ((layout.outbox other).child (messageId ++ ".toml")).IsUsable := by
  have hpiece := Identifier.isPiece_of_isValid hid
  have hdocument := Disk.isName_document hpiece
  have hdraft := (Disk.isName_draft hpiece).no_slash
  have hword := Layout.isName_word kind
  have hother := Layout.isName_word other
  have houtboxes := Disk.isUsable_of_child Layout.isName_outbox hword.no_slash
    (Disk.isUsable_of_child hword hdraft h)
  refine ⟨?_, Disk.child_text_ne_empty _ hdocument, ?_⟩
  · rw [Path.nul_mem_child _ hdocument.no_slash, Layout.outbox,
      Path.nul_mem_child _ hother.no_slash, String.toList_append, List.mem_append]
    rintro ((hfolder | hkind) | hname | hname)
    · exact houtboxes.no_nul hfolder
    · cases other <;> exact absurd hkind (by decide)
    · exact Identifier.not_mem_of_isValid hid (by decide) hname
    · exact absurd hname (by decide)
  -- The two outboxes differ by one byte, a document and its draft by four.
  · have hbound := h.size_le
    have hsizes : "/".utf8ByteSize = 1 ∧ ".toml".utf8ByteSize = 5 ∧ ".toml.tmp".utf8ByteSize = 9 ∧
        ∀ kind : ChatKind, 5 ≤ kind.word.utf8ByteSize ∧ kind.word.utf8ByteSize ≤ 6 := by
      refine ⟨by decide, by decide, by decide, ?_⟩
      rintro ⟨⟩ <;> decide
    obtain ⟨hslash, htoml, htmp, hwords⟩ := hsizes
    have hleast := hwords kind
    have hmost := hwords other
    rw [Path.size_child _ hdraft, Layout.outbox, Path.lead_child _ hword.toIsPiece,
      String.utf8ByteSize_append, Path.size_child _ hword.no_slash,
      String.utf8ByteSize_append] at hbound
    rw [Path.size_child _ hdocument.no_slash, Layout.outbox, Path.lead_child _ hother.toIsPiece,
      String.utf8ByteSize_append, Path.size_child _ hother.no_slash, String.utf8ByteSize_append]
    omega

/-- Nothing is read from an outbox that is missing. -/
theorem read_messageFile_of_missing {messageId : String} (hid : Identifier.isValid messageId = true)
    (hpasses : Disk.Passes d.look (d.start layout.outboxes) layout.outboxes.steps)
    (husable : ((layout.outbox kind).child (messageId ++ ".toml")).IsUsable)
    (hlook : d.look (Place.outbox (layout.place d) kind) = none) :
    read d (Layout.messageFile (layout.outbox kind) messageId) = .ok none := by
  have hdocument := Disk.isName_document (Identifier.isPiece_of_isValid hid)
  have hsize : kind.word.utf8ByteSize ≤ Disk.maxNameLength := by cases kind <;> decide
  have hplace : d.placeOf layout.outboxes ++ [kind.word] = Place.outbox (layout.place d) kind := by
    rw [Layout.outboxes, Disk.placeOf_child d _ Layout.isName_outbox]
    rfl
  rw [← hplace] at hlook
  rw [read, Layout.messageFile, Layout.outbox,
    Disk.readText_child_of_missing (Layout.isName_word kind) hdocument hpasses husable hsize hlook]

/-- A message that one outbox holds is found if the other one holds nothing under its identifier. -/
theorem find_of_spooledAt {messageId : String} {found : Spooled}
    (hid : Identifier.isValid messageId = true)
    (hopens : ∀ kind, d.Opens (layout.outbox kind) (messageId ++ ".toml"))
    (hfound : spooledAt layout kind messageId d = some found)
    (hothers : ∀ other ≠ kind, d.look (Place.spooled (layout.place d) other messageId) = none) :
    find layout d messageId = .ok (some found) := by
  have hpiece := Identifier.isPiece_of_isValid hid
  have hread := (read_messageFile_eq_some_iff hpiece).mpr ⟨hopens kind, hfound⟩
  have hothersRead : ∀ other ≠ kind,
      read d (Layout.messageFile (layout.outbox other) messageId) = .ok none := by
    intro other hne
    rw [Layout.messageFile, read_child_eq_ok_iff (Disk.isName_document hpiece) (hopens other),
      layout.placeOf_outbox, ← Place.spooled, hothers other hne]
    exact ⟨rfl, fun _ => rfl⟩
  cases kind with
  | direct => exact find_of_reads hid hread (hothersRead .group (by decide))
  | group => exact find_of_reads hid (hothersRead .direct (by decide)) hread

end Courier.Outbox
