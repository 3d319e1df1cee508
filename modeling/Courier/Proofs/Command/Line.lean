import Courier.Command.Line
import Courier.Proofs.Files.Walk

/-!
# Readings of command lines

Whatever the words of a command line look like, the parameters that were read from it were each
given once and have values they can take. Those of a message to be sent make one up exactly if they
fit together: one content, a chat, and a length for a recording. The message then has a value for
each of them and for no other.
-/

namespace Courier

namespace Command

/-! ## Lists of pairs -/

section Pairs

variable {κ α : Type} [DecidableEq κ]

theorem isSome_lookup_iff {entries : List (κ × α)} {key : κ} :
    (entries.lookup key).isSome = true ↔ key ∈ entries.map Prod.fst := by
  induction entries with
  | nil => simp
  | cons entry entries ih =>
      rw [List.lookup_cons, List.map_cons, List.mem_cons, ← ih]
      by_cases hkey : key = entry.1
      · simp [hkey]
      · simp [hkey, beq_false_of_ne hkey]

/-- Where no key comes twice, the value of a key is found. -/
theorem lookup_eq_some_iff_mem {entries : List (κ × α)} (hkeys : (entries.map Prod.fst).Nodup)
    {key : κ} {value : α} : entries.lookup key = some value ↔ (key, value) ∈ entries := by
  induction entries with
  | nil => simp
  | cons entry entries ih =>
      rw [List.map_cons, List.nodup_cons] at hkeys
      rw [List.lookup_cons, List.mem_cons, ← ih hkeys.2]
      by_cases hkey : key = entry.1
      · have hnot : entries.lookup key ≠ some value := by
          rw [Ne, ih hkeys.2, hkey]
          exact fun hmem => hkeys.1 (List.mem_map.mpr ⟨_, hmem, rfl⟩)
        rw [hkey, beq_self_eq_true]
        rw [hkey] at hnot
        simp only [hnot, or_false, Prod.ext_iff, true_and, Option.some.injEq]
        exact eq_comm
      · simp [beq_false_of_ne hkey, Prod.ext_iff, hkey]

end Pairs

/-! ## Sound readings -/

namespace Reading

theorem give_eq (reading : Reading) (parameter : Parameter) (value : String) :
    reading.give parameter value =
      if parameter ∈ reading.given.map Prod.fst then .error .argumentConflict
      else (parameter.taking.check value).map fun _ =>
        { reading with given := reading.given ++ [(parameter, value)] } := by
  have hany : (reading.given.any fun entry => entry.1 = parameter) = true ↔
      parameter ∈ reading.given.map Prod.fst := by
    simp only [List.any_eq_true, decide_eq_true_eq, List.mem_map]
  unfold give
  by_cases hgiven : parameter ∈ reading.given.map Prod.fst
  · rw [if_pos hgiven, if_pos (hany.mpr hgiven)]
    rfl
  · rw [if_neg hgiven, if_neg ((not_congr hany).mpr hgiven)]
    cases parameter.taking.check value <;> rfl

theorem give_eq_ok {reading next : Reading} {parameter : Parameter} {value : String}
    (h : reading.give parameter value = .ok next) :
    parameter ∉ reading.given.map Prod.fst ∧ parameter.taking.check value = .ok () ∧
      next = { reading with given := reading.given ++ [(parameter, value)] } := by
  rw [give_eq] at h
  split at h
  · cases h
  next hnew =>
    refine ⟨hnew, ?_⟩
    cases hcheck : parameter.taking.check value with
    | error error =>
        rw [hcheck] at h
        cases h
    | ok _ =>
        rw [hcheck] at h
        exact ⟨rfl, (Except.ok.inj h).symm⟩

/-- Whether all parameters were given once, with values they can take. -/
structure IsSound (reading : Reading) : Prop where
  once : (reading.given.map Prod.fst).Nodup
  checked : ∀ entry ∈ reading.given, entry.1.taking.check entry.2 = .ok ()

theorem isSound_nil {reading : Reading} (h : reading.given = []) : reading.IsSound := by
  constructor <;> simp [h]

section

variable {reading next : Reading} (hsound : reading.IsSound)
include hsound

/-- Only what is given counts. -/
theorem IsSound.congr (h : next.given = reading.given) : next.IsSound :=
  ⟨h ▸ hsound.once, h ▸ hsound.checked⟩

theorem IsSound.give {parameter : Parameter} {value : String}
    (h : reading.give parameter value = .ok next) : next.IsSound := by
  obtain ⟨hnew, hcheck, rfl⟩ := give_eq_ok h
  constructor
  · rw [List.map_append, List.nodup_append]
    refine ⟨hsound.once, by simp, ?_⟩
    rintro key hkey _ hmem rfl
    obtain rfl : key = parameter := List.mem_singleton.mp hmem
    exact hnew hkey
  · intro entry hentry
    rcases List.mem_append.mp hentry with hold | hlast
    · exact hsound.checked entry hold
    · rw [List.mem_singleton.mp hlast]
      exact hcheck

theorem IsSound.settle (h : reading.settle = .ok next) : next.IsSound := by
  unfold Reading.settle at h
  split at h
  · exact Except.ok.inj h ▸ hsound
  · cases h
  next parameter value _ =>
    have hidle : { reading with pending := none }.IsSound := hsound.congr rfl
    exact hidle.give h

theorem IsSound.takeParameter {parameter : Parameter} {attached : Option String}
    (h : takeParameter reading parameter attached = .ok next) : next.IsSound := by
  unfold Command.takeParameter at h
  split at h
  · cases h
  · obtain ⟨settled, hsettled, hgive⟩ := bind_eq_ok h
    exact (hsound.settle hsettled).give hgive
  · obtain ⟨settled, hsettled, hgive⟩ := bind_eq_ok h
    exact (hsound.settle hsettled).give hgive
  · obtain ⟨settled, hsettled, hnext⟩ := bind_eq_ok h
    cases hnext
    exact (hsound.settle hsettled).congr rfl

omit hsound in
theorem takeHelp_ne_ok {attached : Option String} : takeHelp reading attached ≠ .ok next := by
  intro h
  unfold takeHelp at h
  split at h
  · cases h
  · obtain ⟨_, -, hnext⟩ := bind_eq_ok h
    cases hnext

theorem IsSound.takeNamed {parameters : List Parameter} {shape : Shape}
    (h : takeNamed parameters reading shape = .ok next) : next.IsSound := by
  cases shape with
  | separator => exact hsound.congr (Except.ok.inj h ▸ rfl)
  | plain => exact hsound.congr (Except.ok.inj h ▸ rfl)
  | long name attached =>
      simp only [Command.takeNamed] at h
      split at h
      · exact hsound.takeParameter h
      · split at h
        · exact absurd h takeHelp_ne_ok
        · cases h
  | short letter rest =>
      simp only [Command.takeNamed] at h
      split at h
      · exact hsound.takeParameter h
      · split at h
        · exact absurd h takeHelp_ne_ok
        · cases h

theorem IsSound.takeValue {hasPath : Bool} {word : String}
    (h : takeValue hasPath reading word = .ok next) : next.IsSound := by
  unfold Command.takeValue at h
  split at h
  · exact hsound.congr (Except.ok.inj h ▸ rfl)
  · split at h
    · obtain ⟨settled, hsettled, hnext⟩ := bind_eq_ok h
      cases hnext
      exact (hsound.settle hsettled).congr rfl
    · cases h

theorem IsSound.takeWord {verb : Verb} {word : String}
    (h : takeWord verb reading word = .ok next) : next.IsSound := by
  unfold Command.takeWord at h
  split at h
  · exact hsound.takeValue h
  · exact hsound.takeNamed h

/-- Every word keeps a reading sound, and so do many. -/
theorem IsSound.takeWords {verb : Verb} {words : List String}
    (h : words.foldlM (Command.takeWord verb) reading = .ok next) : next.IsSound := by
  induction words generalizing reading with
  | nil => exact Except.ok.inj h ▸ hsound
  | cons word words ih =>
      rw [List.foldlM_cons] at h
      obtain ⟨middle, hword, hwords⟩ := bind_eq_ok h
      exact ih (hsound.takeWord hword) hwords

end

theorem isSome_value?_iff {reading : Reading} {parameter : Parameter} :
    (reading.value? parameter).isSome = true ↔ parameter ∈ reading.given.map Prod.fst :=
  isSome_lookup_iff

end Reading

/-! ## Refusals -/

/-- Whether a command line is refused for a fault. To ask for help is none. -/
def IsRefused {α : Type} (answer : Except LineError α) : Prop :=
  ∃ error, answer = .error error ∧ error ≠ .displayHelp

theorem IsRefused.bind {α β : Type} {answer : Except LineError α} (h : IsRefused answer)
    (next : α → Except LineError β) : IsRefused (answer >>= next) := by
  obtain ⟨error, rfl, hne⟩ := h
  exact ⟨error, rfl, hne⟩

/-! ## Parameters that fit together -/

/-- Whether parameters are those of a message: one content, a chat, and a length for a
recording. -/
structure Fits (parameters : List Parameter) : Prop where
  oneContent : ∃ content, contentParameters.filter (· ∈ parameters) = [content]
  chat : .chat ∈ parameters
  duration : .voice ∈ parameters → .durationMs ∈ parameters

theorem Fits.content_unique {parameters : List Parameter} (h : Fits parameters)
    {content other : Parameter} (hcontent : content ∈ contentParameters)
    (hgiven : content ∈ parameters) (hother : other ∈ contentParameters)
    (halso : other ∈ parameters) : content = other := by
  obtain ⟨only, honly⟩ := h.oneContent
  have heq {parameter : Parameter} (hmem : parameter ∈ contentParameters)
      (hin : parameter ∈ parameters) : parameter = only :=
    List.mem_singleton.mp (honly ▸ List.mem_filter.mpr ⟨hmem, decide_eq_true hin⟩)
  exact (heq hcontent hgiven).trans (heq hother halso).symm

theorem Fits.perm {parameters others : List Parameter} (h : Fits parameters)
    (hperm : parameters.Perm others) : Fits others := by
  obtain ⟨⟨content, hcontent⟩, hchat, hduration⟩ := h
  refine ⟨⟨content, ?_⟩, hperm.mem_iff.mp hchat, fun hvoice => ?_⟩
  · rw [← hcontent]
    simp only [hperm.mem_iff]
  · exact hperm.mem_iff.mp (hduration (hperm.mem_iff.mpr hvoice))

/-- The configuration file makes no difference. -/
theorem fits_config_cons_iff {parameters : List Parameter} :
    Fits (.config :: parameters) ↔ Fits parameters := by
  have hmem {parameter : Parameter} (hne : parameter ≠ .config) :
      parameter ∈ .config :: parameters ↔ parameter ∈ parameters := by
    simp [hne]
  have hcontents : contentParameters.filter (· ∈ .config :: parameters) =
      contentParameters.filter (· ∈ parameters) := by
    apply List.filter_congr
    intro parameter hparameter
    have hne : parameter ≠ .config := by
      rintro rfl
      exact absurd hparameter (by decide)
    simp [hne]
  constructor
  · rintro ⟨hcontent, hchat, hduration⟩
    exact ⟨hcontents ▸ hcontent, (hmem (by decide)).mp hchat,
      fun hvoice => (hmem (by decide)).mp (hduration ((hmem (by decide)).mpr hvoice))⟩
  · rintro ⟨hcontent, hchat, hduration⟩
    exact ⟨hcontents ▸ hcontent, (hmem (by decide)).mpr hchat,
      fun hvoice => (hmem (by decide)).mpr (hduration ((hmem (by decide)).mp hvoice))⟩

theorem checkSend_cases (reading : Reading) :
    checkSend reading = .ok () ∧ Fits (reading.given.map Prod.fst) ∨
      IsRefused (checkSend reading) ∧ ¬ Fits (reading.given.map Prod.fst) := by
  have hgiven (parameter : Parameter) : (reading.value? parameter).isSome =
      decide (parameter ∈ reading.given.map Prod.fst) := by
    rw [Bool.eq_iff_iff, Reading.isSome_value?_iff, decide_eq_true_eq]
  unfold checkSend
  simp only [hgiven]
  cases hcontents : contentParameters.filter (· ∈ reading.given.map Prod.fst) with
  | nil =>
      refine .inr ⟨⟨.missingRequiredArgument, by simp; rfl, by decide⟩, ?_⟩
      rintro ⟨⟨content, hcontent⟩, -, -⟩
      cases hcontents.symm.trans hcontent
  | cons first others =>
      cases others with
      | cons second rest =>
          refine .inr ⟨⟨.argumentConflict, by simp; rfl, by decide⟩, ?_⟩
          rintro ⟨⟨content, hcontent⟩, -, -⟩
          cases hcontents.symm.trans hcontent
      | nil =>
          by_cases hchat : Parameter.chat ∈ reading.given.map Prod.fst
          · by_cases hduration : Parameter.voice ∈ reading.given.map Prod.fst →
                Parameter.durationMs ∈ reading.given.map Prod.fst
            · refine .inl ⟨?_, ⟨first, hcontents⟩, hchat, hduration⟩
              have hnone : (decide (Parameter.voice ∈ reading.given.map Prod.fst) &&
                  !decide (Parameter.durationMs ∈ reading.given.map Prod.fst)) = false := by
                simpa using hduration
              rw [decide_eq_true hchat, hnone]
              rfl
            · refine .inr ⟨⟨.missingRequiredArgument, ?_, by decide⟩, fun h => hduration h.duration⟩
              have hsome : (decide (Parameter.voice ∈ reading.given.map Prod.fst) &&
                  !decide (Parameter.durationMs ∈ reading.given.map Prod.fst)) = true := by
                simpa using hduration
              rw [decide_eq_true hchat, hsome]
              rfl
          · refine .inr ⟨⟨.missingRequiredArgument, ?_, by decide⟩, fun h => hchat h.chat⟩
            rw [decide_eq_false hchat]
            rfl

end Command

/-! ## Messages to be sent, parameter by parameter -/

namespace SendArguments

open Command

/-- The value of a parameter, as it is written. -/
def value? (a : SendArguments) : Parameter → Option String
  | .chat => some a.chat
  | .text => a.text
  | .link => a.link
  | .image => a.image.map Path.text
  | .video => a.video.map Path.text
  | .file => a.file.map Path.text
  | .voice => a.voice.map Path.text
  | .durationMs => a.durationMs.map fun ms => String.ofList (Text.digits ms.toNat)
  | .contact => a.contact
  | .caption => a.caption
  | .replyTo => a.replyTo
  | .messageId => a.messageId
  | .recipient => a.recipient
  | _ => none

/-- The parameters that are set and say what to send. -/
def contents (a : SendArguments) : List Parameter :=
  contentParameters.filter fun parameter => (a.value? parameter).isSome

end SendArguments

namespace Command

theorem Reading.IsSound.isSome_number? {reading : Reading} (hsound : reading.IsSound)
    {value : String} (h : reading.value? .durationMs = some value) : (number? value).isSome := by
  have hcheck := hsound.checked _ ((lookup_eq_some_iff_mem hsound.once).mp h)
  by_cases hnumber : (number? value).isSome = true
  · exact hnumber
  · cases (if_neg hnumber).symm.trans hcheck

/-- What a message is made up from fits together, and the parameters that are set are those that
were given. -/
theorem Reading.IsSound.ofReading_cases {reading : Reading} {command : Command}
    (hsound : reading.IsSound) (h : ofReading reading .send = .ok command) :
    Fits (reading.given.map Prod.fst) ∧ ∃ a, command = .send a ∧
      ∀ parameter ∈ Verb.send.parameters, parameter ≠ .config →
        (a.value? parameter).isSome = (reading.value? parameter).isSome := by
  rcases checkSend_cases reading with ⟨hcheck, hfits⟩ | ⟨⟨error, hcheck, -⟩, -⟩
  · refine ⟨hfits, ?_⟩
    obtain ⟨chat, hchat⟩ := Option.isSome_iff_exists.mp (isSome_value?_iff.mpr hfits.chat)
    unfold ofReading need at h
    rw [hcheck, hchat] at h
    refine ⟨_, (Except.ok.inj h).symm, fun parameter hown hne => ?_⟩
    have hduration : ((reading.value? .durationMs).bind number?).isSome =
        (reading.value? .durationMs).isSome := by
      cases hms : reading.value? .durationMs with
      | none => rfl
      | some value => exact hsound.isSome_number? hms
    revert hown hne
    cases parameter <;>
      simp [SendArguments.value?, Verb.parameters, hchat, hduration, -Option.map_bind]
  · unfold ofReading at h
    rw [hcheck] at h
    cases h

end Command

end Courier
