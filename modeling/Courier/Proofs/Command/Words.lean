import Courier.Proofs.Command.Line
import Courier.Proofs.Text.Numeral

/-!
# Messages as command lines

A message to be sent can be written out as one word for each of its parameters. All orders of these
words are read back as that message, wherever the configuration file is named among them. None is
once a parameter is added that does not fit or one is missing that must be there.
-/

namespace Courier

namespace Command

theorem number?_digits {n : Nat} (hn : n < UInt64.size) :
    number? (String.ofList (Text.digits n)) = some n := by
  obtain ⟨d, ds, hds, hd⟩ := Text.digits_eq_cons n
  have hall : (Text.digits n).all Char.isDigit = true :=
    List.all_eq_true.mpr fun c hc => Text.isDigit_of_mem_digits hc
  have hplus : d ≠ '+' := by
    rintro rfl
    exact absurd hd (by decide)
  have hread : Text.natOfDigits? (Text.digits n) = some n := by
    have hvalue := Text.ofDigits_digits n
    rw [hds] at hall hvalue ⊢
    unfold Text.natOfDigits?
    split
    next h =>
      cases h
      exact absurd rfl hplus
    · simp [hall, hvalue]
  rw [number?, String.toList_ofList, hread, Option.bind_some, if_pos hn]

end Command

namespace SendArguments

open Command

/-- The parameters that are set, with their values. -/
def options (a : SendArguments) : List (Parameter × String) :=
  Verb.send.parameters.filterMap fun parameter => (a.value? parameter).map (parameter, ·)

/-- Whether a message can be written out: one content is set, a recording has a length, and no path
is empty. -/
structure IsComplete (a : SendArguments) : Prop where
  oneContent : ∃ content, a.contents = [content]
  duration : a.voice.isSome → a.durationMs.isSome
  paths : ∀ path : Path, some path ∈ [a.image, a.video, a.file, a.voice] → path.text ≠ ""

variable {a : SendArguments}

theorem mem_parameters_of_isSome_value? {parameter : Parameter}
    (h : (a.value? parameter).isSome = true) : parameter ∈ Verb.send.parameters := by
  cases parameter <;> first | decide | cases h

theorem mem_options_iff {parameter : Parameter} {value : String} :
    (parameter, value) ∈ a.options ↔ a.value? parameter = some value := by
  simp only [options, List.mem_filterMap, Option.map_eq_some_iff, Prod.mk.injEq]
  constructor
  · rintro ⟨_, -, _, h, rfl, rfl⟩
    exact h
  · intro h
    have hparameter := mem_parameters_of_isSome_value? (Option.isSome_of_eq_some h)
    exact ⟨parameter, hparameter, value, h, rfl, rfl⟩

theorem map_fst_options :
    a.options.map Prod.fst =
      Verb.send.parameters.filter fun parameter => (a.value? parameter).isSome := by
  rw [options]
  generalize Verb.send.parameters = parameters
  induction parameters with
  | nil => rfl
  | cons parameter parameters ih =>
      rw [List.filterMap_cons, List.filter_cons]
      cases a.value? parameter <;> simp [ih]

theorem nodup_options : (a.options.map Prod.fst).Nodup := by
  rw [map_fst_options]
  exact List.Pairwise.filter _ (by decide)

theorem mem_map_fst_options_iff {parameter : Parameter} :
    parameter ∈ a.options.map Prod.fst ↔ (a.value? parameter).isSome = true := by
  rw [map_fst_options, List.mem_filter, and_iff_right_of_imp mem_parameters_of_isSome_value?]

theorem mem_parameters_of_mem_options {entry : Parameter × String} (h : entry ∈ a.options) :
    entry.1 ∈ Verb.send.parameters :=
  mem_parameters_of_isSome_value? (mem_map_fst_options_iff.mp (List.mem_map_of_mem h))

theorem mem_contents_iff {parameter : Parameter} :
    parameter ∈ a.contents ↔
      parameter ∈ contentParameters ∧ parameter ∈ a.options.map Prod.fst := by
  rw [contents, List.mem_filter, mem_map_fst_options_iff]

/-- Every value that is written out is one its parameter can take. -/
theorem IsComplete.check_options (h : a.IsComplete) {entry : Parameter × String}
    (hentry : entry ∈ a.options) : entry.1.taking.check entry.2 = .ok () := by
  obtain ⟨parameter, value⟩ := entry
  have hvalue := mem_options_iff.mp hentry
  have hpath {path : Option Path} (hmem : path ∈ [a.image, a.video, a.file, a.voice])
      (htext : path.map Path.text = some value) : Taking.path.check value = .ok () := by
    obtain ⟨path, rfl, rfl⟩ := Option.map_eq_some_iff.mp htext
    exact if_neg (by simpa using h.paths path hmem)
  cases parameter with
  | image => exact hpath (by simp) hvalue
  | video => exact hpath (by simp) hvalue
  | file => exact hpath (by simp) hvalue
  | voice => exact hpath (by simp) hvalue
  | durationMs =>
      obtain ⟨ms, -, rfl⟩ := Option.map_eq_some_iff.mp hvalue
      exact if_pos (by rw [number?_digits ms.toNat_lt]; rfl)
  | config | path | limit => cases hvalue
  | _ => rfl

theorem IsComplete.fits (h : a.IsComplete) : Fits (a.options.map Prod.fst) := by
  obtain ⟨⟨content, hcontent⟩, hduration, -⟩ := h
  refine ⟨⟨content, ?_⟩, mem_map_fst_options_iff.mpr rfl, fun hvoice => ?_⟩
  · simp only [mem_map_fst_options_iff, Bool.decide_eq_true]
    exact hcontent
  · rw [mem_map_fst_options_iff] at hvoice ⊢
    simp only [value?, Option.isSome_map] at hvoice ⊢
    exact hduration hvoice

theorem IsComplete.not_fits_cons (h : a.IsComplete) {second : Parameter}
    (hsecond : second ∈ contentParameters) (hnone : a.value? second = none) :
    ¬ Fits (second :: a.options.map Prod.fst) := by
  intro hfits
  obtain ⟨content, hcontent⟩ := h.oneContent
  obtain ⟨hmem, hset⟩ := mem_contents_iff.mp (hcontent ▸ List.mem_singleton_self content)
  obtain rfl : second = content :=
    hfits.content_unique hsecond List.mem_cons_self hmem (List.mem_cons_of_mem _ hset)
  rw [mem_map_fst_options_iff, hnone] at hset
  cases hset

theorem IsComplete.not_fits_drop (h : a.IsComplete) {dropped : Parameter}
    (hdropped : dropped = .chat ∨ dropped ∈ a.contents ∨ dropped = .durationMs ∧ a.voice.isSome) :
    ¬ Fits ((a.options.filter (·.1 ≠ dropped)).map Prod.fst) := by
  intro hfits
  have hmem {parameter : Parameter} :
      parameter ∈ (a.options.filter (·.1 ≠ dropped)).map Prod.fst ↔
        parameter ∈ a.options.map Prod.fst ∧ parameter ≠ dropped := by
    simp only [List.mem_map, List.mem_filter, decide_eq_true_eq]
    constructor
    · rintro ⟨entry, ⟨hentry, hne⟩, rfl⟩
      exact ⟨⟨entry, hentry, rfl⟩, hne⟩
    · rintro ⟨⟨entry, hentry, rfl⟩, hne⟩
      exact ⟨entry, ⟨hentry, hne⟩, rfl⟩
  rcases hdropped with rfl | hcontent | ⟨rfl, hvoice⟩
  · exact (hmem.mp hfits.chat).2 rfl
  · obtain ⟨content, hcontents⟩ := h.oneContent
    obtain ⟨other, hother⟩ := hfits.oneContent
    obtain ⟨hmember, hin⟩ := List.mem_filter.mp (hother ▸ List.mem_singleton_self other)
    obtain ⟨hset, hne⟩ := hmem.mp (of_decide_eq_true hin)
    have hboth : other ∈ a.contents := mem_contents_iff.mpr ⟨hmember, hset⟩
    rw [hcontents, List.mem_singleton] at hcontent hboth
    exact hne (hboth.trans hcontent.symm)
  · have hset : Parameter.voice ∈ a.options.map Prod.fst := by
      rw [mem_map_fst_options_iff, value?, Option.isSome_map]
      exact hvoice
    exact (hmem.mp (hfits.duration (hmem.mpr ⟨hset, by decide⟩))).2 rfl

end SendArguments

namespace Command

/-! ## Words with values attached -/

/-- The word for a parameter with its value attached. -/
def attachedWord (entry : Parameter × String) : String :=
  "--" ++ entry.1.long ++ "=" ++ entry.2

theorem shape_attachedWord (entry : Parameter × String) :
    Shape.of (attachedWord entry) = .long entry.1.long (some entry.2) := by
  obtain ⟨parameter, value⟩ := entry
  have hlong : ∀ c ∈ parameter.long.toList, (decide (c ≠ '=')) = true := by
    rw [← List.all_eq_true]
    cases parameter <;> decide
  have hword : (attachedWord (parameter, value)).toList =
      '-' :: '-' :: (parameter.long.toList ++ '=' :: value.toList) := by
    simp [attachedWord, String.toList_append]
  have hname : (parameter.long.toList ++ '=' :: value.toList).takeWhile (· ≠ '=') =
      parameter.long.toList := by
    rw [List.takeWhile_append_of_pos hlong, List.takeWhile_cons]
    simp
  have hvalue : (parameter.long.toList ++ '=' :: value.toList).dropWhile (· ≠ '=') =
      '=' :: value.toList := by
    rw [List.dropWhile_append_of_pos hlong, List.dropWhile_cons]
    simp
  obtain ⟨c, cs, hcs⟩ : ∃ c cs, parameter.long.toList ++ '=' :: value.toList = c :: cs :=
    List.exists_cons_of_ne_nil (by simp)
  rw [hcs] at hword hname hvalue
  simp only [ne_eq, decide_not] at hname hvalue
  unfold Shape.of
  rw [hword]
  simp [hname, hvalue]

theorem attachedWord_ne_plain (entry : Parameter × String) {word : String}
    (hword : Shape.of word = .plain) : attachedWord entry ≠ word := by
  intro h
  have hshape := shape_attachedWord entry
  rw [h, hword] at hshape
  cases hshape

theorem ofWord?_attachedWord (entry : Parameter × String) :
    Verb.ofWord? (attachedWord entry) = none := by
  rw [Verb.ofWord?, List.find?_eq_none]
  intro verb _
  have hplain : Shape.of verb.word = .plain := by cases verb <;> decide
  simpa using (attachedWord_ne_plain entry hplain).symm

/-- The readings that only hold given parameters. -/
def Reading.ofGiven (given : List (Parameter × String)) : Reading :=
  { given }

theorem takeNamed_attachedWord {parameters : List Parameter} {entry : Parameter × String}
    (hfind : (parameters.find? fun parameter => parameter.long = entry.1.long) = some entry.1)
    (htaking : entry.1.taking ≠ .nothing) (given : List (Parameter × String)) :
    takeNamed parameters (.ofGiven given) (Shape.of (attachedWord entry)) =
      (Reading.ofGiven given).give entry.1 entry.2 := by
  rw [shape_attachedWord]
  simp only [takeNamed, hfind]
  unfold takeParameter
  cases htake : entry.1.taking with
  | nothing => exact absurd htake htaking
  | _ => rfl

theorem takeWord_attachedWord {entry : Parameter × String}
    (hentry : entry.1 ∈ Verb.send.parameters) (given : List (Parameter × String)) :
    takeWord .send (.ofGiven given) (attachedWord entry) =
      (Reading.ofGiven given).give entry.1 entry.2 := by
  have hall : ∀ parameter ∈ Verb.send.parameters, parameter.taking ≠ .nothing ∧
      (Verb.send.parameters.find? fun other => other.long = parameter.long) = some parameter := by
    decide
  obtain ⟨htaking, hfind⟩ := hall _ hentry
  have hplain : Shape.of (attachedWord entry) ≠ .plain := by
    rw [shape_attachedWord]
    simp
  unfold takeWord
  rw [if_neg (by simpa [Reading.ofGiven] using hplain)]
  exact takeNamed_attachedWord hfind htaking given

theorem check_cases (value : String) (taking : Taking) :
    taking.check value = .ok () ∨ IsRefused (taking.check value) := by
  unfold Taking.check
  cases taking with
  | path =>
      by_cases hempty : value.isEmpty = true
      · exact .inr ⟨.invalidValue, if_pos hempty, by decide⟩
      · exact .inl (if_neg hempty)
  | number =>
      by_cases hnumber : (number? value).isSome = true
      · exact .inl (if_pos hnumber)
      · exact .inr ⟨.valueValidation, if_neg hnumber, by decide⟩
  | text => exact .inl rfl
  | nothing => exact .inl rfl

theorem Reading.IsSound.of_append {given more : List (Parameter × String)}
    (h : (Reading.ofGiven (given ++ more)).IsSound) : (Reading.ofGiven given).IsSound := by
  obtain ⟨honce, hchecked⟩ := h
  rw [ofGiven, List.map_append, List.nodup_append] at honce
  exact ⟨honce.1, fun entry hentry => hchecked entry (List.mem_append_left more hentry)⟩

theorem Reading.IsSound.give_cases {given : List (Parameter × String)}
    (hsound : (Reading.ofGiven given).IsSound) (entry : Parameter × String) :
    (Reading.ofGiven given).give entry.1 entry.2 = .ok (.ofGiven (given ++ [entry])) ∧
        (Reading.ofGiven (given ++ [entry])).IsSound ∨
      IsRefused ((Reading.ofGiven given).give entry.1 entry.2) ∧
        ¬ (Reading.ofGiven (given ++ [entry])).IsSound := by
  by_cases hgiven : entry.1 ∈ (Reading.ofGiven given).given.map Prod.fst
  · refine .inr ⟨⟨.argumentConflict, by rw [give_eq, if_pos hgiven], by decide⟩, fun h => ?_⟩
    have honce := h.once
    rw [ofGiven, List.map_append, List.nodup_append] at honce
    exact honce.2.2 _ hgiven _ List.mem_cons_self rfl
  · have hgive : (Reading.ofGiven given).give entry.1 entry.2 =
        (entry.1.taking.check entry.2).map fun _ => .ofGiven (given ++ [entry]) := by
      rw [give_eq, if_neg hgiven]
      rfl
    rcases check_cases entry.2 entry.1.taking with hcheck | ⟨error, hcheck, hne⟩
    · rw [hcheck] at hgive
      exact .inl ⟨hgive, hsound.give hgive⟩
    · rw [hcheck] at hgive
      refine .inr ⟨⟨error, hgive, hne⟩, fun h => ?_⟩
      cases hcheck.symm.trans (h.checked entry (List.mem_append_right given List.mem_cons_self))

/-- Words with values attached are all given if that makes a sound reading, and else one of them is
refused. -/
theorem Reading.IsSound.takeWords_cases {given entries : List (Parameter × String)}
    (hsound : (Reading.ofGiven given).IsSound)
    (hown : ∀ entry ∈ entries, entry.1 ∈ Verb.send.parameters) :
    (entries.map attachedWord).foldlM (Command.takeWord Verb.send) (.ofGiven given) =
          .ok (.ofGiven (given ++ entries)) ∧
        (Reading.ofGiven (given ++ entries)).IsSound ∨
      IsRefused ((entries.map attachedWord).foldlM (Command.takeWord .send) (.ofGiven given)) ∧
        ¬ (Reading.ofGiven (given ++ entries)).IsSound := by
  induction entries generalizing given with
  | nil =>
      rw [List.append_nil]
      exact .inl ⟨rfl, hsound⟩
  | cons entry entries ih =>
      obtain ⟨hentry, hrest⟩ := List.forall_mem_cons.mp hown
      rw [List.map_cons, List.foldlM_cons, takeWord_attachedWord hentry,
        List.append_cons given entry entries]
      rcases hsound.give_cases entry with ⟨hgive, hnext⟩ | ⟨hrefused, hunsound⟩
      · rw [hgive]
        exact ih hnext hrest
      · exact .inr ⟨hrefused.bind _, fun h => hunsound h.of_append⟩

/-- A reading that agrees with a message on all parameters of sending makes up that message. -/
theorem ofReading_eq_send {reading : Reading} {a : SendArguments}
    (hcheck : checkSend reading = .ok ())
    (hvalue : ∀ parameter ≠ .config, reading.value? parameter = a.value? parameter) :
    ofReading reading .send = .ok (.send a) := by
  have hnumber (ms : UInt64) :
      (number? (String.ofList (Text.digits ms.toNat))).map UInt64.ofNat = some ms := by
    rw [number?_digits ms.toNat_lt, Option.map_some, UInt64.ofNat_toNat]
  have hpath (path : Option Path) : (path.map Path.text).map Path.mk = path := by
    cases path <;> rfl
  have hduration : ((a.value? .durationMs).bind number?).map UInt64.ofNat = a.durationMs := by
    rw [SendArguments.value?]
    cases a.durationMs with
    | none => rfl
    | some ms => exact hnumber ms
  unfold ofReading need
  rw [hcheck]
  simp only [hvalue, ne_eq, reduceCtorEq, not_false_eq_true]
  rw [hduration]
  simp only [SendArguments.value?, hpath]
  rfl

/-! ## Command lines for sending -/

/-- Whether a command line asks to send a message with these parameters, in some order. The
configuration file may be named before the command or anywhere among its parameters. -/
inductive IsSendLine (entries : List (Parameter × String)) : Option Path → List String → Prop
  | bare {order : List (Parameter × String)} (hperm : order.Perm entries) :
      IsSendLine entries none (Verb.send.word :: order.map attachedWord)
  | before {config : Path} {order : List (Parameter × String)} (hperm : order.Perm entries) :
      IsSendLine entries (some config)
        (attachedWord (.config, config.text) :: Verb.send.word :: order.map attachedWord)
  | among {config : Path} {order : List (Parameter × String)}
      (hperm : order.Perm ((.config, config.text) :: entries)) :
      IsSendLine entries (some config) (Verb.send.word :: order.map attachedWord)

theorem readLine_attachedWord_config (config : Path) (words : List String) :
    readLine (attachedWord (.config, config.text) :: words) =
      (Reading.ofGiven []).give .config config.text >>= fun reading => readWords reading words := by
  have hhelp : attachedWord (.config, config.text) ≠ "help" :=
    attachedWord_ne_plain _ (by decide)
  have hplain : Shape.of (attachedWord (.config, config.text)) ≠ .plain := by
    rw [shape_attachedWord]
    simp
  have htake : takeNamed [.config] (.ofGiven [])
      (Shape.of (attachedWord (.config, config.text))) =
        (Reading.ofGiven []).give .config config.text :=
    takeNamed_attachedWord rfl Taking.noConfusion []
  rw [← htake, readLine, readWords]
  simp [Reading.awaits, hhelp, hplain, ofWord?_attachedWord, Reading.ofGiven]

section

variable {entries : List (Parameter × String)}
  (hown : ∀ entry ∈ entries, entry.1 ∈ Verb.send.parameters)
include hown

omit hown in
theorem readCommand_of_takeWords {reading : Reading} {words : List String}
    (htake : words.foldlM (takeWord .send) (.ofGiven []) = .ok reading)
    (hidle : reading.pending = none) :
    readCommand .send words = (ofReading reading .send).map fun command =>
      ⟨(reading.value? .config).map Path.mk, some command⟩ := by
  have hsettle : reading.settle = .ok reading := by rw [Reading.settle, hidle]
  have hread : words.foldlM (takeWord .send) {} = .ok reading := htake
  unfold readCommand
  rw [hread]
  change (reading.settle >>= _) = _
  rw [hsettle]
  change (ofReading reading .send >>= _) = _
  cases ofReading reading .send <;> rfl

omit hown in
theorem isRefused_ofReading {reading : Reading} (h : IsRefused (checkSend reading)) :
    IsRefused (ofReading reading .send) :=
  h.bind _

theorem isRefused_readCommand
    (hbad : (Reading.ofGiven entries).IsSound → ¬ Fits (entries.map Prod.fst)) :
    IsRefused (readCommand .send (entries.map attachedWord)) := by
  have hempty : (Reading.ofGiven []).IsSound := Reading.isSound_nil rfl
  rcases hempty.takeWords_cases hown with ⟨htake, hsound⟩ | ⟨⟨error, htake, hne⟩, -⟩
  · rcases checkSend_cases (.ofGiven entries) with ⟨-, hfits⟩ | ⟨hrefused, -⟩
    · exact absurd hfits (hbad hsound)
    · obtain ⟨error, herror, hne⟩ := isRefused_ofReading hrefused
      refine ⟨error, ?_, hne⟩
      rw [readCommand_of_takeWords htake rfl, List.nil_append, herror]
      rfl
  · refine ⟨error, ?_, hne⟩
    have hread : (entries.map attachedWord).foldlM (takeWord .send) {} = .error error := htake
    unfold readCommand
    rw [hread]
    rfl

theorem readCommand_eq (hsound : (Reading.ofGiven entries).IsSound)
    (hfits : Fits (entries.map Prod.fst)) {a : SendArguments}
    (hvalue : ∀ parameter ≠ .config,
      (Reading.ofGiven entries).value? parameter = a.value? parameter) :
    readCommand .send (entries.map attachedWord) =
      .ok ⟨((Reading.ofGiven entries).value? .config).map Path.mk, some (.send a)⟩ := by
  have hempty : (Reading.ofGiven []).IsSound := Reading.isSound_nil rfl
  rcases hempty.takeWords_cases hown with ⟨htake, -⟩ | ⟨-, hunsound⟩
  · rcases checkSend_cases (.ofGiven entries) with ⟨hcheck, -⟩ | ⟨-, hunfit⟩
    · rw [readCommand_of_takeWords htake rfl, List.nil_append, ofReading_eq_send hcheck hvalue]
      rfl
    · exact absurd hfits hunfit
  · exact absurd hsound hunsound

end

theorem Reading.IsSound.perm {given others : List (Parameter × String)}
    (h : (Reading.ofGiven given).IsSound) (hperm : given.Perm others) :
    (Reading.ofGiven others).IsSound :=
  ⟨(hperm.map Prod.fst).nodup_iff.mp h.once,
    fun entry hentry => h.checked entry (hperm.mem_iff.mpr hentry)⟩

theorem Reading.IsSound.value?_eq {given : List (Parameter × String)}
    (h : (Reading.ofGiven given).IsSound) {parameter : Parameter} {value : Option String}
    (hvalue : ∀ v, (parameter, v) ∈ given ↔ value = some v) :
    (Reading.ofGiven given).value? parameter = value :=
  Option.ext fun v => (lookup_eq_some_iff_mem h.once).trans (hvalue v)

/-- Parameters that do not make up a message are refused in all orders. -/
theorem IsSendLine.isRefused_readLine {entries : List (Parameter × String)}
    (hown : ∀ entry ∈ entries, entry.1 ∈ Verb.send.parameters)
    (hbad : (Reading.ofGiven entries).IsSound → ¬ Fits (entries.map Prod.fst))
    {config : Option Path} {line : List String} (hline : IsSendLine entries config line) :
    IsRefused (readLine line) := by
  have hrefused {order : List (Parameter × String)} (hperm : order.Perm entries) :
      IsRefused (readCommand .send (order.map attachedWord)) :=
    isRefused_readCommand (fun entry hentry => hown entry (hperm.mem_iff.mp hentry))
      fun hsound hfits => hbad (hsound.perm hperm) (hfits.perm (hperm.map Prod.fst))
  cases hline with
  | bare hperm => exact (hrefused hperm).bind _
  | @before config order hperm =>
      rw [readLine_attachedWord_config]
      have hempty : (Reading.ofGiven []).IsSound := Reading.isSound_nil rfl
      rcases hempty.give_cases (.config, config.text) with ⟨hgive, -⟩ | ⟨hgive, -⟩
      · rw [hgive]
        exact (hrefused hperm).bind _
      · exact hgive.bind _
  | @among config order hperm =>
      have hlast : order.Perm (entries ++ [(.config, config.text)]) :=
        hperm.trans (List.perm_append_singleton _ _).symm
      refine IsRefused.bind (isRefused_readCommand ?_ fun hsound hfits => ?_) _
      · intro entry hentry
        rcases List.mem_cons.mp (hperm.mem_iff.mp hentry) with rfl | hentry
        · exact List.mem_cons_self
        · exact hown entry hentry
      · exact hbad (hsound.perm hlast).of_append
          (fits_config_cons_iff.mp (hfits.perm (hperm.map Prod.fst)))

section Complete

variable {a : SendArguments} (ha : a.IsComplete) {order : List (Parameter × String)}
include ha

theorem isSound_options : (Reading.ofGiven a.options).IsSound :=
  ⟨SendArguments.nodup_options, fun _ => ha.check_options⟩

/-- The words for a message are read as that message. -/
theorem readCommand_options (hperm : order.Perm a.options) :
    readCommand .send (order.map attachedWord) = .ok ⟨none, some (.send a)⟩ := by
  have hsound := isSound_options ha
  have hvalue (parameter : Parameter) :
      (Reading.ofGiven order).value? parameter = a.value? parameter :=
    (hsound.perm hperm.symm).value?_eq fun v =>
      hperm.mem_iff.trans SendArguments.mem_options_iff
  rw [readCommand_eq ?_ (hsound.perm hperm.symm) (ha.fits.perm (hperm.symm.map Prod.fst))
    fun p _ => hvalue p, hvalue]
  · rfl
  · intro entry hentry
    exact SendArguments.mem_parameters_of_mem_options (hperm.mem_iff.mp hentry)

/-- The words for a message and for a configuration are read as both. -/
theorem readCommand_options_config {config : Path} (hconfig : config.text ≠ "")
    (hperm : order.Perm ((.config, config.text) :: a.options)) :
    readCommand .send (order.map attachedWord) = .ok ⟨some config, some (.send a)⟩ := by
  have hsound := isSound_options ha
  have hboth : (Reading.ofGiven ((.config, config.text) :: a.options)).IsSound := by
    refine ⟨List.nodup_cons.mpr ⟨?_, hsound.once⟩, List.forall_mem_cons.mpr ⟨?_, hsound.checked⟩⟩
    · exact mt SendArguments.mem_map_fst_options_iff.mp Bool.false_ne_true
    · exact if_neg (by simpa using hconfig)
  have hvalue {parameter : Parameter} (hne : parameter ≠ .config) :
      (Reading.ofGiven order).value? parameter = a.value? parameter :=
    (hboth.perm hperm.symm).value?_eq fun v => by
      rw [← SendArguments.mem_options_iff, hperm.mem_iff]
      simp [hne]
  have hnamed : (Reading.ofGiven order).value? .config = some config.text :=
    (hboth.perm hperm.symm).value?_eq fun v => by
      have hnot : (Parameter.config, v) ∉ a.options :=
        fun h => nomatch SendArguments.mem_options_iff.mp h
      rw [hperm.mem_iff]
      simp [hnot, eq_comm]
  rw [readCommand_eq ?_ (hboth.perm hperm.symm) ?_ fun _ => hvalue, hnamed]
  · rfl
  · intro entry hentry
    rcases List.mem_cons.mp (hperm.mem_iff.mp hentry) with rfl | hentry
    · exact List.mem_cons_self
    · exact SendArguments.mem_parameters_of_mem_options hentry
  · exact (fits_config_cons_iff.mpr ha.fits).perm (hperm.symm.map Prod.fst)

theorem IsSendLine.readLine_eq {config : Option Path}
    (hconfig : ∀ path, config = some path → path.text ≠ "") {line : List String}
    (hline : IsSendLine a.options config line) :
    readLine line = .ok ⟨config, some (.send a)⟩ := by
  cases hline with
  | @bare order hperm =>
      change readCommand .send (order.map attachedWord) >>= finish (.ofGiven []) = _
      rw [readCommand_options ha hperm]
      rfl
  | @before config order hperm =>
      have hnamed : (Reading.ofGiven [(.config, config.text)]).IsSound := by
        refine ⟨by simp [Reading.ofGiven], fun entry hentry => ?_⟩
        rw [List.mem_singleton.mp hentry]
        exact if_neg (by simpa using hconfig config rfl)
      have hempty : (Reading.ofGiven []).IsSound := Reading.isSound_nil rfl
      rw [readLine_attachedWord_config]
      rcases hempty.give_cases (.config, config.text) with ⟨hgive, -⟩ | ⟨-, hunsound⟩
      · rw [hgive]
        change readCommand .send (order.map attachedWord) >>=
          finish (.ofGiven [(.config, config.text)]) = _
        rw [readCommand_options ha hperm]
        rfl
      · exact absurd hnamed hunsound
  | @among config order hperm =>
      change readCommand .send (order.map attachedWord) >>= finish (.ofGiven []) = _
      rw [readCommand_options_config ha (hconfig config rfl) hperm]
      rfl

end Complete

/-- All orders of the words for a message are read as that message. None is once a second content
or another value for a parameter is added, or the chat, the content or the length of a recording is
left out. -/
theorem readLine_sendLine {a : SendArguments} (ha : a.IsComplete) {config : Option Path}
    (hconfig : ∀ path, config = some path → path.text ≠ "") :
    (∀ line, IsSendLine a.options config line →
      readLine line = .ok ⟨config, some (.send a)⟩) ∧
    (∀ second ∈ contentParameters, a.value? second = none → ∀ value line,
      IsSendLine ((second, value) :: a.options) config line → IsRefused (readLine line)) ∧
    (∀ repeated, (a.value? repeated).isSome → ∀ value line,
      IsSendLine ((repeated, value) :: a.options) config line → IsRefused (readLine line)) ∧
    (∀ dropped, dropped = .chat ∨ dropped ∈ a.contents ∨ dropped = .durationMs ∧ a.voice.isSome →
      ∀ line, IsSendLine (a.options.filter (·.1 ≠ dropped)) config line →
        IsRefused (readLine line)) := by
  have hown : ∀ entry ∈ a.options, entry.1 ∈ Verb.send.parameters := fun _ =>
    SendArguments.mem_parameters_of_mem_options
  refine ⟨fun line hline => hline.readLine_eq ha hconfig, ?_, ?_, ?_⟩
  · intro second hsecond hnone value line hline
    have hall : ∀ parameter ∈ contentParameters, parameter ∈ Verb.send.parameters := by decide
    exact hline.isRefused_readLine (List.forall_mem_cons.mpr ⟨hall second hsecond, hown⟩)
      fun _ => ha.not_fits_cons hsecond hnone
  · intro repeated hset value line hline
    refine hline.isRefused_readLine (List.forall_mem_cons.mpr ⟨?_, hown⟩) fun hsound _ => ?_
    · exact SendArguments.mem_parameters_of_isSome_value? hset
    · exact (List.nodup_cons.mp hsound.once).1 (SendArguments.mem_map_fst_options_iff.mpr hset)
  · intro dropped hdropped line hline
    exact hline.isRefused_readLine (fun entry hentry => hown entry (List.mem_filter.mp hentry).1)
      fun _ => ha.not_fits_drop hdropped

/-- A recording whose file name looks like a parameter, with an empty caption. -/
def takeOne : SendArguments where
  chat := "amy"
  voice := some ⟨"--take=1"⟩
  durationMs := some 1500
  caption := some ""

/-- The recording is read from its words in another order, and is refused without its length. -/
theorem readLine_takeOne :
    readLine (Verb.send.word :: [(.durationMs, "1500"), (.caption, ""),
        (.config, "my files/c.toml"), (.voice, "--take=1"), (.chat, "amy")].map attachedWord) =
      .ok ⟨some ⟨"my files/c.toml"⟩, some (.send takeOne)⟩ ∧
    IsRefused (readLine (Verb.send.word :: [(.caption, ""), (.voice, "--take=1"),
        (.config, "my files/c.toml"), (.chat, "amy")].map attachedWord)) := by
  have hcomplete : takeOne.IsComplete :=
    ⟨⟨.voice, by decide⟩, fun _ => rfl, by simp [takeOne]⟩
  have hconfig (path : Path) (h : some ⟨"my files/c.toml"⟩ = some path) : path.text ≠ "" := by
    cases h
    decide
  obtain ⟨hread, -, -, hdropped⟩ := readLine_sendLine hcomplete hconfig
  exact ⟨hread _ (.among (by decide)), hdropped .durationMs (.inr (.inr ⟨rfl, rfl⟩)) _
    (.among (by decide))⟩

end Command

end Courier
