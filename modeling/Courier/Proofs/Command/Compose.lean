import Courier.Command.Compose
import Courier.Proofs.Command.Line
import Courier.Proofs.Text.Blank

/-!
# Payloads of accepted command lines

A command line is only accepted for sending if it says what to send, once. So composing its payload
fails for blank texts and for files without a name, and for nothing else. It never finds a content
or the length of a recording missing.
-/

namespace Courier

/-- The parameter for a kind of content. -/
def ContentKind.parameter : ContentKind → Command.Parameter
  | text => .text
  | link => .link
  | image => .image
  | video => .video
  | file => .file
  | audioRecording => .voice
  | contactBundle => .contact

namespace Command

/-! ## Accepted command lines -/

theorem command_of_finish {reading : Reading} {invocation final : Invocation}
    (h : finish reading invocation = .ok final) : final.command = invocation.command := by
  obtain ⟨_, -, hfinal⟩ := bind_eq_ok h
  cases hfinal
  rfl

theorem verb_of_ofReading {reading : Reading} {verb : Verb} {a : SendArguments}
    (h : ofReading reading verb = .ok (.send a)) : verb = .send := by
  cases verb with
  | send => rfl
  | retry =>
      obtain ⟨_, -, hretry⟩ := bind_eq_ok h
      cases hretry
  | receive =>
      obtain ⟨_, -, hreceive⟩ := bind_eq_ok h
      cases hreceive
  | chats => cases h
  | addChat =>
      obtain ⟨_, -, hchat⟩ := bind_eq_ok h
      obtain ⟨_, -, hname⟩ := bind_eq_ok hchat
      cases hname

/-- A message that is sent is made up from a sound reading. -/
theorem send_of_readCommand {verb : Verb} {words : List String} {invocation : Invocation}
    {a : SendArguments} (h : readCommand verb words = .ok invocation)
    (hsend : invocation.command = some (.send a)) :
    ∃ reading : Reading, reading.IsSound ∧ ofReading reading .send = .ok (.send a) := by
  obtain ⟨taken, htaken, hrest⟩ := bind_eq_ok h
  obtain ⟨reading, hsettle, hmade⟩ := bind_eq_ok hrest
  obtain ⟨command, hcommand, hinvocation⟩ := bind_eq_ok hmade
  cases hinvocation
  obtain rfl := Option.some.inj hsend
  have hempty : ({} : Reading).IsSound := Reading.isSound_nil rfl
  obtain rfl := verb_of_ofReading hcommand
  exact ⟨reading, (hempty.takeWords htaken).settle hsettle, hcommand⟩

theorem send_of_readWords {reading : Reading} {words : List String} {invocation : Invocation}
    {a : SendArguments} (h : readWords reading words = .ok invocation)
    (hsend : invocation.command = some (.send a)) :
    ∃ sound : Reading, sound.IsSound ∧ ofReading sound .send = .ok (.send a) := by
  induction words generalizing reading with
  | nil =>
      rw [readWords] at h
      cases (command_of_finish h).symm.trans hsend
  | cons word words ih =>
      rw [readWords] at h
      split at h
      · cases h
      · split at h
        · obtain ⟨inner, hcommand, hfinish⟩ := bind_eq_ok h
          exact send_of_readCommand hcommand ((command_of_finish hfinish).symm.trans hsend)
        · split at h
          · cases h
          · split at h
            · obtain ⟨next, -, hnext⟩ := bind_eq_ok h
              exact ih hnext
            · split at h
              · obtain ⟨next, -, hnext⟩ := bind_eq_ok h
                exact ih hnext
              · cases h

end Command

namespace SendArguments

open Command

/-- The ways in which a message cannot be composed: its text is blank, or the file it shares has no
name. -/
inductive HasFault (a : SendArguments) : ComposeError → Prop
  | blankText {text : String} (htext : a.text = some text) (hblank : Text.trim text = "") :
      HasFault a .emptyText
  | namelessFile {p : Path} (hp : some p ∈ [a.image, a.video, a.file])
      (hname : p.fileName? = none) : HasFault a (.noFileName p)

variable {a : SendArguments} {kind : ContentKind}

theorem hasFault_iff {fault : ComposeError} :
    a.HasFault fault ↔
      (∃ text, a.text = some text ∧ Text.trim text = "" ∧ .emptyText = fault) ∨
      ∃ p, some p ∈ [a.image, a.video, a.file] ∧ p.fileName? = none ∧ .noFileName p = fault := by
  constructor
  · rintro (⟨htext, hblank⟩ | ⟨hp, hname⟩)
    · exact .inl ⟨_, htext, hblank, rfl⟩
    · exact .inr ⟨_, hp, hname, rfl⟩
  · rintro (⟨text, htext, hblank, rfl⟩ | ⟨p, hp, hname, rfl⟩)
    · exact .blankText htext hblank
    · exact .namelessFile hp hname

/-- Whether a payload is of the kind that was asked for, or there is none for the fault of the
message. -/
structure IsComposed (a : SendArguments) (kind : ContentKind)
    (result : Except ComposeError Payload) : Prop where
  fault : ∀ fault, result = .error fault ↔ a.HasFault fault
  kind : ∀ payload, result = .ok payload → payload.kind = kind

theorem isComposed_text {text : String}
    (hfault : ∀ fault, a.HasFault fault ↔ Text.trim text = "" ∧ .emptyText = fault) :
    a.IsComposed .text
      (if Text.isBlankText text then .error .emptyText else .ok (.text (Text.trim text))) := by
  by_cases hblank : Text.isBlankText text = true
  · have htrim := Text.isBlankText_iff.mp hblank
    rw [if_pos hblank]
    exact ⟨fun fault => by simp [hfault, htrim], fun _ h => nomatch h⟩
  · have htrim := mt Text.isBlankText_iff.mpr hblank
    rw [if_neg hblank]
    exact ⟨fun fault => by simp [hfault, htrim], fun _ h => by cases h; rfl⟩

theorem isComposed_ofPath {p folder : Path} {caption : Option String} {make : Media → Payload}
    (hfault : ∀ fault, a.HasFault fault ↔ p.fileName? = none ∧ .noFileName p = fault)
    (hkind : ∀ media, (make media).kind = kind) :
    a.IsComposed kind ((Media.ofPath folder p caption).map make) := by
  unfold Media.ofPath
  cases hname : p.fileName? with
  | none => exact ⟨fun fault => by simp [hfault, hname, Except.map], fun _ h => nomatch h⟩
  | some name =>
      exact ⟨fun fault => by simp [hfault, hname, Except.map], fun _ h => by cases h; exact hkind _⟩

theorem isComposed_ok {payload : Payload} (hfault : ∀ fault, ¬ a.HasFault fault)
    (hkind : payload.kind = kind) : a.IsComposed kind (.ok payload) :=
  ⟨fun fault => by simp [hfault], fun _ h => by cases h; exact hkind⟩

theorem isSome_value?_of_contents (h : a.contents = [kind.parameter]) {parameter : Parameter}
    (hparameter : parameter ∈ contentParameters) :
    (a.value? parameter).isSome = decide (parameter = kind.parameter) := by
  have hmem : parameter ∈ a.contents ↔ (a.value? parameter).isSome = true := by
    rw [contents, List.mem_filter, and_iff_right hparameter]
  rw [Bool.eq_iff_iff, ← hmem, h, List.mem_singleton, decide_eq_true_eq]

/-- A message with one content, and a length if that is a recording, is composed or has a fault. -/
theorem isComposed_payload (h : a.contents = [kind.parameter])
    (hduration : a.voice.isSome → a.durationMs.isSome) (folder : Path) (bundleId : String) :
    a.IsComposed kind (a.payload folder bundleId) := by
  have hset (parameter : Parameter) (hparameter : parameter ∈ contentParameters) :=
    isSome_value?_of_contents h hparameter
  have htext : a.text.isSome = decide (Parameter.text = kind.parameter) := hset .text (by decide)
  have hlink : a.link.isSome = decide (Parameter.link = kind.parameter) := hset .link (by decide)
  have himage : a.image.isSome = decide (Parameter.image = kind.parameter) := by
    rw [← hset .image (by decide), value?, Option.isSome_map]
  have hvideo : a.video.isSome = decide (Parameter.video = kind.parameter) := by
    rw [← hset .video (by decide), value?, Option.isSome_map]
  have hfile : a.file.isSome = decide (Parameter.file = kind.parameter) := by
    rw [← hset .file (by decide), value?, Option.isSome_map]
  have hvoice : a.voice.isSome = decide (Parameter.voice = kind.parameter) := by
    rw [← hset .voice (by decide), value?, Option.isSome_map]
  have hcontact : a.contact.isSome = decide (Parameter.contact = kind.parameter) :=
    hset .contact (by decide)
  clear hset h
  obtain ⟨chat, text, link, image, video, file, voice, durationMs, contact, caption, replyTo,
    messageId, recipient⟩ := a
  cases kind <;> simp only [ContentKind.parameter, reduceCtorEq, decide_true, decide_false,
    Option.isSome_eq_false_iff, Option.isNone_iff_eq_none, Option.isSome_iff_exists]
    at htext hlink himage hvideo hfile hvoice hcontact
  case text =>
    obtain ⟨text, rfl⟩ := htext
    subst hlink himage hvideo hfile hvoice hcontact
    exact isComposed_text fun fault => by simp [hasFault_iff]
  case link =>
    obtain ⟨url, rfl⟩ := hlink
    subst htext himage hvideo hfile hvoice hcontact
    exact isComposed_ok (fun fault => by simp [hasFault_iff]) rfl
  case image =>
    obtain ⟨p, rfl⟩ := himage
    subst htext hlink hvideo hfile hvoice hcontact
    exact isComposed_ofPath (fun fault => by simp [hasFault_iff]) fun _ => rfl
  case video =>
    obtain ⟨p, rfl⟩ := hvideo
    subst htext hlink himage hfile hvoice hcontact
    exact isComposed_ofPath (fun fault => by simp [hasFault_iff]) fun _ => rfl
  case file =>
    obtain ⟨p, rfl⟩ := hfile
    subst htext hlink himage hvideo hvoice hcontact
    exact isComposed_ofPath (fun fault => by simp [hasFault_iff]) fun _ => rfl
  case audioRecording =>
    obtain ⟨p, rfl⟩ := hvoice
    obtain ⟨ms, rfl⟩ := Option.isSome_iff_exists.mp (hduration rfl)
    subst htext hlink himage hvideo hfile hcontact
    exact isComposed_ok (fun fault => by simp [hasFault_iff]) rfl
  case contactBundle =>
    obtain ⟨name, rfl⟩ := hcontact
    subst htext hlink himage hvideo hfile hvoice
    exact isComposed_ok (fun fault => by simp [hasFault_iff]) rfl

end SendArguments

namespace Command

theorem exists_kind_of_mem_contentParameters {content : Parameter}
    (h : content ∈ contentParameters) : ∃ kind : ContentKind, content = kind.parameter := by
  cases content with
  | text => exact ⟨.text, rfl⟩
  | link => exact ⟨.link, rfl⟩
  | image => exact ⟨.image, rfl⟩
  | video => exact ⟨.video, rfl⟩
  | file => exact ⟨.file, rfl⟩
  | voice => exact ⟨.audioRecording, rfl⟩
  | contact => exact ⟨.contactBundle, rfl⟩
  | _ => exact absurd h (by decide)

/-- A message that is made up from a sound reading has one content, and a length if that is a
recording. -/
theorem Reading.IsSound.contents_of_ofReading {reading : Reading} (hsound : reading.IsSound)
    {a : SendArguments} (h : ofReading reading .send = .ok (.send a)) :
    (∃ kind : ContentKind, a.contents = [kind.parameter]) ∧
      (a.voice.isSome → a.durationMs.isSome) := by
  obtain ⟨hfits, _, hsame, hset⟩ := hsound.ofReading_cases h
  cases hsame
  have hgiven (parameter : Parameter) (hparameter : parameter ∈ Verb.send.parameters)
      (hne : parameter ≠ .config) :
      (a.value? parameter).isSome = true ↔ parameter ∈ reading.given.map Prod.fst := by
    rw [hset parameter hparameter hne, isSome_value?_iff]
  constructor
  · obtain ⟨content, hcontent⟩ := hfits.oneContent
    have hcontents : a.contents = [content] := by
      have hown : ∀ parameter ∈ contentParameters,
          parameter ∈ Verb.send.parameters ∧ parameter ≠ .config := by decide
      rw [← hcontent, SendArguments.contents]
      refine List.filter_congr fun parameter hparameter => ?_
      rw [Bool.eq_iff_iff, decide_eq_true_eq]
      exact hgiven parameter (hown parameter hparameter).1 (hown parameter hparameter).2
    have hmem : content ∈ contentParameters :=
      (List.mem_filter.mp (hcontent ▸ List.mem_singleton_self content)).1
    obtain ⟨kind, rfl⟩ := exists_kind_of_mem_contentParameters hmem
    exact ⟨kind, hcontents⟩
  · have hvoice := hgiven .voice (by decide) (by decide)
    have hduration := hgiven .durationMs (by decide) (by decide)
    simp only [SendArguments.value?, Option.isSome_map] at hvoice hduration
    exact fun h => hduration.mpr (hfits.duration (hvoice.mp h))

/-- Every command line that is accepted for sending names one content. Its payload is of that kind,
unless the text is blank or the file has no name. -/
theorem payload_of_readLine {words : List String} {invocation : Invocation} {a : SendArguments}
    (h : readLine words = .ok invocation) (hsend : invocation.command = some (.send a))
    (folder : Path) (bundleId : String) :
    ∃ kind : ContentKind, a.contents = [kind.parameter] ∧
      (∀ fault, a.payload folder bundleId = .error fault ↔ a.HasFault fault) ∧
      ((∀ fault, ¬ a.HasFault fault) →
        ∃ payload, a.payload folder bundleId = .ok payload ∧ payload.kind = kind) ∧
      a.payload folder bundleId ≠ .error .noContent ∧
      a.payload folder bundleId ≠ .error .missingDuration := by
  obtain ⟨reading, hsound, hmade⟩ := send_of_readWords h hsend
  obtain ⟨⟨kind, hcontents⟩, hduration⟩ := hsound.contents_of_ofReading hmade
  have hcomposed := SendArguments.isComposed_payload hcontents hduration folder bundleId
  refine ⟨kind, hcontents, hcomposed.fault, fun hnone => ?_, fun h => ?_, fun h => ?_⟩
  · cases hpayload : a.payload folder bundleId with
    | error fault => exact absurd ((hcomposed.fault fault).mp hpayload) (hnone fault)
    | ok payload => exact ⟨payload, rfl, hcomposed.kind payload hpayload⟩
  · cases (hcomposed.fault _).mp h
  · cases (hcomposed.fault _).mp h

/-- An image at the root folder is accepted, but it has no name. -/
theorem payload_namelessImage :
    readLine ["send", "--image", "/", "-cfiles/c.toml", "--chat=amy"] =
      .ok ⟨some ⟨"files/c.toml"⟩, some (.send { chat := "amy", image := some ⟨"/"⟩ })⟩ ∧
    SendArguments.payload { chat := "amy", image := some ⟨"/"⟩ } ⟨"/home"⟩ "" =
      .error (.noFileName ⟨"/"⟩) := by
  have hread : readLine ["send", "--image", "/", "-cfiles/c.toml", "--chat=amy"] =
      .ok ⟨some ⟨"files/c.toml"⟩, some (.send { chat := "amy", image := some ⟨"/"⟩ })⟩ := by
    decide
  obtain ⟨_, -, hfault, -⟩ := payload_of_readLine hread rfl ⟨"/home"⟩ ""
  exact ⟨hread, (hfault _).mpr (.namelessFile (by simp) (by decide))⟩

end Command

end Courier
