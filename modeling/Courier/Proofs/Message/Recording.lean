import Courier.Message.Preview
import Courier.Proofs.Text.Numeral

/-!
# The length of a recording

The preview of a recording shows its whole seconds as minutes and seconds. Each number of seconds is
shown by just one text, and each text shows just one number of seconds.
-/

namespace Courier

open Text

variable {total total' : Nat} {minutes seconds minutes' seconds' : List Char}

/-- The two numerals a number of seconds is shown by. Minutes have no leading zeros, and what is
left below a minute always has two digits. -/
structure AreMinutesAndSeconds (total : Nat) (minutes seconds : List Char) : Prop where
  minutes_plain : IsPlainNumeral minutes
  seconds_isDigit : ∀ c ∈ seconds, c.isDigit = true
  seconds_length : seconds.length = 2
  seconds_lt : ofDigits seconds < 60
  total_eq : 60 * ofDigits minutes + ofDigits seconds = total

theorem areMinutesAndSeconds_digits (total : Nat) :
    AreMinutesAndSeconds total (digits (total / 60)) (paddedDigits 2 (total % 60)) where
  minutes_plain := isPlainNumeral_digits (total / 60)
  seconds_isDigit := fun _ => isDigit_of_mem_paddedDigits
  seconds_length := by
    have hlt : total % 60 < Nat.pow 10 2 := Nat.lt_trans (Nat.mod_lt total (by decide)) (by decide)
    exact length_paddedDigits (by decide) hlt
  seconds_lt := by
    rw [ofDigits_paddedDigits]
    exact Nat.mod_lt total (by decide)
  total_eq := by
    rw [ofDigits_digits, ofDigits_paddedDigits]
    exact Nat.div_add_mod total 60

/-- There is only one way to show a number of seconds. -/
theorem AreMinutesAndSeconds.eq_digits (h : AreMinutesAndSeconds total minutes seconds) :
    minutes = digits (total / 60) ∧ seconds = paddedDigits 2 (total % 60) := by
  have hlt := h.seconds_lt
  have htotal := h.total_eq
  have hminutes : total / 60 = ofDigits minutes := by omega
  have hseconds : total % 60 = ofDigits seconds := by omega
  have hne : seconds ≠ [] := List.ne_nil_of_length_pos (by rw [h.seconds_length]; decide)
  constructor
  · rw [hminutes, h.minutes_plain.digits_ofDigits]
  · rw [hseconds, ← h.seconds_length, paddedDigits_ofDigits hne h.seconds_isDigit]

/-- A text shows only one number of seconds. -/
theorem AreMinutesAndSeconds.total_unique (h : AreMinutesAndSeconds total minutes seconds)
    (h' : AreMinutesAndSeconds total' minutes' seconds')
    (htext : minutes ++ ':' :: seconds = minutes' ++ ':' :: seconds') : total = total' := by
  -- Both end in two digits, so the colon stands at the same place in them.
  have hwidth : (':' :: seconds).length = (':' :: seconds').length := by
    rw [List.length_cons, List.length_cons, h.seconds_length, h'.seconds_length]
  obtain ⟨rfl, htail⟩ := List.append_inj' htext hwidth
  obtain rfl := List.tail_eq_of_cons_eq htail
  exact h.total_eq.symm.trans h'.total_eq

namespace Recording

variable (recording other : Recording)

theorem length_eq_iff (text : String) :
    recording.length = text ↔
      ∃ minutes seconds,
        AreMinutesAndSeconds (recording.durationMs.toNat / 1000) minutes seconds ∧
          text = String.ofList (minutes ++ ':' :: seconds) := by
  constructor
  · rintro rfl
    exact ⟨_, _, areMinutesAndSeconds_digits _, rfl⟩
  · rintro ⟨minutes, seconds, hparts, rfl⟩
    obtain ⟨rfl, rfl⟩ := hparts.eq_digits
    rfl

/-- Lengths are shown alike exactly if their whole seconds agree. -/
theorem length_inj :
    recording.length = other.length ↔
      recording.durationMs.toNat / 1000 = other.durationMs.toNat / 1000 := by
  constructor
  · intro hlength
    obtain ⟨minutes, seconds, hparts, htext⟩ := (recording.length_eq_iff _).mp hlength
    obtain ⟨minutes', seconds', hparts', htext'⟩ := (other.length_eq_iff _).mp rfl
    exact hparts.total_unique hparts' (String.ofList_injective (htext.symm.trans htext'))
  · intro hseconds
    obtain ⟨minutes, seconds, hparts, htext⟩ := (recording.length_eq_iff _).mp rfl
    rw [hseconds] at hparts
    rw [(other.length_eq_iff _).mpr ⟨minutes, seconds, hparts, htext⟩]

end Recording

namespace Payload

theorem preview_audioRecording (recording : Recording) :
    (audioRecording recording).preview = "🔊 audio (" ++ recording.length ++ ")" :=
  rfl

/-- The preview of a recording is the one text that shows its whole seconds as minutes and seconds,
so two recordings look alike exactly if they have equally many of them. -/
theorem preview_shows_wholeSeconds :
    (∀ (recording : Recording) (text : String),
      (audioRecording recording).preview = text ↔
        ∃ minutes seconds,
          AreMinutesAndSeconds (recording.durationMs.toNat / 1000) minutes seconds ∧
            text = "🔊 audio (" ++ String.ofList (minutes ++ ':' :: seconds) ++ ")") ∧
    ∀ recording other : Recording,
      (audioRecording recording).preview = (audioRecording other).preview ↔
        recording.durationMs.toNat / 1000 = other.durationMs.toNat / 1000 := by
  constructor
  · intro recording text
    rw [preview_audioRecording]
    constructor
    · rintro rfl
      obtain ⟨minutes, seconds, hparts, hlength⟩ := (recording.length_eq_iff _).mp rfl
      exact ⟨minutes, seconds, hparts, by rw [hlength]⟩
    · rintro ⟨minutes, seconds, hparts, rfl⟩
      rw [(recording.length_eq_iff _).mpr ⟨minutes, seconds, hparts, rfl⟩]
  · intro recording other
    rw [preview_audioRecording, preview_audioRecording, String.append_left_inj,
      String.append_right_inj]
    exact recording.length_inj other

/-- The longest recording there can be. -/
example : (audioRecording ⟨"file:///a.m4a", 18446744073709551615⟩).preview =
    "🔊 audio (307445734561825:51)" := by
  decide

end Payload

end Courier
