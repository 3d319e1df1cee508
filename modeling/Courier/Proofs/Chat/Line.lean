import Courier.Chat.Line
import Courier.Message.Preview
import Courier.Proofs.Text.Blank
import Courier.Proofs.Text.Lines
import Courier.Proofs.Text.Numeral

/-!
# Line feeds in the line of a chat

The line of a chat is one line exactly if its name and its latest text hold no line feed, since
nothing else in it does. A preview holds one only if a text of the message does.
-/

namespace Courier

open Text

/-! ## Timestamps and numbers -/

theorem not_mem_paddedDigits (width n : Nat) : '\n' ∉ paddedDigits width n :=
  fun h => absurd (isDigit_of_mem_paddedDigits h) (by decide)

theorem not_mem_writeYear (year : Int) : '\n' ∉ Timestamp.writeYear year := by
  unfold Timestamp.writeYear
  split
  next => exact not_mem_paddedDigits 4 _
  next =>
    rw [List.mem_cons, not_or]
    refine ⟨?_, not_mem_paddedDigits 4 _⟩
    split <;> decide

theorem breaks_writeToMinute (t : Instant) : breaks (Timestamp.writeToMinute t) = 0 := by
  rw [breaks_eq_zero_iff, Timestamp.writeToMinute, String.toList_ofList]
  simp [Timestamp.writeDate, Timestamp.writeMinute, not_mem_paddedDigits, not_mem_writeYear]

theorem breaks_toString (n : Nat) : breaks (toString n) = 0 := by
  have hdigits : (toString n).toList = digits n := Nat.toList_repr
  rw [breaks_eq_zero_iff, hdigits]
  exact fun h => absurd (isDigit_of_mem_digits h) (by decide)

/-! ## The line of a chat -/

namespace Connection

variable (connection : Connection)

theorem breaks_activityText : breaks connection.activityText = 0 := by
  rw [activityText]
  split
  next => exact breaks_writeToMinute _
  next => rfl

theorem breaks_unreadText : breaks connection.unreadText = 0 := by
  rw [unreadText]
  split
  next =>
    rw [breaks_append, breaks_append, breaks_toString]
    rfl
  next => rfl

/-- The line feeds in the line of a chat are those in its name and those in its latest text. -/
theorem breaks_line :
    breaks connection.line = breaks connection.name + breaks connection.summary.text := by
  have hkind : breaks connection.kind.word = 0 := by
    cases connection.kind <;> rfl
  have hstate : breaks (if connection.disconnected then " [disconnected]" else "") = 0 := by
    split <;> rfl
  have hspace : breaks "  " = 0 := rfl
  have hopening : breaks " [" = 0 := rfl
  have hclosing : breaks "]" = 0 := rfl
  simp only [line, breaks_append, breaks_activityText, breaks_unreadText, hkind, hstate, hspace,
    hopening, hclosing, Nat.add_zero, Nat.zero_add]

end Connection

/-! ## Previews -/

theorem breaks_trim {text : String} (htext : breaks text = 0) : breaks (trim text) = 0 := by
  rw [breaks_eq_zero_iff] at htext ⊢
  exact fun h => htext (mem_of_mem_trim h)

theorem Media.breaks_preview {media : Media} {icon replacement : String} (hicon : breaks icon = 0)
    (hreplacement : breaks replacement = 0)
    (hcaption : ∀ caption ∈ media.caption, breaks caption = 0) :
    breaks (media.preview icon replacement) = 0 := by
  have hspace : breaks " " = 0 := rfl
  rw [preview, breaks_append, breaks_append, hicon, hspace, shownCaption]
  cases hshown : media.caption with
  | none => simpa using hreplacement
  | some caption =>
      rw [Option.bind_some]
      split
      next => simpa using hreplacement
      next => simpa using breaks_trim (hcaption caption hshown)

theorem Recording.breaks_length (recording : Recording) : breaks recording.length = 0 := by
  rw [breaks_eq_zero_iff, Recording.length, String.toList_ofList]
  have hminutes : ∀ n, '\n' ∉ digits n := fun n h =>
    absurd (isDigit_of_mem_digits h) (by decide)
  simp [hminutes, not_mem_paddedDigits]

namespace Payload

/-- The texts of a message that its preview is made of. -/
def texts : Payload → List String
  | text body => [body]
  | link body url => [body, url]
  | image media => media.caption.toList
  | video media => media.caption.toList
  | file media => media.fileName :: media.caption.toList
  | audioRecording _ => []
  | contactBundle contact => [contact.name]

/-- A preview of texts without line feeds has none. -/
theorem breaks_preview {payload : Payload} (htexts : ∀ text ∈ payload.texts, breaks text = 0) :
    breaks payload.preview = 0 := by
  cases payload with
  | text body => exact htexts body (by simp [texts])
  | link body url =>
      have hbody := htexts body (by simp [texts])
      have hurl := htexts url (by simp [texts])
      change breaks (if isBlankText body then url else body) = 0
      split <;> assumption
  | image media =>
      apply Media.breaks_preview rfl rfl
      intro caption hcaption
      exact htexts caption (by simpa [texts] using hcaption)
  | video media =>
      apply Media.breaks_preview rfl rfl
      intro caption hcaption
      exact htexts caption (by simpa [texts] using hcaption)
  | file media =>
      apply Media.breaks_preview rfl (htexts media.fileName (by simp [texts]))
      intro caption hcaption
      exact htexts caption (by simpa [texts] using Or.inr hcaption)
  | audioRecording recording =>
      change breaks ("🔊 audio (" ++ recording.length ++ ")") = 0
      rw [breaks_append, breaks_append, recording.breaks_length]
      rfl
  | contactBundle contact =>
      change breaks ("👤 shared contact of " ++ contact.name) = 0
      rw [breaks_append, htexts contact.name (by simp [texts])]
      rfl

end Payload

end Courier
