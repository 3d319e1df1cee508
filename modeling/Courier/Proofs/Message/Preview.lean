import Courier.Command.Compose
import Courier.Message.Preview
import Courier.Proofs.Text.Blank

/-!
# White space in previews

White space around a caption or a text makes no difference to what is shown or sent, and a blank
caption counts as none. The text of a link is different: it is only looked at to see whether it is
blank, and is then shown as it was written.
-/

namespace Courier

open Text

variable {v w : String} {media other : Media}

/-! ## Captions -/

theorem Media.preview_congr (hcaption : media.shownCaption = other.shownCaption) (icon : String)
    (replacement : String) : media.preview icon replacement = other.preview icon replacement := by
  rw [preview, preview, hcaption]

theorem Media.shownCaption_padded (hv : isBlankText v = true) (hw : isBlankText w = true)
    (media : Media) (caption : String) :
    { media with caption := some (v ++ caption ++ w) }.shownCaption =
      { media with caption := some caption }.shownCaption := by
  rw [shownCaption, shownCaption, Option.bind_some, Option.bind_some, trim_padded hv hw,
    isBlankText_append, isBlankText_append, hv, hw, Bool.true_and, Bool.and_true]

theorem Media.shownCaption_blank {caption : String} (hblank : isBlankText caption = true)
    (media : Media) :
    { media with caption := some caption }.shownCaption =
      { media with caption := none }.shownCaption := by
  rw [shownCaption, shownCaption, Option.bind_some, if_pos hblank]
  rfl

namespace Payload

/-- The payloads that share a file. -/
def sharing : List (Media → Payload) :=
  [image, video, file]

theorem preview_file (media : Media) : (file media).preview = media.preview "📎" media.fileName :=
  rfl

theorem preview_link (body url : String) :
    (link body url).preview = if isBlankText body then url else body :=
  rfl

/-- Two files that differ in the caption only look alike if the same caption is shown. -/
theorem preview_of_shownCaption {make : Media → Payload} (hmake : make ∈ sharing)
    (hname : media.fileName = other.fileName)
    (hcaption : media.shownCaption = other.shownCaption) :
    (make media).preview = (make other).preview := by
  simp only [sharing, List.mem_cons, List.not_mem_nil, or_false] at hmake
  rcases hmake with rfl | rfl | rfl
  · exact Media.preview_congr hcaption "📷" "image"
  · exact Media.preview_congr hcaption "🎥" "video"
  · rw [preview_file, preview_file, hname]
    exact Media.preview_congr hcaption "📎" other.fileName

/-- A link shows its address if its text is blank, and otherwise its text as it is. -/
theorem preview_link_eq_url_iff {body url : String} :
    (link body url).preview = url ↔ isBlankText body = true ∨ body = url := by
  rw [preview_link]
  split
  next hblank => simp [hblank]
  next hblank => simp [hblank]

theorem preview_link_of_not_blank {body : String} (hbody : ¬ isBlankText body = true)
    (url : String) : (link body url).preview = body := by
  rw [preview_link, if_neg hbody]

end Payload

/-- Whether a message is composed from a text, and from which, does not depend on white space around
the text. -/
theorem SendArguments.payload_padded (hv : isBlankText v = true) (hw : isBlankText w = true)
    (arguments : SendArguments) (text : String) (folder : Path) (bundleId : String) :
    { arguments with text := some (v ++ text ++ w) }.payload folder bundleId =
      { arguments with text := some text }.payload folder bundleId := by
  rw [payload, payload, trim_padded hv hw, isBlankText_append, isBlankText_append, hv, hw,
    Bool.true_and, Bool.and_true]

/-- White space around a caption does not show and a blank caption is none at all. White space
around a text is not sent. The text of a link stands for it as it is written, unless it is blank. -/
theorem shown_of_padded (hv : isBlankText v = true) (hw : isBlankText w = true) :
    (∀ make ∈ Payload.sharing, ∀ (media : Media) (caption : String),
      (make { media with caption := some (v ++ caption ++ w) }).preview =
        (make { media with caption := some caption }).preview ∧
      (make { media with caption := some v }).preview =
        (make { media with caption := none }).preview) ∧
    (∀ (arguments : SendArguments) (text : String) (folder : Path) (bundleId : String),
      { arguments with text := some (v ++ text ++ w) }.payload folder bundleId =
        { arguments with text := some text }.payload folder bundleId) ∧
    ∀ body url,
      ((Payload.link body url).preview = url ↔ isBlankText body = true ∨ body = url) ∧
      (¬ (isBlankText body = true ∨ body = url) → (Payload.link body url).preview = body) := by
  refine ⟨?_, SendArguments.payload_padded hv hw, ?_⟩
  · intro make hmake media caption
    constructor
    · exact Payload.preview_of_shownCaption hmake rfl (media.shownCaption_padded hv hw caption)
    · exact Payload.preview_of_shownCaption hmake rfl (media.shownCaption_blank hv)
  · intro body url
    refine ⟨Payload.preview_link_eq_url_iff, fun hother => ?_⟩
    exact Payload.preview_link_of_not_blank (fun hblank => hother (.inl hblank)) url

/-- An ideographic space and a line break around a caption with a space within. -/
theorem shown_of_padded_sunset :
    isBlankText "\u3000" = true ∧ isBlankText "\n" = true ∧
    (Payload.image ⟨"s.png", "file:///s.png", "image/png", some "\u3000sun set\n"⟩).preview =
      "📷 sun set" ∧
    SendArguments.payload { chat := "a", text := some "\u3000 sun set\n" } ⟨"/"⟩ "" =
      .ok (.text "sun set") ∧
    (Payload.link " sun set" "https://a.org").preview = " sun set" := by
  have hv : isBlankText "\u3000" = true := by decide
  have hw : isBlankText "\n" = true := by decide
  obtain ⟨hcaptions, htexts, hlinks⟩ := shown_of_padded hv hw
  refine ⟨hv, hw, ?_, ?_, (hlinks _ _).2 (by decide)⟩
  · have himage := (hcaptions Payload.image (by simp [Payload.sharing])
      ⟨"s.png", "file:///s.png", "image/png", none⟩ "sun set").1
    exact himage.trans (by decide)
  · exact (htexts { chat := "a" } " sun set" ⟨"/"⟩ "").trans (by decide)

end Courier
