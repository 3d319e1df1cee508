import Courier.Text.Blank
import Mathlib.Data.List.TakeWhile

/-!
# Trimming

White space around a text makes no difference to what is left of it by trimming, and nothing is left
of a text of white space only.
-/

namespace Courier.Text

variable {v w : String} {blanks : List Char}

theorem isBlankText_append (s t : String) :
    isBlankText (s ++ t) = (isBlankText s && isBlankText t) := by
  rw [isBlankText, String.toList_append, List.all_append]
  rfl

/-- A text is blank if nothing of it is left by trimming. -/
theorem isBlankText_iff {text : String} : isBlankText text = true ↔ trim text = "" := by
  rw [isBlankText, List.all_eq_true, trim, String.ofList_eq_empty_iff, trimRight,
    List.reverse_eq_nil_iff, List.dropWhile_eq_nil_iff, trimLeft]
  simp only [List.mem_reverse]
  constructor
  · exact fun h c hc => h c ((List.dropWhile_suffix _).subset hc)
  · intro h c hc
    rw [← List.takeWhile_append_dropWhile (p := isBlank) (l := text.toList)] at hc
    rcases List.mem_append.mp hc with htaken | hleft
    · exact List.mem_takeWhile_imp htaken
    · exact h c hleft

theorem mem_of_mem_trim {text : String} {c : Char} (hc : c ∈ (trim text).toList) :
    c ∈ text.toList := by
  rw [trim, String.toList_ofList, trimRight, List.mem_reverse] at hc
  have hleft : c ∈ trimLeft text.toList :=
    List.mem_reverse.mp ((List.dropWhile_suffix _).subset hc)
  exact (List.dropWhile_suffix _).subset hleft

theorem trimLeft_append (hblanks : ∀ c ∈ blanks, isBlank c = true) (cs : List Char) :
    trimLeft (blanks ++ cs) = trimLeft cs :=
  List.dropWhile_append_of_pos hblanks

theorem trimRight_append (hblanks : ∀ c ∈ blanks, isBlank c = true) (cs : List Char) :
    trimRight (cs ++ blanks) = trimRight cs := by
  have hreverse : ∀ c ∈ blanks.reverse, isBlank c = true := fun c hc =>
    hblanks c (List.mem_reverse.mp hc)
  rw [trimRight, List.reverse_append, List.dropWhile_append_of_pos hreverse]
  rfl

/-- Trimming on the left stops before the white space behind a text, unless nothing is left of the
text itself. -/
theorem trimLeft_append_right (cs blanks : List Char) :
    trimLeft (cs ++ blanks) = if trimLeft cs = [] then trimLeft blanks
      else trimLeft cs ++ blanks := by
  rw [trimLeft, List.dropWhile_append]
  simp [trimLeft, List.isEmpty_iff]

/-- White space around a text is trimmed away. -/
theorem trim_padded (hv : isBlankText v = true) (hw : isBlankText w = true) (s : String) :
    trim (v ++ s ++ w) = trim s := by
  rw [isBlankText, List.all_eq_true] at hv hw
  rw [trim, trim, String.toList_append, String.toList_append, List.append_assoc,
    trimLeft_append hv, trimLeft_append_right]
  split
  next hs =>
    have hblanks : trimLeft w.toList = [] := List.dropWhile_eq_nil_iff.mpr hw
    rw [hs, hblanks]
  next => rw [trimRight_append hw]

end Courier.Text
