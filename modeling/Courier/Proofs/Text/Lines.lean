import Mathlib.Algebra.GroupWithZero.Nat

/-!
# Lines

A text is cut into lines at its line feeds. Where texts are printed one after another, each ended by
a line feed, they are found again as the lines exactly if none of them holds a line feed itself.
-/

namespace Courier.Text

variable {cs : List Char}

/-- The lines in a list of characters. A line feed ends a line, and what follows the last one is one
more line if there is anything. -/
def cutLines : List Char → List (List Char)
  | [] => []
  | c :: cs =>
    if c = '\n' then [] :: cutLines cs
    else (c :: (cutLines cs).headD []) :: (cutLines cs).tail

/-- The lines of a text. -/
def lines (text : String) : List String :=
  (cutLines text.toList).map String.ofList

/-- Texts one after another, each ended by a line feed. -/
def printed (texts : List String) : String :=
  texts.foldr (fun text rest => text ++ "\n" ++ rest) ""

/-- The number of line feeds in a text. -/
def breaks (text : String) : Nat :=
  text.toList.count '\n'

theorem breaks_eq_zero_iff {text : String} : breaks text = 0 ↔ '\n' ∉ text.toList :=
  List.count_eq_zero

theorem breaks_append (s t : String) : breaks (s ++ t) = breaks s + breaks t := by
  rw [breaks, String.toList_append, List.count_append]
  rfl

/-! ## Cutting -/

theorem cutLines_ne_nil (hne : cs ≠ []) : cutLines cs ≠ [] := by
  cases cs with
  | nil => exact absurd rfl hne
  | cons c cs =>
      rw [cutLines]
      split <;> simp

/-- What follows a line feed does not matter to the lines before it. -/
theorem cutLines_append (cs ds : List Char) :
    cutLines (cs ++ '\n' :: ds) = cutLines (cs ++ ['\n']) ++ cutLines ds := by
  induction cs with
  | nil => simp [cutLines]
  | cons c cs ih =>
      have hne : cutLines (cs ++ ['\n']) ≠ [] := cutLines_ne_nil (by simp)
      obtain ⟨first, rest, hlines⟩ := List.exists_cons_of_ne_nil hne
      rw [List.cons_append, List.cons_append, cutLines, cutLines, ih, hlines]
      split
      next => rfl
      next => rfl

theorem length_cutLines (cs : List Char) :
    (cutLines (cs ++ ['\n'])).length = cs.count '\n' + 1 := by
  induction cs with
  | nil => rfl
  | cons c cs ih =>
      have hne : cutLines (cs ++ ['\n']) ≠ [] := cutLines_ne_nil (by simp)
      obtain ⟨first, rest, hlines⟩ := List.exists_cons_of_ne_nil hne
      rw [List.cons_append, cutLines, List.count_cons]
      rw [hlines] at ih ⊢
      split
      next hbreak => simpa [hbreak] using ih
      next hbreak => simpa [hbreak] using ih

theorem cutLines_unbroken (hcs : '\n' ∉ cs) : cutLines (cs ++ ['\n']) = [cs] := by
  induction cs with
  | nil => rfl
  | cons c cs ih =>
      rw [List.mem_cons, not_or] at hcs
      rw [List.cons_append, cutLines, if_neg (Ne.symm hcs.1), ih hcs.2]
      rfl

/-! ## Printing -/

theorem printed_cons (text : String) (texts : List String) :
    printed (text :: texts) = text ++ "\n" ++ printed texts :=
  rfl

theorem toList_ended (text : String) : (text ++ "\n").toList = text.toList ++ ['\n'] :=
  String.toList_append

theorem lines_printed_cons (text : String) (texts : List String) :
    lines (printed (text :: texts)) = lines (text ++ "\n") ++ lines (printed texts) := by
  rw [lines, lines, lines, printed_cons, String.toList_append, toList_ended, List.append_assoc,
    List.singleton_append, cutLines_append, List.map_append]

/-- Texts that are printed one after another are cut into lines each by itself. -/
theorem lines_printed (texts : List String) :
    lines (printed texts) = texts.flatMap fun text => lines (text ++ "\n") := by
  induction texts with
  | nil => rfl
  | cons text texts ih => rw [lines_printed_cons, ih, List.flatMap_cons]

theorem length_lines (text : String) : (lines (text ++ "\n")).length = breaks text + 1 := by
  rw [lines, List.length_map, toList_ended, length_cutLines, breaks]

theorem lines_unbroken {text : String} (htext : breaks text = 0) :
    lines (text ++ "\n") = [text] := by
  rw [lines, toList_ended, cutLines_unbroken (breaks_eq_zero_iff.mp htext), List.map_singleton,
    String.ofList_toList]

/-- Every text makes one line, and one more for each line feed in it. -/
theorem length_lines_printed (texts : List String) :
    (lines (printed texts)).length = texts.length + (texts.map breaks).sum := by
  induction texts with
  | nil => rfl
  | cons text texts ih =>
      rw [lines_printed_cons, List.length_append, length_lines, ih, List.map_cons, List.sum_cons,
        List.length_cons]
      omega

/-- There are as many lines as texts exactly if no text holds a line feed. -/
theorem length_lines_printed_eq_iff (texts : List String) :
    (lines (printed texts)).length = texts.length ↔ ∀ text ∈ texts, breaks text = 0 := by
  rw [length_lines_printed, Nat.add_eq_left, List.sum_eq_zero_iff_forall_eq_nat]
  exact List.forall_mem_map

/-- The texts are the lines exactly if none of them holds a line feed. -/
theorem lines_printed_eq_iff (texts : List String) :
    lines (printed texts) = texts ↔ ∀ text ∈ texts, breaks text = 0 := by
  constructor
  · intro heq
    exact (length_lines_printed_eq_iff texts).mp (congrArg List.length heq)
  · intro hunbroken
    have hlines : ∀ text ∈ texts, lines (text ++ "\n") = [text] := fun text htext =>
      lines_unbroken (hunbroken text htext)
    rw [lines_printed, List.flatMap_def, List.map_congr_left hlines, ← List.flatMap_def,
      List.flatMap_singleton']

end Courier.Text
