import Courier.Proofs.Files.Path
import Mathlib.Data.List.Induction

/-!
# The last name of a path

A path that is not empty either ends in a name, or in something that is no name: two dots, the root,
or a single dot with nothing before it. Slashes behind it count for nothing, whether single dots
stand between them or not.
-/

namespace Courier.Path

variable {p : Path} {name : String} {cs : List Char} {voids : List (List Char)}

/-- Slashes, each of them with a single dot behind it or not. -/
inductive IsIdle : List Char → Prop
  | nil : IsIdle []
  | slash {cs : List Char} (h : IsIdle cs) : IsIdle ('/' :: cs)
  | dot {cs : List Char} (h : IsIdle cs) : IsIdle ('/' :: '.' :: cs)

/-- Whether a text can stand before a name in a path. -/
def IsLead (d : String) : Prop :=
  d = "" ∨ d.toList.getLast? = some '/'

/-- Whether a name stands at the end of a path, with nothing behind it that counts. -/
inductive EndsIn (name : String) : Path → Prop
  | intro {d s : String} (hd : IsLead d) (hs : IsIdle s.toList) : EndsIn name ⟨d ++ name ++ s⟩

/-- Whether a path ends in something that is no name. -/
inductive IsNameless : Path → Prop
  | back {p : Path} (h : p.EndsIn "..") : IsNameless p
  | root {s : String} (hs : IsIdle s.toList) (hne : s ≠ "") : IsNameless ⟨s⟩
  | here {s : String} (hs : IsIdle s.toList) : IsNameless ⟨"." ++ s⟩

/-! ## Pieces that count for nothing -/

theorem IsIdle.splitPieces_append (h : IsIdle cs) (front : List Char) :
    ∃ voids, (∀ piece ∈ voids, isVoid piece = true) ∧
      splitPieces (front ++ cs) = splitPieces front ++ voids := by
  induction h generalizing front with
  | nil => exact ⟨[], by simp, by simp⟩
  | slash _ ih =>
      obtain ⟨voids, hvoids, hpieces⟩ := ih []
      refine ⟨[] :: voids, List.forall_mem_cons.mpr ⟨rfl, hvoids⟩, ?_⟩
      rw [splitPieces_slash]
      exact congrArg (splitPieces front ++ ·) hpieces
  | dot _ ih =>
      obtain ⟨voids, hvoids, hpieces⟩ := ih ['.']
      refine ⟨['.'] :: voids, List.forall_mem_cons.mpr ⟨rfl, hvoids⟩, ?_⟩
      rw [splitPieces_slash]
      exact congrArg (splitPieces front ++ ·) hpieces

/-- Pieces that count for nothing are written with slashes and single dots only. -/
theorem exists_isIdle (hvoids : ∀ piece ∈ voids, isVoid piece = true) :
    ∃ s, IsIdle s ∧ '/' :: voids.flatMap (· ++ ['/']) = s ++ ['/'] := by
  induction voids with
  | nil => exact ⟨[], .nil, rfl⟩
  | cons piece voids ih =>
      obtain ⟨hpiece, hrest⟩ := List.forall_mem_cons.mp hvoids
      obtain ⟨s, hs, heq⟩ := ih hrest
      simp only [isVoid, Bool.or_eq_true, decide_eq_true_eq] at hpiece
      rcases hpiece with rfl | rfl
      · exact ⟨'/' :: s, .slash hs, by rw [List.cons_append, ← heq]; rfl⟩
      · exact ⟨'/' :: '.' :: s, .dot hs, by rw [List.cons_append, List.cons_append, ← heq]; rfl⟩

theorem dropVoidEnd_append (hvoids : ∀ piece ∈ voids, isVoid piece = true)
    (pieces : List (List Char)) : dropVoidEnd (pieces ++ voids) = dropVoidEnd pieces := by
  have hreverse : ∀ piece ∈ voids.reverse, isVoid piece = true := fun piece hpiece =>
    hvoids piece (List.mem_reverse.mp hpiece)
  rw [dropVoidEnd, List.reverse_append, List.dropWhile_append_of_pos hreverse]
  rfl

/-! ## Names -/

theorem splitPieces_lead {d : String} (hd : IsLead d) :
    ∃ front, front.flatMap (· ++ ['/']) = d.toList ∧
      ∀ cs, '/' ∉ cs → splitPieces (d.toList ++ cs) = front ++ [cs] := by
  have hlead : (Path.mk d).lead = d := by
    rw [lead]
    rcases hd with rfl | hlast
    · rfl
    · simp [hlast]
  obtain ⟨front, hfront, hpieces, -⟩ := (Path.mk d).lead_pieces
  rw [hlead] at hfront hpieces
  exact ⟨front, hfront, hpieces⟩

/-- What a path ends in is its last name, unless that is two dots. -/
theorem EndsIn.splitName?_eq (hname : IsPiece name) (h : p.EndsIn name) :
    ∃ before, p.splitName? =
      if name.toList = ['.', '.'] then none else some (before, name.toList) := by
  obtain @⟨d, s, hd, hs⟩ := h
  obtain ⟨front, hfront, hpieces⟩ := splitPieces_lead hd
  obtain ⟨voids, hvoids, hsplit⟩ := hs.splitPieces_append (d ++ name).toList
  refine ⟨d.toList, ?_⟩
  rw [splitName?, String.toList_append, hsplit, dropVoidEnd_append hvoids, String.toList_append,
    hpieces _ hname.no_slash, dropVoidEnd]
  simp [hname.isVoid_eq, hfront]

theorem IsName.splitName?_eq (hname : IsName name) (h : p.EndsIn name) :
    ∃ before, p.splitName? = some (before, name.toList) := by
  obtain ⟨before, hsplit⟩ := h.splitName?_eq hname.toIsPiece
  have hback : name.toList ≠ ['.', '.'] := fun h => hname.ne_back (String.toList_inj.mp h)
  exact ⟨before, hsplit.trans (if_neg hback)⟩

theorem splitName?_eq_none (hvoids : ∀ piece ∈ splitPieces p.text.toList, isVoid piece = true) :
    p.splitName? = none := by
  rw [splitName?, ← List.nil_append (splitPieces _), dropVoidEnd_append hvoids]
  rfl

theorem IsNameless.splitName?_eq (h : p.IsNameless) : p.splitName? = none := by
  cases h with
  | back h =>
      obtain ⟨before, hsplit⟩ := h.splitName?_eq (by constructor <;> decide)
      exact hsplit.trans (if_pos (by decide))
  | root hs =>
      obtain ⟨voids, hvoids, hsplit⟩ := hs.splitPieces_append []
      apply splitName?_eq_none
      rw [← List.nil_append (String.toList _), hsplit]
      exact List.forall_mem_cons.mpr ⟨rfl, hvoids⟩
  | here hs =>
      obtain ⟨voids, hvoids, hsplit⟩ := hs.splitPieces_append ['.']
      apply splitName?_eq_none
      rw [String.toList_append]
      rw [show ".".toList = ['.'] from rfl, hsplit]
      exact List.forall_mem_cons.mpr ⟨rfl, hvoids⟩

/-! ## All paths -/

/-- Among some pieces either none counts or there is a last one that does. -/
theorem pieces_cases (pieces : List (List Char)) :
    (∀ piece ∈ pieces, isVoid piece = true) ∨
      ∃ front last voids, pieces = front ++ last :: voids ∧ isVoid last = false ∧
        ∀ piece ∈ voids, isVoid piece = true := by
  induction pieces with
  | nil => exact .inl (by simp)
  | cons first pieces ih =>
      rcases ih with hvoids | ⟨front, last, voids, rfl, hlast, hvoids⟩
      · cases hfirst : isVoid first with
        | true => exact .inl (List.forall_mem_cons.mpr ⟨hfirst, hvoids⟩)
        | false => exact .inr ⟨[], first, pieces, rfl, hfirst, hvoids⟩
      · exact .inr ⟨first :: front, last, voids, rfl, hlast, hvoids⟩

theorem isLead_flatMap (front : List (List Char)) :
    IsLead (String.ofList (front.flatMap (· ++ ['/']))) := by
  cases front using List.reverseRecOn with
  | nil => exact .inl rfl
  | append_singleton front last => exact .inr (by simp)

/-- A path with no piece that counts is the root or a single dot. -/
theorem isNameless_of_voids (hp : p.text ≠ "")
    (hvoids : ∀ piece ∈ splitPieces p.text.toList, isVoid piece = true) : p.IsNameless := by
  have htext := flatMap_splitPieces p.text.toList
  cases hpieces : splitPieces p.text.toList with
  | nil => exact absurd hpieces (splitPieces_ne_nil _)
  | cons first others =>
      rw [hpieces] at hvoids htext
      obtain ⟨hfirst, hothers⟩ := List.forall_mem_cons.mp hvoids
      obtain ⟨s, hs, hidle⟩ := exists_isIdle hothers
      rw [List.flatMap_cons, List.append_assoc, List.singleton_append, hidle,
        ← List.append_assoc] at htext
      have hwhole : p = ⟨String.ofList first ++ String.ofList s⟩ := by
        rw [← String.ofList_append, List.append_cancel_right htext, String.ofList_toList]
      have hs : IsIdle (String.ofList s).toList := by rwa [String.toList_ofList]
      simp only [isVoid, Bool.or_eq_true, decide_eq_true_eq] at hfirst
      rcases hfirst with rfl | rfl
      · rw [String.ofList_nil, String.empty_append] at hwhole
        subst hwhole
        exact .root hs hp
      · subst hwhole
        exact .here hs

/-- Every path but the empty one ends in a name or in something that is no name. -/
theorem endsIn_or_isNameless (hp : p.text ≠ "") :
    (∃ name, IsName name ∧ p.EndsIn name) ∨ p.IsNameless := by
  rcases pieces_cases (splitPieces p.text.toList) with
    hvoids | ⟨front, last, voids, hpieces, hlast, hvoids⟩
  · exact .inr (isNameless_of_voids hp hvoids)
  · obtain ⟨s, hs, hidle⟩ := exists_isIdle hvoids
    have htext := flatMap_splitPieces p.text.toList
    rw [hpieces, List.flatMap_append, List.flatMap_cons, List.append_assoc, List.singleton_append,
      hidle, ← List.append_assoc, ← List.append_assoc] at htext
    have hends : p.EndsIn (String.ofList last) := by
      have hwhole : p = ⟨String.ofList (front.flatMap (· ++ ['/'])) ++ String.ofList last ++
          String.ofList s⟩ := by
        rw [← String.ofList_append, ← String.ofList_append, List.append_cancel_right htext,
          String.ofList_toList]
      rw [hwhole]
      exact .intro (isLead_flatMap front) (by rwa [String.toList_ofList])
    have hpiece : IsPiece (String.ofList last) :=
      isPiece_of_mem_splitPieces (hpieces ▸ List.mem_append_right _ List.mem_cons_self) hlast
    by_cases hback : String.ofList last = ".."
    · exact .inr (.back (hback ▸ hends))
    · exact .inl ⟨_, ⟨hpiece, hback⟩, hends⟩

end Courier.Path
