import Courier.Files.Disk
import Mathlib.Data.List.TakeWhile

/-!
# Names within folders

The path of a name in a folder takes the steps to the folder and ends at the name, however the path
of the folder is spelled.
-/

namespace Courier

namespace Path

/-- A piece of a path that counts. -/
structure IsPiece (name : String) : Prop where
  ne_empty : name ≠ ""
  ne_dot : name ≠ "."
  no_slash : '/' ∉ name.toList

/-- A name that an entry of a folder can have. -/
structure IsName (name : String) : Prop extends IsPiece name where
  ne_back : name ≠ ".."

theorem IsPiece.toList_ne_nil {name : String} (hname : IsPiece name) : name.toList ≠ [] := fun h =>
  hname.ne_empty (String.toList_eq_nil_iff.mp h)

theorem IsPiece.isVoid_eq {name : String} (hname : IsPiece name) :
    isVoid name.toList = false := by
  have hdot : name.toList ≠ ['.'] := fun h => hname.ne_dot (String.toList_inj.mp h)
  simp [isVoid, hname.toList_ne_nil, hdot]

/-! ## Pieces -/

theorem splitPieces_of_no_slash {cs : List Char} (hcs : '/' ∉ cs) : splitPieces cs = [cs] := by
  induction cs with
  | nil => rfl
  | cons c cs ih =>
      have hc : c ≠ '/' := fun h => hcs (h ▸ List.mem_cons_self)
      have hrest := ih fun h => hcs (List.mem_cons_of_mem c h)
      rw [splitPieces, if_neg hc, hrest]

theorem splitPieces_ne_nil (cs : List Char) : splitPieces cs ≠ [] := by
  cases cs with
  | nil => exact List.cons_ne_nil _ _
  | cons c cs =>
      rw [splitPieces]
      split
      · exact List.cons_ne_nil _ _
      · split <;> exact List.cons_ne_nil _ _

theorem splitPieces_slash (cs ds : List Char) :
    splitPieces (cs ++ '/' :: ds) = splitPieces cs ++ splitPieces ds := by
  induction cs with
  | nil => rfl
  | cons c cs ih =>
      rw [List.cons_append, splitPieces, splitPieces]
      by_cases hc : c = '/'
      · rw [if_pos hc, if_pos hc, ih]
        rfl
      · rw [if_neg hc, if_neg hc, ih]
        cases hcs : splitPieces cs with
        | nil => exact absurd hcs (splitPieces_ne_nil cs)
        | cons piece pieces => rfl

theorem flatMap_splitPieces (cs : List Char) :
    (splitPieces cs).flatMap (· ++ ['/']) = cs ++ ['/'] := by
  induction cs with
  | nil => rfl
  | cons c cs ih =>
      rw [splitPieces]
      by_cases hc : c = '/'
      · rw [if_pos hc, List.flatMap_cons, ih, hc]
        rfl
      · rw [if_neg hc]
        cases hcs : splitPieces cs with
        | nil => exact absurd hcs (splitPieces_ne_nil cs)
        | cons piece pieces =>
            rw [hcs] at ih
            dsimp only
            rw [List.flatMap_cons] at ih ⊢
            rw [List.cons_append, List.cons_append, ih, List.cons_append]

/-! ## Names in a folder -/

/-- What stands before the name of an entry. -/
def lead (p : Path) : String :=
  if p.text.isEmpty || p.text.toList.getLast? = some '/' then p.text else p.text ++ "/"

theorem child_text (p : Path) {name : String} (hname : '/' ∉ name.toList) :
    (p.child name).text = p.lead ++ name := by
  have habsolute : (Path.mk name).isAbsolute = false := by
    rw [isAbsolute, beq_eq_false_iff_ne]
    exact fun h => hname (List.mem_of_mem_head? h)
  rw [child, join, habsolute, lead]
  simp only [Bool.false_eq_true, if_false]
  split <;> rfl

/-- The pieces before the name of an entry, which are those that the folder's steps come from. -/
theorem lead_pieces (p : Path) :
    ∃ front, front.flatMap (· ++ ['/']) = p.lead.toList ∧
      (∀ cs, '/' ∉ cs → splitPieces (p.lead.toList ++ cs) = front ++ [cs]) ∧
      p.steps = front.filterMap fun piece =>
        if isVoid piece then none else some (String.ofList piece) := by
  by_cases hempty : p.text = ""
  · refine ⟨[], ?_, ?_, ?_⟩
    · simp [lead, hempty]
    · intro cs hcs
      simpa [lead, hempty] using splitPieces_of_no_slash hcs
    · rw [steps, hempty]
      rfl
  · by_cases hlast : p.text.toList.getLast? = some '/'
    · obtain ⟨before, hbefore⟩ := List.getLast?_eq_some_iff.mp hlast
      have hlead : p.lead.toList = before ++ ['/'] := by
        rw [lead, hlast, ← hbefore]
        simp
      refine ⟨splitPieces before, ?_, ?_, ?_⟩
      · rw [hlead, flatMap_splitPieces]
      · intro cs hcs
        rw [hlead, List.append_assoc, List.singleton_append, splitPieces_slash,
          splitPieces_of_no_slash hcs]
      · rw [steps, hbefore, splitPieces_slash, List.filterMap_append]
        exact List.append_nil _
    · have hlead : p.lead.toList = p.text.toList ++ ['/'] := by
        have hnot : p.text.isEmpty = false := by simpa using hempty
        simp [lead, hlast, hnot]
      refine ⟨splitPieces p.text.toList, ?_, ?_, rfl⟩
      · rw [hlead, flatMap_splitPieces]
      · intro cs hcs
        rw [hlead, List.append_assoc, List.singleton_append, splitPieces_slash,
          splitPieces_of_no_slash hcs]

theorem steps_child (p : Path) {name : String} (hname : IsPiece name) :
    (p.child name).steps = p.steps ++ [name] := by
  obtain ⟨front, -, hpieces, hsteps⟩ := p.lead_pieces
  rw [steps, child_text p hname.no_slash, String.toList_append, hpieces _ hname.no_slash,
    List.filterMap_append, ← hsteps]
  simp [hname.isVoid_eq]

theorem route_child (p : Path) {name : String} (hname : IsName name) :
    Disk.route (p.child name) = (p.steps, .name name false) := by
  obtain ⟨front, -, hpieces, -⟩ := p.lead_pieces
  have hdot : name.toList ≠ ['.'] := fun h => hname.ne_dot (String.toList_inj.mp h)
  have hempty : name.toList.isEmpty = false := by simpa using hname.toList_ne_nil
  rw [Disk.route, steps_child p hname.toIsPiece, child_text p hname.no_slash, String.toList_append,
    hpieces _ hname.no_slash]
  simp [hempty, hname.ne_back]

theorem isAbsolute_child (p : Path) {name : String} (hname : '/' ∉ name.toList) :
    (p.child name).isAbsolute = p.isAbsolute := by
  rw [isAbsolute, isAbsolute, child_text p hname, String.toList_append]
  cases htext : p.text.toList with
  | nil =>
      have hlead : p.lead.toList = [] := by
        rw [lead, String.toList_eq_nil_iff.mp htext]
        rfl
      rw [hlead, List.nil_append]
      cases hcs : name.toList with
      | nil => rfl
      | cons c cs =>
          have hc : c ≠ '/' := fun h => hname (hcs ▸ h ▸ List.mem_cons_self)
          simp [hc]
  | cons c cs =>
      have hlead : ∃ ds, p.lead.toList = c :: ds := by
        rw [lead]
        split
        · exact ⟨cs, htext⟩
        · exact ⟨cs ++ ['/'], by rw [String.toList_append, htext]; rfl⟩
      obtain ⟨ds, hds⟩ := hlead
      rw [hds]
      rfl

/-! ## Documents and their drafts -/

/-- A name is split at its last point, unless nothing stands before it. -/
theorem splitExtension_point (stem : List Char) {extension : List Char}
    (hpoint : '.' ∉ extension) : splitExtension (stem ++ '.' :: extension) =
      if stem = [] then ('.' :: extension, none) else (stem, some extension) := by
  have hafter : ((stem ++ '.' :: extension).reverse.takeWhile (· ≠ '.')).reverse = extension := by
    have hall : ∀ c ∈ extension.reverse, decide (c ≠ '.') = true := by
      intro c hc
      exact decide_eq_true fun h => hpoint (h ▸ List.mem_reverse.mp hc)
    rw [List.reverse_append, List.reverse_cons, List.append_assoc,
      List.takeWhile_append_of_pos hall]
    simp
  have hbefore : (stem ++ '.' :: extension).take
      ((stem ++ '.' :: extension).length - extension.length - 1) = stem := by
    have hlength : (stem ++ '.' :: extension).length - extension.length - 1 = stem.length := by
      simp only [List.length_append, List.length_cons]
      omega
    rw [hlength, List.take_left]
  have hlt : extension.length < (stem ++ '.' :: extension).length := by
    rw [List.length_append, List.length_cons]
    omega
  simp only [splitExtension, hafter, hbefore, hlt, decide_true, Bool.true_and]
  by_cases hstem : stem = []
  · subst hstem
    rfl
  · simp [hstem]

theorem splitExtension_of_no_point {name : List Char} (hpoint : '.' ∉ name) :
    splitExtension name = (name, none) := by
  have hafter : (name.reverse.takeWhile (· ≠ '.')).reverse = name := by
    rw [List.takeWhile_eq_self_iff.mpr, List.reverse_reverse]
    intro c hc
    exact decide_eq_true fun h => hpoint (h ▸ List.mem_reverse.mp hc)
  have hlt : ¬ name.length < name.length := Nat.lt_irrefl _
  simp only [splitExtension, hafter, hlt, decide_false, Bool.false_and, Bool.false_eq_true,
    if_false]

theorem splitExtension_document {stem : List Char} (hstem : stem ≠ []) :
    splitExtension (stem ++ ".toml".toList) = (stem, some "toml".toList) :=
  (splitExtension_point stem (by decide)).trans (if_neg hstem)

theorem isVoid_document (stem : List Char) : isVoid (stem ++ ".toml".toList) = false := by
  have hne : stem ++ ".toml".toList ≠ [] := List.append_ne_nil_of_right_ne_nil _ (by decide)
  have hdot : stem ++ ".toml".toList ≠ ['.'] := fun h => by
    have hlength := congrArg List.length h
    simp at hlength
  simp only [isVoid, hne, hdot, decide_false, Bool.or_self]

/-- The draft of a document is named for it, in the same folder. -/
theorem draftPath_child (p : Path) {stem : String} (hstem : stem ≠ "")
    (hslash : '/' ∉ stem.toList) :
    Disk.draftPath (p.child (stem ++ ".toml")) = p.child (stem ++ ".toml.tmp") := by
  obtain ⟨front, hlead, hpieces, -⟩ := p.lead_pieces
  have hdocument : '/' ∉ (stem ++ ".toml").toList := by simp [hslash]
  have hdraft : '/' ∉ (stem ++ ".toml.tmp").toList := by simp [hslash]
  have hname : (stem ++ ".toml").toList = stem.toList ++ ".toml".toList := String.toList_append
  have hback : stem.toList ++ ".toml".toList ≠ ['.', '.'] := fun h => by
    have hlength := congrArg List.length h
    simp at hlength
  have hsplit : (p.child (stem ++ ".toml")).splitName? =
      some (p.lead.toList, stem.toList ++ ".toml".toList) := by
    have hvoid := isVoid_document stem.toList
    rw [splitName?, child_text p hdocument, String.toList_append, hpieces _ hdocument, hname,
      dropVoidEnd]
    generalize stem.toList ++ ".toml".toList = name at hvoid hback
    simp [hvoid, hback, hlead]
  rw [Disk.draftPath, withExtension, hsplit]
  dsimp only
  rw [splitExtension_document (fun h => hstem (String.toList_eq_nil_iff.mp h))]
  rw [Path.mk.injEq, ← String.toList_inj, child_text p hdraft]
  simp [Disk.draftExtension]

/-! ## Lengths and characters -/

theorem size_child (p : Path) {name : String} (hname : '/' ∉ name.toList) :
    (p.child name).text.utf8ByteSize = p.lead.utf8ByteSize + name.utf8ByteSize := by
  rw [child_text p hname, String.utf8ByteSize_append]

/-- A name in a folder ends without a slash, so another one follows it after a slash. -/
theorem lead_child (p : Path) {name : String} (hname : IsPiece name) :
    (p.child name).lead = (p.child name).text ++ "/" := by
  have htext := child_text p hname.no_slash
  have hempty : (p.child name).text.isEmpty = false := by
    simp [htext, hname.ne_empty]
  have hlast : (p.child name).text.toList.getLast? ≠ some '/' := by
    rw [htext, String.toList_append, List.getLast?_append]
    cases hname' : name.toList.getLast? with
    | none => exact absurd (List.getLast?_eq_none_iff.mp hname') hname.toList_ne_nil
    | some c =>
        rintro ⟨⟩
        exact hname.no_slash (List.mem_of_getLast? hname')
  simp [lead, hempty, hlast]

theorem nul_mem_lead (p : Path) : '\x00' ∈ p.lead.toList ↔ '\x00' ∈ p.text.toList := by
  rw [lead]
  split <;> simp

theorem nul_mem_child (p : Path) {name : String} (hname : '/' ∉ name.toList) :
    '\x00' ∈ (p.child name).text.toList ↔
      '\x00' ∈ p.text.toList ∨ '\x00' ∈ name.toList := by
  rw [child_text p hname, String.toList_append, List.mem_append, nul_mem_lead]

/-! ## Folders on the way -/

/-- The path that takes some steps, spelled without pieces that count for nothing. -/
def ofSteps (absolute : Bool) (steps : List String) : Path :=
  ⟨(if absolute then "/" else "") ++ String.intercalate "/" steps⟩

theorem ofSteps_concat (absolute : Bool) {before : List String} (hbefore : ∀ s ∈ before, IsPiece s)
    {name : String} (hname : IsPiece name) :
    ofSteps absolute (before.reverse ++ [name]) = (ofSteps absolute before.reverse).child name := by
  induction before generalizing name with
  | nil =>
      rw [Path.mk.injEq, child_text _ hname.no_slash]
      cases absolute <;> simp [ofSteps, lead]
  | cons last before ih =>
      have hlast : IsPiece last := hbefore last List.mem_cons_self
      have hfirst := ih (fun s hs => hbefore s (List.mem_cons_of_mem _ hs)) hlast
      rw [List.reverse_cons, Path.mk.injEq, child_text _ hname.no_slash, hfirst,
        lead_child _ hlast, ← hfirst, ofSteps, ofSteps,
        String.intercalate_append_of_ne_nil (by simp) (by simp), String.intercalate_singleton]
      simp [String.append_assoc]

theorem no_slash_of_mem_splitPieces {cs piece : List Char} (hpiece : piece ∈ splitPieces cs) :
    '/' ∉ piece := by
  induction cs generalizing piece with
  | nil =>
      rw [splitPieces, List.mem_singleton] at hpiece
      exact hpiece ▸ List.not_mem_nil
  | cons c cs ih =>
      rw [splitPieces] at hpiece
      split at hpiece
      · rcases List.mem_cons.mp hpiece with rfl | hpiece
        · exact List.not_mem_nil
        · exact ih hpiece
      next hc =>
        cases hcs : splitPieces cs with
        | nil => exact absurd hcs (splitPieces_ne_nil cs)
        | cons first others =>
            rw [hcs] at hpiece
            have hfirst := ih (hcs ▸ List.mem_cons_self)
            rcases List.mem_cons.mp hpiece with rfl | hpiece
            · exact fun hmem => (List.mem_cons.mp hmem).elim (fun h => hc h.symm) hfirst
            · exact ih (hcs ▸ List.mem_cons_of_mem _ hpiece)

theorem isPiece_of_mem_splitPieces {cs piece : List Char} (hmem : piece ∈ splitPieces cs)
    (hpiece : isVoid piece = false) : IsPiece (String.ofList piece) := by
  simp only [isVoid, Bool.or_eq_false_iff, decide_eq_false_iff_not] at hpiece
  constructor
  · exact fun h => hpiece.1 (by simpa using congrArg String.toList h)
  · exact fun h => hpiece.2 (by simpa using congrArg String.toList h)
  · rw [String.toList_ofList]
    exact no_slash_of_mem_splitPieces hmem

theorem isPiece_of_mem_steps {p : Path} {name : String} (hname : name ∈ p.steps) :
    IsPiece name := by
  obtain ⟨piece, hpiece, hsome⟩ := List.mem_filterMap.mp hname
  split at hsome
  · cases hsome
  next hvoid =>
    obtain rfl : String.ofList piece = name := Option.some.inj hsome
    exact isPiece_of_mem_splitPieces hpiece (Bool.not_eq_true _ ▸ hvoid)

theorem ofSteps_child (absolute : Bool) {steps : List String} (hsteps : ∀ s ∈ steps, IsPiece s)
    {name : String} (hname : IsPiece name) :
    ofSteps absolute (steps ++ [name]) = (ofSteps absolute steps).child name := by
  have hback : ∀ s ∈ steps.reverse, IsPiece s := fun s hs => hsteps s (List.mem_reverse.mp hs)
  have hconcat := ofSteps_concat absolute hback hname
  rwa [List.reverse_reverse] at hconcat

theorem steps_ofSteps_reverse (absolute : Bool) {before : List String}
    (hbefore : ∀ s ∈ before, IsPiece s) :
    (ofSteps absolute before.reverse).steps = before.reverse ∧
      (ofSteps absolute before.reverse).isAbsolute = absolute := by
  induction before with
  | nil => cases absolute <;> exact ⟨rfl, rfl⟩
  | cons last before ih =>
      have hlast : IsPiece last := hbefore last List.mem_cons_self
      have hrest : ∀ s ∈ before, IsPiece s := fun s hs => hbefore s (List.mem_cons_of_mem _ hs)
      obtain ⟨hsteps, habsolute⟩ := ih hrest
      rw [List.reverse_cons, ofSteps_concat absolute hrest hlast, steps_child _ hlast,
        isAbsolute_child _ hlast.no_slash]
      exact ⟨by rw [hsteps], habsolute⟩

/-- A path in its usual spelling. -/
def plain (p : Path) : Path :=
  ofSteps p.isAbsolute p.steps

theorem steps_plain (p : Path) : p.plain.steps = p.steps := by
  have hback : ∀ s ∈ p.steps.reverse, IsPiece s := fun s hs =>
    isPiece_of_mem_steps (List.mem_reverse.mp hs)
  have hsteps := (steps_ofSteps_reverse p.isAbsolute hback).1
  rwa [List.reverse_reverse] at hsteps

theorem isAbsolute_plain (p : Path) : p.plain.isAbsolute = p.isAbsolute := by
  have hback : ∀ s ∈ p.steps.reverse, IsPiece s := fun s hs =>
    isPiece_of_mem_steps (List.mem_reverse.mp hs)
  have habsolute := (steps_ofSteps_reverse p.isAbsolute hback).2
  rwa [List.reverse_reverse] at habsolute

/-- The nearest folder on the way to a name in a named folder is that folder, spelled in the usual
way. -/
theorem ancestors_child_child (p : Path) {folder name : String} (hfolder : IsPiece folder)
    (hname : IsPiece name) :
    ∃ farther, ((p.child folder).child name).ancestors = p.plain.child folder :: farther := by
  have hsteps : ((p.child folder).child name).steps = p.steps ++ [folder] ++ [name] := by
    rw [steps_child _ hname, steps_child _ hfolder]
  have habsolute : ((p.child folder).child name).isAbsolute = p.isAbsolute := by
    rw [isAbsolute_child _ hname.no_slash, isAbsolute_child _ hfolder.no_slash]
  have hlength : (p.steps ++ [folder] ++ [name]).length - 1 = p.steps.length + 1 := by
    simp
  have htake : (p.steps ++ [folder] ++ [name]).take (p.steps.length + 1) =
      p.steps ++ [folder] := by
    rw [List.take_append_of_le_length (by simp)]
    exact List.take_of_length_le (by simp)
  have hpieces : ∀ s ∈ p.steps, IsPiece s := fun s => isPiece_of_mem_steps
  rw [ancestors, hsteps, habsolute]
  rw [hlength, List.range_succ, List.reverse_append, List.reverse_singleton, List.singleton_append,
    List.map_cons, htake, plain, ← ofSteps_child p.isAbsolute hpieces hfolder]
  exact ⟨_, rfl⟩

end Path

end Courier
