import Courier.Proofs.Files.Agreement

/-!
# Answers on disks that differ in part

An operation is answered alike on two disks that differ only where it does not look: in the content
of files that it overwrites, and in folders that it would have made itself.
-/

namespace Courier

namespace Path

/-! ## The usual spelling -/

theorem utf8ByteSize_ofList_le {cs more : List Char} (h : cs.Sublist more) :
    (String.ofList cs).utf8ByteSize ≤ (String.ofList more).utf8ByteSize := by
  induction h with
  | slnil => exact Nat.le_refl _
  | cons c _ ih =>
      rw [String.ofList_cons, String.utf8ByteSize_append]
      exact Nat.le_trans ih (Nat.le_add_left _ _)
  | cons_cons c _ ih =>
      rw [String.ofList_cons, String.ofList_cons, String.utf8ByteSize_append,
        String.utf8ByteSize_append]
      exact Nat.add_le_add_left ih _

theorem toList_intercalate_concat (steps : List String) (name : String) :
    (String.intercalate "/" (steps ++ [name])).toList =
      steps.flatMap (fun s => s.toList ++ ['/']) ++ name.toList := by
  induction steps with
  | nil => simp
  | cons step steps ih =>
      rw [List.cons_append, ← List.singleton_append,
        String.intercalate_append_of_ne_nil (by simp) (by simp), String.intercalate_singleton]
      simp [ih]

/-- Pieces that count for nothing only make a path longer. -/
theorem flatMap_steps_sublist (pieces : List (List Char)) :
    ((pieces.filterMap fun piece =>
      if isVoid piece then none else some (String.ofList piece)).flatMap
        fun s => s.toList ++ ['/']).Sublist (pieces.flatMap (· ++ ['/'])) := by
  induction pieces with
  | nil => exact .slnil
  | cons piece pieces ih =>
      rw [List.filterMap_cons, List.flatMap_cons]
      by_cases hvoid : isVoid piece = true
      · rw [if_pos hvoid]
        exact ih.trans (List.sublist_append_right _ _)
      · rw [if_neg hvoid, List.flatMap_cons, String.toList_ofList]
        exact (List.Sublist.refl _).append ih

/-- A name in a folder is spelled with the fewest letters in the usual spelling. -/
theorem plain_child_sublist (p : Path) {name : String} (hname : IsPiece name) :
    (p.plain.child name).text.toList.Sublist (p.child name).text.toList := by
  obtain ⟨front, hfront, hpieces, hsteps⟩ := lead_pieces p
  have hall : ∀ s ∈ p.steps, IsPiece s := fun s => isPiece_of_mem_steps
  rw [plain, ← ofSteps_child p.isAbsolute hall hname, child_text p hname.no_slash,
    String.toList_append, ← hfront, ofSteps, String.toList_append, toList_intercalate_concat,
    ← List.append_assoc]
  refine List.Sublist.append ?_ (List.Sublist.refl _)
  rw [hsteps]
  by_cases habsolute : p.isAbsolute = true
  · -- The slash at the start ends an empty piece.
    obtain ⟨rest, rfl⟩ : ∃ rest, front = [] :: rest := by
      have hhead : p.lead.toList.head? = some '/' := by
        have htext : p.text.toList.head? = some '/' := by simpa [isAbsolute] using habsolute
        rw [lead]
        split
        · exact htext
        · rw [String.toList_append, List.head?_append, htext]
          rfl
      cases front with
      | nil =>
          rw [← hfront] at hhead
          cases hhead
      | cons first rest =>
          have hmem : first ∈ splitPieces (p.lead.toList ++ []) := by
            rw [hpieces [] List.not_mem_nil]
            exact List.mem_cons_self
          cases first with
          | nil => exact ⟨rest, rfl⟩
          | cons c cs =>
              rw [← hfront] at hhead
              obtain rfl : c = '/' := Option.some.inj hhead
              exact absurd List.mem_cons_self (no_slash_of_mem_splitPieces hmem)
    rw [if_pos habsolute, List.filterMap_cons, List.flatMap_cons]
    exact (List.Sublist.refl ['/']).append (flatMap_steps_sublist rest)
  · rw [if_neg habsolute]
    exact flatMap_steps_sublist front

/-- A name in a folder can be used in the usual spelling if it can be used at all. -/
theorem isUsable_plain_child (p : Path) {name : String} (hname : IsName name)
    (h : (p.child name).IsUsable) : (p.plain.child name).IsUsable := by
  have hshorter := p.plain_child_sublist hname.toIsPiece
  refine ⟨fun hnul => h.no_nul (hshorter.subset hnul), Disk.child_text_ne_empty _ hname, ?_⟩
  have hsize := utf8ByteSize_ofList_le hshorter
  rw [String.ofList_toList, String.ofList_toList] at hsize
  exact Nat.le_trans hsize h.size_le

end Path

namespace Disk

variable {d e : Disk} {folder : Path} {name inner stem : String}

/-- Disks agree on a path that leads through folders on both. -/
theorem agreesOn_of_passes {p : Path} (hcurrent : e.current = d.current)
    (hd : Passes d.look (d.start p) p.steps) (he : Passes e.look (e.start p) p.steps) :
    d.AgreesOn p e := by
  rw [start, hcurrent] at he
  exact ⟨hcurrent, fun q hq => (he.look_trail hq).trans (hd.look_trail hq).symm⟩

/-- Disks that agree on a path through folders do so as long as both keep them. -/
theorem AgreesOn.keeps {p : Path} (h : d.AgreesOn p e)
    (hpasses : Passes d.look (d.start p) p.steps) {d' e' : Disk} (hd : d.Keeps d')
    (he : e.Keeps e') : d'.AgreesOn p e' := by
  refine ⟨he.current_eq.trans (h.current_eq.trans hd.current_eq.symm), fun q hq => ?_⟩
  rw [start, hd.current_eq] at hq
  have hfolder := hpasses.look_trail hq
  rw [hd.folders q hfolder, he.folders q ((h.look_eq q hq).trans hfolder)]

theorem Keeps.agreesOn (h : d.Keeps e) {p : Path} (hpasses : Passes d.look (d.start p) p.steps) :
    d.AgreesOn p e := by
  refine agreesOn_of_passes h.current_eq hpasses ?_
  rw [start, h.current_eq]
  exact hpasses.mono h.folders

/-! ## Making folders -/

/-- Why a path is not taken at all has nothing to do with the disk. -/
theorem follow_congr_of_not_isUsable {p : Path} (hp : ¬ p.IsUsable) (d e : Disk) :
    e.follow p = d.follow p := by
  unfold follow
  by_cases hnul : '\x00' ∈ p.text.toList
  · rw [if_pos hnul, if_pos hnul]
    rfl
  · by_cases hempty : p.text.isEmpty = true
    · simp only [hnul, hempty, if_true, if_false]
      rfl
    · have hsize : p.text.utf8ByteSize > maxPathLength :=
        Nat.lt_of_not_le fun hle => hp ⟨hnul, by simpa using hempty, hle⟩
      simp only [hnul, hempty, hsize, if_true, if_false]
      rfl

theorem makeFolders_of_not_isUsable (hname : Path.IsName name) (hinner : Path.IsName inner)
    (hpasses : Passes d.look (d.start folder) folder.steps)
    (husable : ¬ ((folder.child name).child inner).IsUsable) {error : FileError}
    (hfollow : d.follow ((folder.child name).child inner) = .error error) :
    (d.makeFolders ((folder.child name).child inner)).2 = .error error := by
  have hne := child_text_ne_empty (folder.child name) hinner
  have hmake : d.makeFolder ((folder.child name).child inner) = .error error := by
    rw [makeFolder, hfollow]
    rfl
  have herror : error = .nulInPath ∨ error = .nameTooLong := by
    rcases follow_of_not_isUsable d hne husable with h | h
    · exact .inl (Except.error.inj (hfollow.symm.trans h))
    · exact .inr (Except.error.inj (hfollow.symm.trans h))
  rw [makeFolders_child_child_eq hname hinner hpasses, hmake]
  rcases herror with rfl | rfl
  · simp [makeFolderVia.settle, hmake]
  · simp [makeFolderVia.settle, hmake]

theorem settle_child_missing (hname : Path.IsName name) (hopens : d.Opens folder name)
    (hlook : d.look (d.placeOf folder ++ [name]) = none) :
    (makeFolderVia.settle (folder.child name) d).2 = .ok () := by
  rw [makeFolderVia.settle, makeFolder_child hname hopens, if_pos hlook]

section Nested

variable (hname : Path.IsName name) (hinner : Path.IsName inner)
  (hsize : name.utf8ByteSize ≤ maxNameLength) (hsize' : inner.utf8ByteSize ≤ maxNameLength)
  (hpasses : Passes d.look (d.start folder) folder.steps)
  (husable : ((folder.child name).child inner).IsUsable)

include hname hsize hsize' hpasses husable in
theorem Keeps.opens_child (hkeeps : d.Keeps e)
    (hfolder : e.look (d.placeOf folder ++ [name]) = some .folder) :
    e.Opens (folder.child name) inner := by
  refine ⟨husable, (passes_child_iff hname).mpr ⟨?_, hsize, ?_⟩, hsize'⟩
  · rw [start, hkeeps.current_eq]
    exact hpasses.mono hkeeps.folders
  · rw [hkeeps.placeOf_eq]
    exact hfolder

include hname hinner hsize hpasses husable

theorem makeFolder_child_child_missing (hnone : d.look (d.placeOf folder ++ [name]) = none) :
    d.makeFolder ((folder.child name).child inner) = .error .notFound := by
  have henter : d.enter (d.start ((folder.child name).child inner))
      (folder.child name).steps = .error .notFound := by
    rw [start_child d _ hinner, start_child d folder hname, Path.steps_child folder hname.toIsPiece]
    exact enter_of_missing hpasses hname.ne_back hsize hnone
  rw [makeFolder, follow_of_isUsable d husable, Path.route_child _ hinner, henter]
  rfl

include hsize'

/-- Where the outer folder is missing, it is made first and then the inner one. -/
theorem makeFolders_child_child_missing (hnone : d.look (d.placeOf folder ++ [name]) = none) :
    (d.makeFolders ((folder.child name).child inner)).2 = .ok () := by
  have hmissing : d.look (d.placeOf folder ++ [name] ++ [inner]) = none :=
    FileTree.look_append_cons (fun h => by cases hnone.symm.trans h) inner []
  have hplain : d.Opens folder.plain name := by
    refine ⟨?_, ?_, hsize⟩
    · exact folder.isUsable_plain_child hname (isUsable_of_child hname hinner.no_slash husable)
    · rw [Path.steps_plain, start, Path.isAbsolute_plain]
      exact hpasses
  have hfirst : d.look (d.placeOf folder.plain ++ [name]) = none := by
    rw [placeOf_plain]
    exact hnone
  obtain ⟨made, hmade⟩ : ∃ made, d.makeFolder (folder.plain.child name) = .ok made :=
    ⟨_, (makeFolder_child hname hplain).trans (if_pos hfirst)⟩
  have hsets := (makeFolder_child_eq_ok hname hmade).2.1
  rw [placeOf_plain] at hsets
  have hkeeps : d.Keeps made := hsets.keeps (by simp [hnone])
  have hsettle : makeFolderVia.settle (folder.plain.child name) d = (made, .ok ()) := by
    rw [makeFolderVia.settle, hmade]
  rw [makeFolders_child_child_eq hname hinner hpasses,
    makeFolder_child_child_missing hname hinner hsize hpasses husable hnone]
  dsimp only
  rw [hsettle]
  apply settle_child_missing hinner
  · apply hkeeps.opens_child hname hsize hsize' hpasses husable
    rw [hsets.look_eq, View.set_self]
  · rw [placeOf_child made folder hname, hkeeps.placeOf_eq, hsets.look_eq,
      View.set_of_ne _ (by simp)]
    exact hmissing

/-- Two folders, one in the other, are made unless a file is in their place. -/
theorem makeFolders_child_child_ok
    (houter : d.look (d.placeOf folder ++ [name]) = none ∨
      d.look (d.placeOf folder ++ [name]) = some .folder)
    (hlook : d.look (d.placeOf folder ++ [name] ++ [inner]) = none ∨
      d.look (d.placeOf folder ++ [name] ++ [inner]) = some .folder) :
    (d.makeFolders ((folder.child name).child inner)).2 = .ok () := by
  rcases houter with hnone | hfolder
  · exact makeFolders_child_child_missing hname hinner hsize hsize' hpasses husable hnone
  · have hopens := (Keeps.refl d).opens_child hname hsize hsize' hpasses husable hfolder
    rcases hlook with hmissing | hfound
    · have hplace : d.look (d.placeOf (folder.child name) ++ [inner]) = none := by
        rw [placeOf_child d folder hname]
        exact hmissing
      rw [makeFolders_child_child_eq hname hinner hpasses, makeFolder_child hinner hopens,
        if_pos hplace]
      exact settle_child_missing hinner hopens hplace
    · rw [makeFolders_child_child_folder hname hinner hpasses hopens hfound]

/-- Nothing stands in a folder that is missing, so new folders find no file in their place. -/
theorem makeFolders_answer_of_isUsable (hkeeps : d.Keeps e)
    (houter : e.look (d.placeOf folder ++ [name]) = d.look (d.placeOf folder ++ [name]) ∨
      d.look (d.placeOf folder ++ [name]) = none ∧
        e.look (d.placeOf folder ++ [name]) = some .folder)
    (hlook : e.look (d.placeOf folder ++ [name] ++ [inner]) =
        d.look (d.placeOf folder ++ [name] ++ [inner]) ∨
      d.look (d.placeOf folder ++ [name] ++ [inner]) = none ∧
        e.look (d.placeOf folder ++ [name] ++ [inner]) = some .folder) :
    (e.makeFolders ((folder.child name).child inner)).2 =
      (d.makeFolders ((folder.child name).child inner)).2 := by
  have hpasses' : Passes e.look (e.start folder) folder.steps := by
    rw [start, hkeeps.current_eq]
    exact hpasses.mono hkeeps.folders
  have hok := @makeFolders_child_child_ok d folder name inner hname hinner hsize hsize' hpasses
    husable
  have hok' := @makeFolders_child_child_ok e folder name inner hname hinner hsize hsize' hpasses'
    husable
  rw [hkeeps.placeOf_eq folder] at hok'
  rcases houter with hsame | ⟨hnone, hfolder⟩
  · rcases hlook with hsame' | ⟨hnone', hfolder'⟩
    · have hagrees : d.AgreesOn ((folder.child name).child inner) e := by
        rw [agreesOn_child_iff hinner, agreesOn_child_iff hname, placeOf_child d folder hname]
        exact ⟨⟨hkeeps.agreesOn hpasses, hsame⟩, hsame'⟩
      have halike := hagrees.makeFolders_child_child (R := fun _ _ => True)
        (fun _ _ _ => trivial) trivial hname hinner hpasses
      exact halike.answer_eq
    · have hsome : e.look (d.placeOf folder ++ [name] ++ [inner]) ≠ none := by
        rw [hfolder']
        exact Option.some_ne_none _
      have houter := FileTree.look_eq_folder_of_append (List.cons_ne_nil inner []) hsome
      rw [hok (.inr (hsame.symm.trans houter)) (.inl hnone'), hok' (.inr houter) (.inr hfolder')]
  · have hmissing : d.look (d.placeOf folder ++ [name] ++ [inner]) = none :=
      FileTree.look_append_cons (fun h => by cases hnone.symm.trans h) inner []
    rw [hok (.inl hnone) (.inl hmissing), hok' (.inr hfolder)]
    rcases hlook with hsame | ⟨-, hfound⟩
    · exact .inl (hsame.trans hmissing)
    · exact .inr hfound

omit husable

/-- The answer is the same where more folders are. -/
theorem makeFolders_answer (hkeeps : d.Keeps e)
    (houter : e.look (d.placeOf folder ++ [name]) = d.look (d.placeOf folder ++ [name]) ∨
      d.look (d.placeOf folder ++ [name]) = none ∧
        e.look (d.placeOf folder ++ [name]) = some .folder)
    (hlook : e.look (d.placeOf folder ++ [name] ++ [inner]) =
        d.look (d.placeOf folder ++ [name] ++ [inner]) ∨
      d.look (d.placeOf folder ++ [name] ++ [inner]) = none ∧
        e.look (d.placeOf folder ++ [name] ++ [inner]) = some .folder) :
    (e.makeFolders ((folder.child name).child inner)).2 =
      (d.makeFolders ((folder.child name).child inner)).2 := by
  by_cases husable : ((folder.child name).child inner).IsUsable
  · exact makeFolders_answer_of_isUsable hname hinner hsize hsize' hpasses husable hkeeps houter
      hlook
  · have hpasses' : Passes e.look (e.start folder) folder.steps := by
      rw [start, hkeeps.current_eq]
      exact hpasses.mono hkeeps.folders
    have hsame := follow_congr_of_not_isUsable husable d e
    cases hfollow : d.follow ((folder.child name).child inner) with
    | error error =>
        rw [hfollow] at hsame
        rw [makeFolders_of_not_isUsable hname hinner hpasses husable hfollow,
          makeFolders_of_not_isUsable hname hinner hpasses' husable hsame]
    | ok x => exact absurd (isUsable_of_follow hfollow) husable

end Nested

/-! ## Writing documents -/

/-- Whether a document can be replaced is a matter of the way to it and of folders in the place of
its draft and in its own. -/
theorem AgreesOn.replace_answer (h : d.AgreesOn folder e) (hstem : Path.IsPiece stem)
    (hdraft : hasFolder e.look (d.placeOf folder ++ [stem ++ ".toml.tmp"]) =
      hasFolder d.look (d.placeOf folder ++ [stem ++ ".toml.tmp"]))
    (hfree : d.Opens folder (stem ++ ".toml.tmp") →
      d.look (d.placeOf folder ++ [stem ++ ".toml"]) ≠ some .folder)
    (hfree' : e.Opens folder (stem ++ ".toml.tmp") →
      e.look (d.placeOf folder ++ [stem ++ ".toml"]) ≠ some .folder)
    (content content' : String) :
    (e.replace (folder.child (stem ++ ".toml")) content').2 =
      (d.replace (folder.child (stem ++ ".toml")) content).2 := by
  have hname := isName_draft hstem
  have hsame := h.placeOfFile_child hname hdraft
  cases hplace : d.placeOfFile (folder.child (stem ++ ".toml.tmp")) with
  | error error =>
      rw [hplace] at hsame
      have hwrite : d.write (folder.child (stem ++ ".toml.tmp")) content.toUTF8 =
          .error error := by
        rw [write, hplace]
        rfl
      have hwrite' : e.write (folder.child (stem ++ ".toml.tmp")) content'.toUTF8 =
          .error error := by
        rw [write, hsame]
        rfl
      unfold replace
      rw [Path.draftPath_child folder hstem.ne_empty hstem.no_slash, hwrite, hwrite']
  | ok q =>
      rw [hplace] at hsame
      have hadmits := (placeOfFile_child_eq_ok hname hplace).1
      have hadmits' := (placeOfFile_child_eq_ok hname hsame).1
      rw [← h.placeOf_eq] at hfree'
      obtain ⟨changed, hreplace, -⟩ := Disk.replace_child hstem content hadmits
        (hfree hadmits.toOpens)
      obtain ⟨changed', hreplace', -⟩ := Disk.replace_child hstem content' hadmits'
        (hfree' hadmits'.toOpens)
      rw [hreplace, hreplace']

end Disk

end Courier
