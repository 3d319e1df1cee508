import Courier.Proofs.Files.Disk

/-!
# Making folders

Making a folder within a named folder adds at most these two, and nothing else changes.
-/

namespace Courier.Disk

/-- A disk that has some folders more, all of them at given places where nothing was. -/
structure Makes (d : Disk) (places : List (List String)) (made : Disk) : Prop where
  current_eq : made.current = d.current
  look_eq : ∀ q, made.look q = d.look q ∨
    q ∈ places ∧ d.look q = none ∧ made.look q = some .folder

theorem Makes.refl (d : Disk) (places : List (List String)) : d.Makes places d :=
  ⟨rfl, fun _ => .inl rfl⟩

theorem Makes.trans {a b c : Disk} {places : List (List String)} (hab : a.Makes places b)
    (hbc : b.Makes places c) : a.Makes places c := by
  refine ⟨hbc.current_eq.trans hab.current_eq, fun q => ?_⟩
  rcases hbc.look_eq q with hsame | ⟨hq, hnone, hfolder⟩
  · rw [hsame]
    exact hab.look_eq q
  · rcases hab.look_eq q with hsame | ⟨-, -, hmade⟩
    · exact .inr ⟨hq, hsame ▸ hnone, hfolder⟩
    · cases hmade.symm.trans hnone

theorem Makes.keeps {d made : Disk} {places : List (List String)} (h : d.Makes places made) :
    d.Keeps made := by
  refine ⟨h.current_eq, fun q hq => ?_⟩
  rcases h.look_eq q with hsame | ⟨-, -, hfolder⟩
  · exact hsame.trans hq
  · exact hfolder

theorem Sets.makes {d made : Disk} {place : List String}
    (h : d.Sets place (some .folder) made) (hplace : d.look place = none)
    {places : List (List String)} (hmem : place ∈ places) : d.Makes places made := by
  refine ⟨h.current_eq, fun q => ?_⟩
  rw [h.look_eq]
  by_cases hq : q = place
  · rw [hq, View.set_self]
    exact .inr ⟨hmem, hplace, rfl⟩
  · exact .inl (View.set_of_ne _ hq _)

section Folder

variable {d : Disk} {folder : Path} {name : String}

/-- A path that can be followed leads to a folder before its ending. -/
theorem look_of_follow {d : Disk} {p : Path} {place : List String} {ending : Ending}
    (h : d.follow p = .ok (place, ending)) : d.look place = some .folder := by
  rw [follow_of_isUsable d (isUsable_of_follow h)] at h
  cases henter : d.enter (d.start p) (route p).1 with
  | error e =>
      rw [henter] at h
      cases h
  | ok q =>
      rw [henter] at h
      cases h
      obtain ⟨hpasses, rfl⟩ := enter_eq_ok_iff.mp henter
      rw [← List.append_nil (route p).1, passes_append] at hpasses
      exact hpasses.2

theorem makeFolder_of_follow {p : Path} {place : List String} {slash : Bool}
    (h : d.follow p = .ok (place, .name name slash)) :
    d.makeFolder p =
      if name.utf8ByteSize > maxNameLength then .error .nameTooLong
      else if (d.look (place ++ [name])).isSome then .error .alreadyExists
      else .ok { d with root := d.root.put (place ++ [name]) .empty } := by
  rw [makeFolder, h]
  change (if name.utf8ByteSize > maxNameLength then _ else _) = ite _ _ _
  rw [look, FileTree.look, Option.isSome_map]
  split
  · rfl
  · cases (d.root.at? (place ++ [name])).isSome <;> rfl

theorem makeFolder_child (hname : Path.IsName name) (hopens : d.Opens folder name) :
    d.makeFolder (folder.child name) =
      if d.look (d.placeOf folder ++ [name]) = none then
        .ok { d with root := d.root.put (d.placeOf folder ++ [name]) .empty }
      else .error .alreadyExists := by
  rw [makeFolder_of_follow (follow_child hname hopens), if_neg (Nat.not_lt_of_le hopens.size_le)]
  cases d.look (d.placeOf folder ++ [name]) <;> rfl

theorem makeFolder_child_eq_ok (hname : Path.IsName name) {made : Disk}
    (h : d.makeFolder (folder.child name) = .ok made) :
    d.look (d.placeOf folder ++ [name]) = none ∧
      d.Sets (d.placeOf folder ++ [name]) (some .folder) made ∧ d.Opens folder name := by
  have hopens : d.Opens folder name := by
    rw [makeFolder] at h
    obtain ⟨x, hfollow, hmade⟩ := bind_eq_ok h
    obtain ⟨husable, hpasses, rfl⟩ := follow_child_eq_ok hname hfollow
    by_cases hsize : name.utf8ByteSize > maxNameLength
    · simp only [bind, Except.bind, hsize, if_true] at hmade
      cases hmade
    · exact ⟨husable, hpasses, Nat.le_of_not_lt hsize⟩
  rw [makeFolder_child hname hopens] at h
  split at h
  next hlook =>
    cases h
    exact ⟨hlook, ⟨rfl, FileTree.look_putFolder hopens.look_folder hlook⟩, hopens⟩
  next => cases h

/-- What is missing when a folder cannot be made is never the folder it would be in, if that can be
reached. -/
theorem makeFolder_child_ne_notFound (hname : Path.IsName name)
    (hpasses : Passes d.look (d.start folder) folder.steps) :
    d.makeFolder (folder.child name) ≠ .error .notFound := by
  intro h
  by_cases hopens : d.Opens folder name
  · rw [makeFolder_child hname hopens] at h
    split at h <;> cases h
  · rw [makeFolder] at h
    by_cases husable : (folder.child name).IsUsable
    · have hsize : name.utf8ByteSize > maxNameLength :=
        Nat.lt_of_not_le fun hle => hopens ⟨husable, hpasses, hle⟩
      have hfollow : d.follow (folder.child name) = .ok (d.placeOf folder, .name name false) := by
        rw [follow_of_isUsable d husable, Path.route_child folder hname,
          start_child d folder hname, enter_eq_ok_iff.mpr ⟨hpasses, rfl⟩]
        rfl
      simp only [hfollow, bind, Except.bind, hsize, if_true] at h
      cases h
    · have hne := child_text_ne_empty folder hname
      rcases follow_of_not_isUsable d hne husable with hfollow | hfollow
      · rw [hfollow] at h
        cases h
      · rw [hfollow] at h
        cases h

/-- Settling makes a folder unless it is there. -/
theorem settle_child_cases (hname : Path.IsName name) {made : Disk} {result : Except FileError Unit}
    (h : makeFolderVia.settle (folder.child name) d = (made, result))
    {places : List (List String)} (hmem : d.placeOf folder ++ [name] ∈ places) :
    d.Makes places made ∧
      (result = .ok () → made.look (d.placeOf folder ++ [name]) = some .folder) := by
  rw [makeFolderVia.settle] at h
  cases hmake : d.makeFolder (folder.child name) with
  | ok new =>
      rw [hmake] at h
      cases h
      obtain ⟨hlook, hsets, -⟩ := makeFolder_child_eq_ok hname hmake
      refine ⟨hsets.makes hlook hmem, fun _ => ?_⟩
      rw [hsets.look_eq, View.set_self]
  | error e =>
      rw [hmake] at h
      simp only at h
      cases h
      refine ⟨.refl d places, fun hok => ?_⟩
      split at hok
      next hcondition =>
        rw [Bool.and_eq_true] at hcondition
        exact ((isFolder_child_iff hname).mp hcondition.2).2
      next => cases hok

theorem settle_child_folder (hname : Path.IsName name) (hopens : d.Opens folder name)
    (hlook : d.look (d.placeOf folder ++ [name]) = some .folder) :
    makeFolderVia.settle (folder.child name) d = (d, .ok ()) := by
  have hsome : d.look (d.placeOf folder ++ [name]) ≠ none := by simp [hlook]
  have hfolder := (isFolder_child_iff hname).mpr ⟨hopens, hlook⟩
  rw [makeFolderVia.settle, makeFolder_child hname hopens, if_neg hsome, hfolder]
  rfl

theorem steps_child_isEmpty (hname : Path.IsName name) :
    (folder.child name).steps.isEmpty = false := by
  rw [Path.steps_child folder hname.toIsPiece]
  simp

/-- Making a folder in a named folder makes that one first if it is missing. -/
theorem makeFolders_child_child_eq {inner : String} (hname : Path.IsName name)
    (hinner : Path.IsName inner) (hpasses : Passes d.look (d.start folder) folder.steps) :
    d.makeFolders ((folder.child name).child inner) =
      match d.makeFolder ((folder.child name).child inner) with
      | .error .notFound =>
        match makeFolderVia.settle (folder.plain.child name) d with
        | (d, .ok ()) => makeFolderVia.settle ((folder.child name).child inner) d
        | failed => failed
      | _ => makeFolderVia.settle ((folder.child name).child inner) d := by
  obtain ⟨farther, hancestors⟩ := Path.ancestors_child_child folder hname.toIsPiece hinner.toIsPiece
  have hplain : Passes d.look (d.start folder.plain) folder.plain.steps := by
    rw [Path.steps_plain, start, Path.isAbsolute_plain]
    exact hpasses
  have hnearest : d.makeFolderVia (folder.plain.child name) farther =
      makeFolderVia.settle (folder.plain.child name) d := by
    cases farther with
    | nil => rfl
    | cons next farther =>
        have hne := makeFolder_child_ne_notFound hname hplain
        rw [makeFolderVia]
        split
        next h => exact absurd h hne
        next => rfl
  rw [makeFolders, steps_child_isEmpty hinner, hancestors, makeFolderVia, hnearest]
  rfl

theorem placeOf_plain (d : Disk) (folder : Path) : d.placeOf folder.plain = d.placeOf folder := by
  rw [placeOf, placeOf, start, start, Path.steps_plain, Path.isAbsolute_plain]

theorem makeFolders_child_child {inner : String} (hname : Path.IsName name)
    (hinner : Path.IsName inner) (hpasses : Passes d.look (d.start folder) folder.steps)
    {made : Disk} {result : Except FileError Unit}
    (h : d.makeFolders ((folder.child name).child inner) = (made, result)) :
    d.Makes [d.placeOf folder ++ [name], d.placeOf folder ++ [name] ++ [inner]] made ∧
      (result = .ok () → made.look (d.placeOf folder ++ [name] ++ [inner]) = some .folder) := by
  have hlast {before : Disk}
      (hplace : before.placeOf (folder.child name) = d.placeOf folder ++ [name])
      (h : makeFolderVia.settle ((folder.child name).child inner) before = (made, result)) :
      before.Makes [d.placeOf folder ++ [name], d.placeOf folder ++ [name] ++ [inner]] made ∧
        (result = .ok () → made.look (d.placeOf folder ++ [name] ++ [inner]) = some .folder) := by
    rw [← hplace]
    exact settle_child_cases hinner h (by simp)
  rw [makeFolders_child_child_eq hname hinner hpasses] at h
  -- The named folder is only made if the inner one could not be made without it.
  split at h
  · cases hsettle : makeFolderVia.settle (folder.plain.child name) d with
    | mk first answer =>
        have hmem : d.placeOf folder.plain ++ [name] ∈
            [d.placeOf folder ++ [name], d.placeOf folder ++ [name] ++ [inner]] := by
          rw [placeOf_plain]
          exact List.mem_cons_self
        have hfirst := (settle_child_cases hname hsettle hmem).1
        rw [hsettle] at h
        cases answer with
        | error e =>
            cases h
            exact ⟨hfirst, by simp⟩
        | ok _ =>
            have hplace : first.placeOf (folder.child name) = d.placeOf folder ++ [name] := by
              rw [placeOf_child first folder hname, hfirst.keeps.placeOf_eq]
            obtain ⟨hmakes, hfolder⟩ := hlast hplace h
            exact ⟨hfirst.trans hmakes, hfolder⟩
  · exact hlast (placeOf_child d folder hname) h

theorem makeFolders_child_child_folder {inner : String} (hname : Path.IsName name)
    (hinner : Path.IsName inner) (hpasses : Passes d.look (d.start folder) folder.steps)
    (hopens : d.Opens (folder.child name) inner)
    (hlook : d.look (d.placeOf folder ++ [name] ++ [inner]) = some .folder) :
    d.makeFolders ((folder.child name).child inner) = (d, .ok ()) := by
  rw [← placeOf_child d folder hname] at hlook
  have hsome : d.look (d.placeOf (folder.child name) ++ [inner]) ≠ none := by simp [hlook]
  rw [makeFolders_child_child_eq hname hinner hpasses, makeFolder_child hinner hopens,
    if_neg hsome]
  exact settle_child_folder hinner hopens hlook

end Folder

/-! ## Making folders anywhere -/

theorem Makes.mono {d made : Disk} {places more : List (List String)} (h : d.Makes places made)
    (hmore : ∀ q ∈ places, q ∈ more) : d.Makes more made := by
  refine ⟨h.current_eq, ?_⟩
  intro q
  rcases h.look_eq q with hsame | ⟨hmem, hnone, hmade⟩
  · exact .inl hsame
  · exact .inr ⟨hmore q hmem, hnone, hmade⟩

/-- A disk that has some folders more. -/
def MakesSome (d made : Disk) : Prop :=
  ∃ places, d.Makes places made

theorem MakesSome.refl (d : Disk) : d.MakesSome d :=
  ⟨[], .refl d []⟩

theorem MakesSome.trans {a b c : Disk} (hab : a.MakesSome b) (hbc : b.MakesSome c) :
    a.MakesSome c := by
  obtain ⟨first, hfirst⟩ := hab
  obtain ⟨second, hsecond⟩ := hbc
  refine ⟨first ++ second, ?_⟩
  apply (hfirst.mono _).trans (hsecond.mono _)
  · intro q hq
    exact List.mem_append_left second hq
  · intro q hq
    exact List.mem_append_right first hq

/-- No file comes of making folders. -/
theorem MakesSome.look_file {d made : Disk} (h : d.MakesSome made) {q : List String}
    {content : ByteArray} (hfile : made.look q = some (.file content)) :
    d.look q = some (.file content) := by
  obtain ⟨places, hmakes⟩ := h
  rcases hmakes.look_eq q with hsame | ⟨-, -, hmade⟩
  · exact hsame.symm.trans hfile
  · cases hmade.symm.trans hfile

theorem makeFolder_makesSome {d made : Disk} {p : Path} (h : d.makeFolder p = .ok made) :
    d.MakesSome made := by
  have hresult := h
  rw [makeFolder] at h
  obtain ⟨⟨place, ending⟩, hfollow, hmade⟩ := bind_eq_ok h
  cases ending with
  | here => cases hmade
  | name name slash =>
      rw [makeFolder_of_follow hfollow] at hresult
      split at hresult
      · cases hresult
      · split at hresult
        · cases hresult
        next hsome =>
          cases hresult
          have hnone : d.look (place ++ [name]) = none := by simpa using hsome
          have hsets : d.Sets (place ++ [name]) (some .folder)
              { d with root := d.root.put (place ++ [name]) .empty } :=
            ⟨rfl, FileTree.look_putFolder (look_of_follow hfollow) hnone⟩
          exact ⟨[place ++ [name]], hsets.makes hnone List.mem_cons_self⟩

theorem settle_makesSome (p : Path) (d : Disk) :
    d.MakesSome (makeFolderVia.settle p d).1 := by
  rw [makeFolderVia.settle]
  cases hmake : d.makeFolder p with
  | ok made => exact makeFolder_makesSome hmake
  | error e => exact .refl d

theorem makeFolderVia_makesSome (d : Disk) (p : Path) (via : List Path) :
    d.MakesSome (d.makeFolderVia p via).1 := by
  induction via generalizing p d with
  | nil => exact settle_makesSome p d
  | cons nearest farther ih =>
      rw [makeFolderVia]
      split
      · have hfirst := ih d nearest
        cases hvia : d.makeFolderVia nearest farther with
        | mk first answer =>
            rw [hvia] at hfirst
            cases answer with
            | error e => exact hfirst
            | ok _ => exact hfirst.trans (settle_makesSome p first)
      · exact settle_makesSome p d

theorem makeFolders_makesSome (d : Disk) (p : Path) : d.MakesSome (d.makeFolders p).1 := by
  rw [makeFolders]
  split
  · exact .refl d
  · exact makeFolderVia_makesSome d p p.ancestors

end Courier.Disk
