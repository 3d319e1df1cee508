import Courier.Proofs.Files.Path
import Courier.Proofs.Files.View

/-!
# Following paths

A path that can be followed ends at the place that its steps spell out, since two dots always undo
the step before. Whether it can be followed only depends on the folders it passes: it still can when
there are more of them.
-/

namespace Courier

/-- Two steps that can fail succeed together if both do. -/
theorem bind_eq_ok {ε α β : Type} {x : Except ε α} {next : α → Except ε β} {b : β}
    (h : x >>= next = .ok b) : ∃ a, x = .ok a ∧ next a = .ok b := by
  cases x with
  | error e => cases h
  | ok a => exact ⟨a, rfl, h⟩

namespace FileTree

theorem at?_append (tree : FileTree) (place more : List String) :
    tree.at? (place ++ more) = (tree.at? place).bind fun sub => sub.at? more := by
  induction place generalizing tree with
  | nil => rfl
  | cons name place ih =>
      rw [List.cons_append, at?, at?]
      cases tree.child? name with
      | none => rfl
      | some sub => exact ih sub

theorem at?_eq_none_iff {tree : FileTree} {place : List String} :
    tree.at? place = none ↔ tree.look place = none := by
  rw [look, Option.map_eq_none_iff]

end FileTree

namespace Disk

/-- What stands where on a disk. -/
def look (d : Disk) : View :=
  d.root.look

/-- The place one step further. -/
def nextPlace (place : List String) (name : String) : List String :=
  if name = ".." then place.dropLast else place ++ [name]

/-- The place that steps spell out. -/
def walk (place : List String) (steps : List String) : List String :=
  steps.foldl nextPlace place

/-- Whether steps pass folders only, the last place included. -/
def Passes (view : View) : List String → List String → Prop
  | place, [] => view place = some .folder
  | place, name :: steps =>
    view place = some .folder ∧ (name = ".." ∨ name.utf8ByteSize ≤ maxNameLength) ∧
      Passes view (nextPlace place name) steps

theorem Passes.start {view : View} {place steps : List String} (h : Passes view place steps) :
    view place = some .folder := by
  cases steps with
  | nil => exact h
  | cons name steps => exact h.1

theorem Passes.mono {view more : View}
    (hmore : ∀ q, view q = some .folder → more q = some .folder) {place steps : List String}
    (h : Passes view place steps) : Passes more place steps := by
  induction steps generalizing place with
  | nil => exact hmore place h
  | cons name steps ih => exact ⟨hmore place h.1, h.2.1, ih h.2.2⟩

theorem walk_append (place first second : List String) :
    walk place (first ++ second) = walk (walk place first) second :=
  List.foldl_append

theorem passes_append {view : View} {place first second : List String} :
    Passes view place (first ++ second) ↔
      Passes view place first ∧ Passes view (walk place first) second := by
  induction first generalizing place with
  | nil => exact ⟨fun h => ⟨h.start, h⟩, fun h => h.2⟩
  | cons name first ih =>
      rw [List.cons_append, Passes, Passes, ih]
      exact ⟨fun ⟨h, hname, hfirst, hsecond⟩ => ⟨⟨h, hname, hfirst⟩, hsecond⟩,
        fun ⟨⟨h, hname, hfirst⟩, hsecond⟩ => ⟨h, hname, hfirst, hsecond⟩⟩

/-! ## Steps -/

theorem at?_eq_folder {d : Disk} {place : List String} (hlook : d.look place = some .folder) :
    ∃ entries, d.root.at? place = some (.folder entries) := by
  rw [look, FileTree.look] at hlook
  cases hat : d.root.at? place with
  | none =>
      rw [hat] at hlook
      cases hlook
  | some tree =>
      cases tree with
      | file content =>
          rw [hat] at hlook
          cases hlook
      | folder entries => exact ⟨entries, rfl⟩

theorem look_of_at? {d : Disk} {place : List String} {tree : FileTree}
    (hat : d.root.at? place = some tree) : d.look place = some tree.node := by
  rw [look, FileTree.look, hat]
  rfl

theorem at?_eq_file {d : Disk} {place : List String} {content : ByteArray}
    (hlook : d.look place = some (.file content)) : d.root.at? place = some (.file content) := by
  rw [look, FileTree.look] at hlook
  cases hat : d.root.at? place with
  | none =>
      rw [hat] at hlook
      cases hlook
  | some tree =>
      rw [hat, Option.map_some, Option.some.injEq] at hlook
      cases tree with
      | file found =>
          rw [FileTree.node, Node.file.injEq] at hlook
          rw [hlook]
      | folder entries => cases hlook

theorem child?_eq_none_iff {d : Disk} {place : List String} {tree : FileTree}
    (hat : d.root.at? place = some tree) (name : String) :
    tree.child? name = none ↔ d.look (place ++ [name]) = none := by
  rw [look, ← FileTree.at?_eq_none_iff, FileTree.at?_append, hat, Option.bind_some]
  cases hchild : tree.child? name <;> simp [FileTree.at?, hchild]

/-- A step told by what stands where. -/
theorem step_eq (d : Disk) (place : List String) (name : String) :
    d.step place name = match d.look place with
      | none => .error .notFound
      | some (.file _) => .error .notFolder
      | some .folder =>
        if name = ".." then .ok place.dropLast
        else if name.utf8ByteSize > maxNameLength then .error .nameTooLong
        else if d.look (place ++ [name]) = none then .error .notFound
        else .ok (place ++ [name]) := by
  rw [step]
  cases hat : d.root.at? place with
  | none =>
      rw [look, FileTree.at?_eq_none_iff.mp hat]
  | some tree =>
      rw [look_of_at? hat]
      cases tree with
      | file content => rfl
      | folder entries =>
          simp only [FileTree.isFolder, FileTree.node, Bool.not_true, Bool.false_eq_true, if_false,
            Option.isNone_iff_eq_none, child?_eq_none_iff hat]

theorem step_eq_ok {d : Disk} {place q : List String} {name : String}
    (h : d.step place name = .ok q) :
    d.look place = some .folder ∧ (name = ".." ∨ name.utf8ByteSize ≤ maxNameLength) ∧
      q = nextPlace place name := by
  rw [step_eq] at h
  split at h
  · cases h
  · cases h
  next hfolder =>
    refine ⟨hfolder, ?_⟩
    rw [nextPlace]
    by_cases hback : name = ".."
    · rw [if_pos hback] at h ⊢
      exact ⟨.inl hback, (Except.ok.inj h).symm⟩
    · rw [if_neg hback] at h ⊢
      split at h
      · cases h
      next hsize =>
        split at h
        · cases h
        · exact ⟨.inr (Nat.le_of_not_lt hsize), (Except.ok.inj h).symm⟩

theorem step_of_folder {d : Disk} {place : List String} {name : String}
    (hfolder : d.look place = some .folder)
    (hname : name = ".." ∨ name.utf8ByteSize ≤ maxNameLength)
    (hnext : d.look (nextPlace place name) ≠ none) :
    d.step place name = .ok (nextPlace place name) := by
  rw [step_eq, hfolder]
  rw [nextPlace] at hnext ⊢
  by_cases hback : name = ".."
  · simp only [hback, if_true]
  · rw [if_neg hback] at hnext ⊢
    have hsize : ¬ name.utf8ByteSize > maxNameLength :=
      Nat.not_lt_of_le (hname.resolve_left hback)
    simp only [hback, hsize, hnext, if_false]

theorem enter_nil (d : Disk) (place : List String) :
    d.enter place [] = match d.look place with
      | none => .error .notFound
      | some (.file _) => .error .notFolder
      | some .folder => .ok place := by
  rw [enter, List.foldlM_nil, pure_bind]
  cases hat : d.root.at? place with
  | none => rw [look, FileTree.at?_eq_none_iff.mp hat]
  | some tree =>
      rw [look_of_at? hat]
      cases tree <;> rfl

theorem enter_cons (d : Disk) (place : List String) (name : String) (steps : List String) :
    d.enter place (name :: steps) = d.step place name >>= fun q => d.enter q steps := by
  rw [enter, List.foldlM_cons]
  cases d.step place name <;> rfl

/-- Steps can be taken exactly if they pass folders, and they lead where they say. -/
theorem enter_eq_ok_iff {d : Disk} {place q steps : List String} :
    d.enter place steps = .ok q ↔ Passes d.look place steps ∧ q = walk place steps := by
  induction steps generalizing place with
  | nil =>
      rw [enter_nil, Passes, walk, List.foldl_nil]
      constructor
      · intro h
        split at h
        · cases h
        · cases h
        next hfolder => exact ⟨hfolder, (Except.ok.inj h).symm⟩
      · rintro ⟨hfolder, rfl⟩
        rw [hfolder]
  | cons name steps ih =>
      rw [enter_cons, Passes, walk, List.foldl_cons, ← walk]
      constructor
      · intro h
        obtain ⟨next, hstep, hrest⟩ := bind_eq_ok h
        obtain ⟨hfolder, hname, rfl⟩ := step_eq_ok hstep
        obtain ⟨hpasses, hq⟩ := ih.mp hrest
        exact ⟨⟨hfolder, hname, hpasses⟩, hq⟩
      · rintro ⟨⟨hfolder, hname, hpasses⟩, hq⟩
        -- The next place is passed as well, so a folder is there.
        have hnext : d.look (nextPlace place name) ≠ none := by
          rw [hpasses.start]
          exact Option.some_ne_none _
        rw [step_of_folder hfolder hname hnext]
        exact ih.mpr ⟨hpasses, hq⟩

theorem step_of_missing {d : Disk} {place : List String} {name : String}
    (hfolder : d.look place = some .folder) (hname : name ≠ "..")
    (hsize : name.utf8ByteSize ≤ maxNameLength) (hnext : d.look (place ++ [name]) = none) :
    d.step place name = .error .notFound := by
  rw [step_eq, hfolder]
  simp only [hname, Nat.not_lt_of_le hsize, hnext, if_true, if_false]

/-- Steps that lead to something missing fail for that reason. -/
theorem enter_of_missing {d : Disk} {place steps : List String} {name : String}
    (hpasses : Passes d.look place steps) (hname : name ≠ "..")
    (hsize : name.utf8ByteSize ≤ maxNameLength)
    (hnext : d.look (walk place steps ++ [name]) = none) :
    d.enter place (steps ++ [name]) = .error .notFound := by
  induction steps generalizing place with
  | nil =>
      rw [List.nil_append, enter_cons, step_of_missing hpasses hname hsize hnext]
      rfl
  | cons first steps ih =>
      obtain ⟨hfolder, hfirst, hrest⟩ := hpasses
      have hthere : d.look (nextPlace place first) ≠ none := by
        rw [hrest.start]
        exact Option.some_ne_none _
      rw [List.cons_append, enter_cons, step_of_folder hfolder hfirst hthere]
      exact ih hrest hnext

end Disk

end Courier
