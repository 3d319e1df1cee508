import Courier.Proofs.Files.Walk

/-!
# Files in a folder

What each operation does to the file of a name in a folder, told by what stands where. An operation
that succeeds shows that its path can be followed, and a path that can be followed leaves only what
stands at its place to decide.
-/

namespace Courier

/-- A path that the system takes at all. -/
structure Path.IsUsable (p : Path) : Prop where
  no_nul : '\x00' ∉ p.text.toList
  ne_empty : p.text ≠ ""
  size_le : p.text.utf8ByteSize ≤ Disk.maxPathLength

namespace Disk

/-- Where a path starts. -/
def start (d : Disk) (p : Path) : List String :=
  if p.isAbsolute then [] else d.current

/-- The place of a folder. -/
def placeOf (d : Disk) (folder : Path) : List String :=
  walk (d.start folder) folder.steps

/-- Whether the path of a name in a folder can be followed up to the name. -/
structure Opens (d : Disk) (folder : Path) (name : String) : Prop where
  usable : (folder.child name).IsUsable
  passes : Passes d.look (d.start folder) folder.steps
  size_le : name.utf8ByteSize ≤ maxNameLength

theorem Opens.look_folder {d : Disk} {folder : Path} {name : String} (h : d.Opens folder name) :
    d.look (d.placeOf folder) = some .folder := by
  have hall := h.passes
  rw [← List.append_nil folder.steps, passes_append] at hall
  exact hall.2

/-- Whether a file of a name can be written in a folder: it can be reached, and no folder has the
name. -/
structure Admits (d : Disk) (folder : Path) (name : String) : Prop
    extends Opens d folder name where
  ne_folder : d.look (d.placeOf folder ++ [name]) ≠ some .folder

/-! ## Disks that keep their folders -/

/-- Whether a disk has all the folders of another one, seen from the same folder. -/
structure Keeps (d kept : Disk) : Prop where
  current_eq : kept.current = d.current
  folders : ∀ q, d.look q = some .folder → kept.look q = some .folder

theorem Keeps.refl (d : Disk) : d.Keeps d :=
  ⟨rfl, fun _ h => h⟩

theorem Keeps.trans {a b c : Disk} (hab : a.Keeps b) (hbc : b.Keeps c) : a.Keeps c :=
  ⟨hbc.current_eq.trans hab.current_eq, fun q h => hbc.folders q (hab.folders q h)⟩

/-- A change at a place without a folder keeps all folders. -/
theorem Keeps.of_set {d changed : Disk} {place : List String} {node : Option Node}
    (hcurrent : changed.current = d.current) (hlook : changed.look = d.look.set place node)
    (hplace : d.look place ≠ some .folder) : d.Keeps changed := by
  refine ⟨hcurrent, fun q hq => ?_⟩
  have hne : q ≠ place := by
    rintro rfl
    exact hplace hq
  rw [hlook, View.set_of_ne _ hne]
  exact hq

theorem Keeps.placeOf_eq {d kept : Disk} (h : d.Keeps kept) (folder : Path) :
    kept.placeOf folder = d.placeOf folder := by
  rw [placeOf, placeOf, start, start, h.current_eq]

theorem Keeps.opens {d kept : Disk} (h : d.Keeps kept) {folder : Path} {name : String}
    (hopens : d.Opens folder name) : kept.Opens folder name := by
  refine ⟨hopens.usable, ?_, hopens.size_le⟩
  rw [start, h.current_eq]
  exact hopens.passes.mono h.folders

/-- A file can be written as long as no folder takes its name. -/
theorem Admits.keeps {d kept : Disk} {folder : Path} {name : String} (h : d.Admits folder name)
    (hkeeps : d.Keeps kept)
    (hnode : kept.look (d.placeOf folder ++ [name]) = d.look (d.placeOf folder ++ [name]) ∨
      kept.look (d.placeOf folder ++ [name]) = none) : kept.Admits folder name := by
  refine ⟨hkeeps.opens h.toOpens, ?_⟩
  rw [hkeeps.placeOf_eq]
  rcases hnode with hsame | hnone
  · rw [hsame]
    exact h.ne_folder
  · simp [hnone]

/-- A disk without what stands at a place. -/
def clear (d : Disk) (place : List String) : Disk :=
  { d with root := d.root.remove place }

theorem look_clear_self (d : Disk) (parent : List String) (name : String) :
    (d.clear (parent ++ [name])).look (parent ++ [name]) = none := by
  change (d.root.remove (parent ++ [name])).look _ = none
  rw [FileTree.look_remove, if_pos (List.prefix_refl _)]

theorem look_clear_of_not_prefix (d : Disk) {parent q : List String} {name : String}
    (hq : ¬ parent ++ [name] <+: q) : (d.clear (parent ++ [name])).look q = d.look q := by
  change (d.root.remove (parent ++ [name])).look _ = _
  rw [FileTree.look_remove, if_neg hq]
  rfl

/-! ## Following -/

theorem isUsable_of_follow {d : Disk} {p : Path} {x : List String × Ending}
    (h : d.follow p = .ok x) : p.IsUsable := by
  rw [follow] at h
  by_cases hnul : '\x00' ∈ p.text.toList
  · rw [if_pos hnul] at h
    cases h
  · rw [if_neg hnul] at h
    by_cases hempty : p.text.isEmpty = true
    · simp only [hempty, if_true] at h
      cases h
    · simp only [hempty] at h
      by_cases hsize : p.text.utf8ByteSize > maxPathLength
      · simp only [hsize, if_true] at h
        cases h
      · exact ⟨hnul, by simpa using hempty, Nat.le_of_not_lt hsize⟩

theorem follow_of_isUsable (d : Disk) {p : Path} (hp : p.IsUsable) :
    d.follow p = (d.enter (d.start p) (route p).1).map fun place => (place, (route p).2) := by
  have hempty : ¬ p.text.isEmpty = true := by simpa using hp.ne_empty
  have hsize : ¬ p.text.utf8ByteSize > maxPathLength := Nat.not_lt_of_le hp.size_le
  rw [follow, if_neg hp.no_nul]
  simp only [hempty, hsize, if_false]
  change (d.enter (d.start p) (route p).1 >>= fun place => pure (place, (route p).2)) = _
  cases d.enter (d.start p) (route p).1 <;> rfl

/-- What is wrong with a path that the system does not take is never that something is missing. -/
theorem follow_of_not_isUsable (d : Disk) {p : Path} (hne : p.text ≠ "") (hp : ¬ p.IsUsable) :
    d.follow p = .error .nulInPath ∨ d.follow p = .error .nameTooLong := by
  have hempty : ¬ p.text.isEmpty = true := by simpa using hne
  rw [follow]
  by_cases hnul : '\x00' ∈ p.text.toList
  · rw [if_pos hnul]
    exact .inl rfl
  · have hsize : p.text.utf8ByteSize > maxPathLength :=
      Nat.lt_of_not_le fun hle => hp ⟨hnul, hne, hle⟩
    rw [if_neg hnul]
    simp only [hempty, hsize, if_true]
    exact .inr rfl

section Child

variable {d : Disk} {folder : Path} {name : String}

theorem start_child (d : Disk) (folder : Path) (hname : Path.IsName name) :
    d.start (folder.child name) = d.start folder := by
  rw [start, start, Path.isAbsolute_child folder hname.no_slash]

theorem placeOf_child (d : Disk) (folder : Path) (hname : Path.IsName name) :
    d.placeOf (folder.child name) = d.placeOf folder ++ [name] := by
  rw [placeOf, start_child d folder hname, Path.steps_child folder hname.toIsPiece, walk_append]
  exact if_neg hname.ne_back

/-- A folder in a folder is reached through that one. -/
theorem passes_child_iff (hname : Path.IsName name) :
    Passes d.look (d.start (folder.child name)) (folder.child name).steps ↔
      Passes d.look (d.start folder) folder.steps ∧ name.utf8ByteSize ≤ maxNameLength ∧
        d.look (d.placeOf folder ++ [name]) = some .folder := by
  have hnext : nextPlace (d.placeOf folder) name = d.placeOf folder ++ [name] :=
    if_neg hname.ne_back
  rw [start_child d folder hname, Path.steps_child folder hname.toIsPiece, passes_append]
  change _ ∧ d.look (d.placeOf folder) = some .folder ∧ _ ∧
    d.look (nextPlace (d.placeOf folder) name) = some .folder ↔ _
  rw [hnext]
  constructor
  · rintro ⟨hpasses, -, hsize, hlook⟩
    exact ⟨hpasses, hsize.resolve_left hname.ne_back, hlook⟩
  · rintro ⟨hpasses, hsize, hlook⟩
    have hend := hpasses
    rw [← List.append_nil folder.steps, passes_append] at hend
    exact ⟨hpasses, hend.2, .inr hsize, hlook⟩

theorem follow_child (hname : Path.IsName name) (hopens : d.Opens folder name) :
    d.follow (folder.child name) = .ok (d.placeOf folder, .name name false) := by
  rw [follow_of_isUsable d hopens.usable, Path.route_child folder hname, start_child d folder hname,
    enter_eq_ok_iff.mpr ⟨hopens.passes, rfl⟩]
  rfl

theorem follow_child_eq_ok (hname : Path.IsName name) {x : List String × Ending}
    (h : d.follow (folder.child name) = .ok x) :
    (folder.child name).IsUsable ∧ Passes d.look (d.start folder) folder.steps ∧
      x = (d.placeOf folder, .name name false) := by
  have husable := isUsable_of_follow h
  rw [follow_of_isUsable d husable, Path.route_child folder hname, start_child d folder hname] at h
  cases henter : d.enter (d.start folder) folder.steps with
  | error e =>
      rw [henter] at h
      cases h
  | ok place =>
      rw [henter] at h
      obtain ⟨hpasses, rfl⟩ := enter_eq_ok_iff.mp henter
      exact ⟨husable, hpasses, (Except.ok.inj h).symm⟩

/-! ## Looking -/

theorem find_child (hname : Path.IsName name) (hopens : d.Opens folder name) :
    d.find (folder.child name) = match d.root.at? (d.placeOf folder ++ [name]) with
      | none => .error .notFound
      | some tree => .ok tree := by
  rw [find, follow_child hname hopens]
  change (if name.utf8ByteSize > maxNameLength then _ else _) = _
  rw [if_neg (Nat.not_lt_of_le hopens.size_le)]
  cases d.root.at? (d.placeOf folder ++ [name]) <;> rfl

theorem find_child_eq_ok (hname : Path.IsName name) {tree : FileTree}
    (h : d.find (folder.child name) = .ok tree) :
    d.Opens folder name ∧ d.root.at? (d.placeOf folder ++ [name]) = some tree := by
  rw [find] at h
  obtain ⟨x, hfollow, hfound⟩ := bind_eq_ok h
  obtain ⟨husable, hpasses, rfl⟩ := follow_child_eq_ok hname hfollow
  change (if name.utf8ByteSize > maxNameLength then _ else _) = _ at hfound
  split at hfound
  · cases hfound
  next hsize =>
    refine ⟨⟨husable, hpasses, Nat.le_of_not_lt hsize⟩, ?_⟩
    cases hat : d.root.at? (d.placeOf folder ++ [name]) with
    | none =>
        rw [hat] at hfound
        cases hfound
    | some found =>
        rw [hat] at hfound
        exact congrArg some (Except.ok.inj hfound)

/-- Whether a name is there. -/
theorem exists?_child_iff (hname : Path.IsName name) :
    d.exists? (folder.child name) = true ↔
      d.Opens folder name ∧ d.look (d.placeOf folder ++ [name]) ≠ none := by
  constructor
  · intro h
    cases hfind : d.find (folder.child name) with
    | error e =>
        rw [exists?, hfind] at h
        cases h
    | ok tree =>
        obtain ⟨hopens, hat⟩ := find_child_eq_ok hname hfind
        exact ⟨hopens, by rw [look_of_at? hat]; exact Option.some_ne_none _⟩
  · rintro ⟨hopens, hlook⟩
    rw [exists?, find_child hname hopens]
    cases hat : d.root.at? (d.placeOf folder ++ [name]) with
    | none => exact absurd (FileTree.at?_eq_none_iff.mp hat) hlook
    | some tree => rfl

theorem isFolder_child_iff (hname : Path.IsName name) :
    d.isFolder (folder.child name) = true ↔
      d.Opens folder name ∧ d.look (d.placeOf folder ++ [name]) = some .folder := by
  constructor
  · intro h
    cases hfind : d.find (folder.child name) with
    | error e =>
        rw [isFolder, hfind] at h
        cases h
    | ok tree =>
        obtain ⟨hopens, hat⟩ := find_child_eq_ok hname hfind
        rw [isFolder, hfind] at h
        cases tree with
        | file content => cases h
        | folder entries => exact ⟨hopens, look_of_at? hat⟩
  · rintro ⟨hopens, hlook⟩
    obtain ⟨entries, hat⟩ := at?_eq_folder hlook
    rw [isFolder, find_child hname hopens, hat]
    rfl

/-- The text of a file by what stands at its place. -/
def textOf : Option Node → Except FileError String
  | none => .error .notFound
  | some .folder => .error .isFolder
  | some (.file content) =>
    match String.fromUTF8? content with
    | some s => .ok s
    | none => .error .notText

theorem readText_of_find {p : Path} {tree : FileTree} (hfind : d.find p = .ok tree) :
    d.readText p = textOf (some tree.node) := by
  rw [readText, hfind]
  cases tree with
  | folder entries => rfl
  | file content =>
      change (match String.fromUTF8? content with
        | some s => pure s
        | none => throw FileError.notText) = _
      rw [FileTree.node, textOf]
      cases String.fromUTF8? content <;> rfl

theorem readText_child (hname : Path.IsName name) (hopens : d.Opens folder name) :
    d.readText (folder.child name) = textOf (d.look (d.placeOf folder ++ [name])) := by
  have hfind := find_child hname hopens
  cases hat : d.root.at? (d.placeOf folder ++ [name]) with
  | none =>
      have hlook : d.look (d.placeOf folder ++ [name]) = none := FileTree.at?_eq_none_iff.mp hat
      rw [readText, hfind, hat, hlook]
      rfl
  | some tree =>
      rw [hat] at hfind
      rw [readText_of_find hfind, look_of_at? hat]

theorem readText_child_eq_ok (hname : Path.IsName name) {s : String}
    (h : d.readText (folder.child name) = .ok s) : d.Opens folder name := by
  rw [readText] at h
  obtain ⟨tree, hfind, -⟩ := bind_eq_ok h
  exact (find_child_eq_ok hname hfind).1

theorem child_text_ne_empty (folder : Path) (hname : Path.IsName name) :
    (folder.child name).text ≠ "" := by
  rw [Path.child_text folder hname.no_slash]
  exact fun hempty => hname.ne_empty (String.append_eq_empty_iff.mp hempty).2

/-- A shorter name can be used where a longer one can. -/
theorem isUsable_child_of_le {other : String} (hname : Path.IsName name)
    (hother : '/' ∉ other.toList) (hnul : '\x00' ∈ name.toList → '\x00' ∈ other.toList)
    (hsize : name.utf8ByteSize ≤ other.utf8ByteSize) (h : (folder.child other).IsUsable) :
    (folder.child name).IsUsable := by
  refine ⟨?_, child_text_ne_empty folder hname, ?_⟩
  · have hfree := h.no_nul
    rw [Path.nul_mem_child folder hother] at hfree
    rw [Path.nul_mem_child folder hname.no_slash]
    exact fun hmem => hfree (hmem.imp_right hnul)
  · have hbound := h.size_le
    rw [Path.size_child folder hother] at hbound
    rw [Path.size_child folder hname.no_slash]
    exact Nat.le_trans (Nat.add_le_add_left hsize _) hbound

/-- A folder can be used where a name in it can. -/
theorem isUsable_of_child {other : String} (hname : Path.IsName name) (hother : '/' ∉ other.toList)
    (h : ((folder.child name).child other).IsUsable) : (folder.child name).IsUsable := by
  refine ⟨?_, child_text_ne_empty folder hname, ?_⟩
  · have hfree := h.no_nul
    rw [Path.nul_mem_child _ hother] at hfree
    exact fun hmem => hfree (.inl hmem)
  · have hbound := h.size_le
    rw [Path.size_child _ hother, Path.lead_child folder hname.toIsPiece,
      String.utf8ByteSize_append] at hbound
    omega

theorem readText_child_of_not_opens (hname : Path.IsName name)
    (hpasses : Passes d.look (d.start folder) folder.steps)
    (hsize : name.utf8ByteSize ≤ maxNameLength) (h : ¬ d.Opens folder name) :
    d.readText (folder.child name) = .error .nulInPath ∨
      d.readText (folder.child name) = .error .nameTooLong := by
  have husable : ¬ (folder.child name).IsUsable := fun husable => h ⟨husable, hpasses, hsize⟩
  have hne := child_text_ne_empty folder hname
  rcases follow_of_not_isUsable d hne husable with hfollow | hfollow
  · exact .inl (by rw [readText, find, hfollow]; rfl)
  · exact .inr (by rw [readText, find, hfollow]; rfl)

/-- A file is missing where the folder is missing that it would be in. -/
theorem readText_child_of_missing {inner : String} (hname : Path.IsName name)
    (hinner : Path.IsName inner) (hpasses : Passes d.look (d.start folder) folder.steps)
    (husable : ((folder.child name).child inner).IsUsable)
    (hsize : name.utf8ByteSize ≤ maxNameLength)
    (hlook : d.look (d.placeOf folder ++ [name]) = none) :
    d.readText ((folder.child name).child inner) = .error .notFound := by
  have henter : d.enter (d.start ((folder.child name).child inner)) (folder.child name).steps =
      .error .notFound := by
    rw [start_child d _ hinner, start_child d folder hname, Path.steps_child folder hname.toIsPiece]
    exact enter_of_missing hpasses hname.ne_back hsize hlook
  rw [readText, find, follow_of_isUsable d husable, Path.route_child _ hinner, henter]
  rfl

/-! ## Writing -/

/-- Whether a folder stands at a place. -/
def hasFolder (view : View) (q : List String) : Bool :=
  match view q with
  | some .folder => true
  | _ => false

theorem hasFolder_iff {view : View} {q : List String} :
    hasFolder view q = true ↔ view q = some .folder := by
  rw [hasFolder]
  split
  next h => simp [h]
  next h => simpa using h

theorem placeOfFile_of_follow {p : Path} {place : List String}
    (h : d.follow p = .ok (place, .name name false)) :
    d.placeOfFile p =
      if name.utf8ByteSize > maxNameLength then .error .nameTooLong
      else if hasFolder d.look (place ++ [name]) then .error .isFolder
      else .ok (place ++ [name]) := by
  rw [placeOfFile, h]
  change (if name.utf8ByteSize > maxNameLength then _ else _) = ite _ _ _
  split
  · rfl
  · rw [hasFolder]
    cases hat : d.root.at? (place ++ [name]) with
    | none =>
        rw [look, FileTree.at?_eq_none_iff.mp hat]
        rfl
    | some tree =>
        rw [look_of_at? hat]
        cases tree <;> rfl

theorem placeOfFile_child (hname : Path.IsName name) (h : d.Admits folder name) :
    d.placeOfFile (folder.child name) = .ok (d.placeOf folder ++ [name]) := by
  have hfree : ¬ hasFolder d.look (d.placeOf folder ++ [name]) = true :=
    fun hfolder => h.ne_folder (hasFolder_iff.mp hfolder)
  rw [placeOfFile_of_follow (follow_child hname h.toOpens), if_neg (Nat.not_lt_of_le h.size_le),
    if_neg hfree]

theorem placeOfFile_child_eq_ok (hname : Path.IsName name) {q : List String}
    (h : d.placeOfFile (folder.child name) = .ok q) :
    d.Admits folder name ∧ q = d.placeOf folder ++ [name] := by
  have hresult := h
  rw [placeOfFile] at h
  obtain ⟨x, hfollow, -⟩ := bind_eq_ok h
  obtain ⟨husable, hpasses, rfl⟩ := follow_child_eq_ok hname hfollow
  rw [placeOfFile_of_follow hfollow] at hresult
  split at hresult
  · cases hresult
  next hsize =>
    split at hresult
    · cases hresult
    next hfree =>
      exact ⟨⟨⟨husable, hpasses, Nat.le_of_not_lt hsize⟩,
        fun hfolder => hfree (hasFolder_iff.mpr hfolder)⟩, (Except.ok.inj hresult).symm⟩

/-- A file of a name can be written where its path leads to a place for files. -/
theorem admits_of_placeOfFile (hname : Path.IsName name)
    (h : (d.placeOfFile (folder.child name)).isOk = true) : d.Admits folder name := by
  cases hplace : d.placeOfFile (folder.child name) with
  | error e =>
      rw [hplace] at h
      cases h
  | ok q => exact (placeOfFile_child_eq_ok hname hplace).1

/-- A disk that is another one but for what stands at one place. -/
structure Sets (d : Disk) (place : List String) (node : Option Node) (changed : Disk) : Prop where
  current_eq : changed.current = d.current
  look_eq : changed.look = d.look.set place node

theorem Sets.keeps {changed : Disk} {place : List String} {node : Option Node}
    (h : d.Sets place node changed) (hplace : d.look place ≠ some .folder) : d.Keeps changed :=
  .of_set h.current_eq h.look_eq hplace

theorem sets_put (h : d.Admits folder name) (content : ByteArray) :
    d.Sets (d.placeOf folder ++ [name]) (some (.file content))
      { d with root := d.root.put (d.placeOf folder ++ [name]) (.file content) } :=
  ⟨rfl, FileTree.look_putFile h.look_folder h.ne_folder content⟩

theorem write_child (hname : Path.IsName name) (h : d.Admits folder name) (content : ByteArray) :
    ∃ changed, d.write (folder.child name) content = .ok changed ∧
      d.Sets (d.placeOf folder ++ [name]) (some (.file content)) changed := by
  rw [write, placeOfFile_child hname h]
  exact ⟨_, rfl, sets_put h content⟩

theorem write_child_eq_ok (hname : Path.IsName name) {content : ByteArray} {changed : Disk}
    (h : d.write (folder.child name) content = .ok changed) :
    d.Admits folder name ∧
      d.Sets (d.placeOf folder ++ [name]) (some (.file content)) changed := by
  rw [write] at h
  obtain ⟨q, hq, hwritten⟩ := bind_eq_ok h
  obtain ⟨hadmits, rfl⟩ := placeOfFile_child_eq_ok hname hq
  cases hwritten
  exact ⟨hadmits, sets_put hadmits content⟩

/-- The bytes at a place, none of them where no file is. -/
def bytesIn : Option Node → ByteArray
  | some (.file content) => content
  | _ => ByteArray.empty

/-- Appending nothing writes a file with the bytes that it has. -/
theorem append_empty_child (hname : Path.IsName name) (h : d.Admits folder name) :
    ∃ changed, d.append (folder.child name) ByteArray.empty = .ok changed ∧
      d.Sets (d.placeOf folder ++ [name])
        (some (.file (bytesIn (d.look (d.placeOf folder ++ [name]))))) changed := by
  have hbytes : (d.root.bytesAt? (d.placeOf folder ++ [name])).getD ByteArray.empty =
      bytesIn (d.look (d.placeOf folder ++ [name])) := by
    rw [FileTree.bytesAt?]
    cases hat : d.root.at? (d.placeOf folder ++ [name]) with
    | none =>
        rw [look, FileTree.at?_eq_none_iff.mp hat]
        rfl
    | some tree =>
        rw [look_of_at? hat]
        cases tree <;> rfl
  rw [append, placeOfFile_child hname h, ← hbytes]
  refine ⟨_, rfl, ?_⟩
  rw [ByteArray.append_empty]
  exact sets_put h _

/-- Appending nothing makes a file that is missing and changes nothing else. -/
theorem append_empty_child_eq_ok (hname : Path.IsName name) {changed : Disk}
    (h : d.append (folder.child name) ByteArray.empty = .ok changed) :
    d.Admits folder name ∧ changed.current = d.current ∧
      (changed.look = d.look ∨ d.look (d.placeOf folder ++ [name]) = none ∧
        changed.look = d.look.set (d.placeOf folder ++ [name]) (some (.file ByteArray.empty))) := by
  have hadmits : d.Admits folder name := by
    rw [append] at h
    obtain ⟨q, hq, -⟩ := bind_eq_ok h
    exact (placeOfFile_child_eq_ok hname hq).1
  obtain ⟨written, hwritten, hsets⟩ := append_empty_child hname hadmits
  obtain rfl : written = changed := Except.ok.inj (hwritten.symm.trans h)
  refine ⟨hadmits, hsets.current_eq, ?_⟩
  rw [hsets.look_eq]
  cases hplace : d.look (d.placeOf folder ++ [name]) with
  | none => exact .inr ⟨rfl, rfl⟩
  | some node =>
      cases node with
      | file content => exact .inl (View.set_eq_self hplace)
      | folder => exact absurd hplace hadmits.ne_folder

/-! ## Removing -/

theorem removeFile_of_follow {p : Path} {place : List String}
    (h : d.follow p = .ok (place, .name name false)) :
    d.removeFile p =
      if name.utf8ByteSize > maxNameLength then .error .nameTooLong
      else
        match d.look (place ++ [name]) with
        | none => .error .notFound
        | some .folder => .error .isFolder
        | some (.file _) => .ok (d.clear (place ++ [name])) := by
  rw [removeFile, h]
  change (if name.utf8ByteSize > maxNameLength then _ else _) = ite _ _ _
  split
  · rfl
  · cases hat : d.root.at? (place ++ [name]) with
    | none =>
        rw [look, FileTree.at?_eq_none_iff.mp hat]
        rfl
    | some tree =>
        rw [look_of_at? hat]
        cases tree <;> rfl

theorem sets_clear {place : List String} (hplace : d.look (place ++ [name]) ≠ some .folder) :
    d.Sets (place ++ [name]) none (d.clear (place ++ [name])) :=
  ⟨rfl, FileTree.look_remove_eq_set hplace⟩

/-- A file that was just written can be taken away. -/
theorem Sets.clears {place : List String} {content : ByteArray} {changed : Disk}
    (h : d.Sets (place ++ [name]) (some (.file content)) changed) :
    changed.Sets (place ++ [name]) none (changed.clear (place ++ [name])) := by
  apply sets_clear
  rw [h.look_eq, View.set_self]
  simp

theorem removeFile_child (hname : Path.IsName name) (hopens : d.Opens folder name)
    {content : ByteArray}
    (hplace : d.look (d.placeOf folder ++ [name]) = some (.file content)) :
    ∃ changed, d.removeFile (folder.child name) = .ok changed ∧
      d.Sets (d.placeOf folder ++ [name]) none changed := by
  have hfile : d.look (d.placeOf folder ++ [name]) ≠ some .folder := by simp [hplace]
  rw [removeFile_of_follow (follow_child hname hopens), if_neg (Nat.not_lt_of_le hopens.size_le),
    hplace]
  exact ⟨_, rfl, sets_clear hfile⟩

/-! ## Moving -/

theorem moveFile_of_file {target : Path} (hname : Path.IsName name)
    (hopens : d.Opens folder name) {content : ByteArray}
    (hplace : d.look (d.placeOf folder ++ [name]) = some (.file content)) :
    d.moveFile (folder.child name) target = (d.placeOfFile target).map fun targetPlace =>
      { d.clear (d.placeOf folder ++ [name]) with
        root := (d.clear (d.placeOf folder ++ [name])).root.put targetPlace (.file content) } := by
  have hfile : d.look (d.placeOf folder ++ [name]) ≠ some .folder := by simp [hplace]
  rw [moveFile, placeOfFile_child hname ⟨hopens, hfile⟩]
  simp only [bind, Except.bind, at?_eq_file hplace]
  cases d.placeOfFile target <;> rfl

/-- A file moves to another name of its folder, unless a folder has that name. -/
theorem moveFile_child {target : String} (hname : Path.IsName name) (htarget : Path.IsName target)
    (hopens : d.Opens folder name) (hadmits : d.Admits folder target) (hne : target ≠ name)
    {content : ByteArray} (hplace : d.look (d.placeOf folder ++ [name]) = some (.file content)) :
    ∃ changed, d.moveFile (folder.child name) (folder.child target) = .ok changed ∧
      (d.clear (d.placeOf folder ++ [name])).Sets (d.placeOf folder ++ [target])
        (some (.file content)) changed := by
  have hfile : d.look (d.placeOf folder ++ [name]) ≠ some .folder := by simp [hplace]
  have hcleared := sets_clear hfile
  have hfree : (d.clear (d.placeOf folder ++ [name])).Admits folder target := by
    refine hadmits.keeps (hcleared.keeps hfile) (.inl ?_)
    rw [hcleared.look_eq, View.set_of_ne _ (by simpa using hne)]
  rw [moveFile_of_file hname hopens hplace, placeOfFile_child htarget hadmits]
  exact ⟨_, rfl, sets_put hfree content⟩

/-- No file moves to where a folder is. -/
theorem moveFile_child_eq_ok (hname : Path.IsName name) {source : Path} {changed : Disk}
    (h : d.moveFile source (folder.child name) = .ok changed) :
    d.look (d.placeOf folder ++ [name]) ≠ some .folder := by
  rw [moveFile] at h
  obtain ⟨q, hsource, hmoved⟩ := bind_eq_ok h
  split at hmoved
  · obtain ⟨target, htarget, -⟩ := bind_eq_ok hmoved
    exact (placeOfFile_child_eq_ok hname htarget).1.ne_folder
  · cases hmoved

end Child

end Disk

end Courier
