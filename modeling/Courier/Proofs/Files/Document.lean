import Courier.Proofs.Files.Disk

/-!
# Replacing documents

A document is written as a draft beside it, which then takes its place. Either the document is
replaced and the draft is gone, or the document stays as it was.
-/

namespace Courier.Disk

section Document

variable {d : Disk} {folder : Path} {stem : String}

/-- A name with a suffix that is long enough is no sign for a folder. -/
theorem isName_append (hstem : Path.IsPiece stem) {suffix : String}
    (hlong : 2 < suffix.toList.length) (hslash : '/' ∉ suffix.toList) :
    Path.IsName (stem ++ suffix) := by
  have hne {sign : String} (hshort : sign.toList.length ≤ 2) : stem ++ suffix ≠ sign := by
    intro h
    have hlength := congrArg (fun s : String => s.toList.length) h
    simp only [String.toList_append, List.length_append] at hlength
    omega
  refine ⟨⟨?_, ?_, ?_⟩, ?_⟩
  · exact hne (by decide)
  · exact hne (by decide)
  · simp [hstem.no_slash, hslash]
  · exact hne (by decide)

theorem isName_document (hstem : Path.IsPiece stem) : Path.IsName (stem ++ ".toml") :=
  isName_append hstem (by decide) (by decide)

theorem isName_draft (hstem : Path.IsPiece stem) : Path.IsName (stem ++ ".toml.tmp") :=
  isName_append hstem (by decide) (by decide)

theorem draft_ne_document (stem : String) : stem ++ ".toml.tmp" ≠ stem ++ ".toml" := by
  intro h
  have hlength := congrArg (fun s : String => s.toList.length) h
  simp at hlength

/-- A document can be reached where its draft can, since its name is shorter. -/
theorem Opens.of_draft (hstem : Path.IsPiece stem) (h : d.Opens folder (stem ++ ".toml.tmp")) :
    d.Opens folder (stem ++ ".toml") := by
  have hsize : (stem ++ ".toml").utf8ByteSize ≤ (stem ++ ".toml.tmp").utf8ByteSize := by
    rw [String.utf8ByteSize_append, String.utf8ByteSize_append]
    exact Nat.add_le_add_left (by decide) _
  have hnul : '\x00' ∈ (stem ++ ".toml").toList → '\x00' ∈ (stem ++ ".toml.tmp").toList := by
    simp
  exact ⟨isUsable_child_of_le (isName_document hstem) (isName_draft hstem).no_slash hnul hsize
    h.usable, h.passes, Nat.le_trans hsize h.size_le⟩

/-- What replacing a document did if it succeeded. Its draft is gone, also one left by others. -/
structure Replaces (d : Disk) (folder : Path) (stem content : String) (changed : Disk) : Prop where
  opens : d.Opens folder (stem ++ ".toml.tmp")
  draft_ne : d.look (d.placeOf folder ++ [stem ++ ".toml.tmp"]) ≠ some .folder
  document_ne : d.look (d.placeOf folder ++ [stem ++ ".toml"]) ≠ some .folder
  current_eq : changed.current = d.current
  look_eq : changed.look = (d.look.set (d.placeOf folder ++ [stem ++ ".toml.tmp"]) none).set
    (d.placeOf folder ++ [stem ++ ".toml"]) (some (.file content.toUTF8))

theorem Replaces.keeps {content : String} {changed : Disk}
    (h : d.Replaces folder stem content changed) : d.Keeps changed := by
  refine ⟨h.current_eq, fun q hq => ?_⟩
  have hdraft : q ≠ d.placeOf folder ++ [stem ++ ".toml.tmp"] := by
    rintro rfl
    exact h.draft_ne hq
  have hdocument : q ≠ d.placeOf folder ++ [stem ++ ".toml"] := by
    rintro rfl
    exact h.document_ne hq
  rw [h.look_eq, View.set_of_ne _ hdocument, View.set_of_ne _ hdraft]
  exact hq

/-- The move that ends a replacement, once the draft is written. -/
theorem moveFile_draft (hstem : Path.IsPiece stem) {content : ByteArray} {drafted : Disk}
    (hdraft : d.Admits folder (stem ++ ".toml.tmp"))
    (hdocument : d.look (d.placeOf folder ++ [stem ++ ".toml"]) ≠ some .folder)
    (hsets : d.Sets (d.placeOf folder ++ [stem ++ ".toml.tmp"]) (some (.file content)) drafted) :
    ∃ changed, drafted.moveFile (folder.child (stem ++ ".toml.tmp"))
        (folder.child (stem ++ ".toml")) = .ok changed ∧
      changed.current = d.current ∧
      changed.look = (d.look.set (d.placeOf folder ++ [stem ++ ".toml.tmp"]) none).set
        (d.placeOf folder ++ [stem ++ ".toml"]) (some (.file content)) := by
  have hkeeps := hsets.keeps hdraft.ne_folder
  have hplace := hkeeps.placeOf_eq folder
  have hopens := hkeeps.opens hdraft.toOpens
  have hfile : drafted.look (drafted.placeOf folder ++ [stem ++ ".toml.tmp"]) =
      some (.file content) := by
    rw [hplace, hsets.look_eq, View.set_self]
  have hfree : drafted.look (drafted.placeOf folder ++ [stem ++ ".toml"]) ≠ some .folder := by
    rw [hplace, hsets.look_eq, View.set_of_ne _ (by simp)]
    exact hdocument
  obtain ⟨changed, hmove, hmoved⟩ := moveFile_child (isName_draft hstem) (isName_document hstem)
    hopens ⟨hopens.of_draft hstem, hfree⟩ (draft_ne_document stem).symm hfile
  refine ⟨changed, hmove, hmoved.current_eq.trans hsets.current_eq, ?_⟩
  rw [hmoved.look_eq, hplace, hsets.clears.look_eq, hsets.look_eq, View.set_set]

/-- A document is replaced where its draft can be written and no folder is in its place. -/
theorem replace_child (hstem : Path.IsPiece stem) (content : String)
    (hdraft : d.Admits folder (stem ++ ".toml.tmp"))
    (hdocument : d.look (d.placeOf folder ++ [stem ++ ".toml"]) ≠ some .folder) :
    ∃ changed, d.replace (folder.child (stem ++ ".toml")) content = (changed, .ok ()) ∧
      d.Replaces folder stem content changed := by
  obtain ⟨drafted, hwrite, hsets⟩ :=
    write_child (isName_draft hstem) hdraft content.toUTF8
  obtain ⟨changed, hmove, hcurrent, hlook⟩ := moveFile_draft hstem hdraft hdocument hsets
  refine ⟨changed, ?_, hdraft.toOpens, hdraft.ne_folder, hdocument, hcurrent, hlook⟩
  unfold replace
  rw [Path.draftPath_child folder hstem.ne_empty hstem.no_slash, hwrite]
  dsimp only
  rw [hmove]

/-- A replacement that fails leaves the disk as it was, unless a folder is in the document's place:
then the draft stays. -/
theorem replace_child_cases (hstem : Path.IsPiece stem) (content : String) {changed : Disk}
    {result : Except (Path × FileError) Unit}
    (h : d.replace (folder.child (stem ++ ".toml")) content = (changed, result)) :
    result = .ok () ∧ d.Replaces folder stem content changed ∨
    (∃ error, result = .error error) ∧
      (changed = d ∨ d.look (d.placeOf folder ++ [stem ++ ".toml"]) = some .folder ∧
        d.Opens folder (stem ++ ".toml.tmp") ∧
        d.Sets (d.placeOf folder ++ [stem ++ ".toml.tmp"]) (some (.file content.toUTF8))
          changed) := by
  have hresult := h
  unfold replace at h
  rw [Path.draftPath_child folder hstem.ne_empty hstem.no_slash] at h
  cases hwrite : d.write (folder.child (stem ++ ".toml.tmp")) content.toUTF8 with
  | error e =>
      rw [hwrite] at h
      cases h
      exact .inr ⟨⟨_, rfl⟩, .inl rfl⟩
  | ok drafted =>
      obtain ⟨hdraft, hsets⟩ := write_child_eq_ok (isName_draft hstem) hwrite
      -- With the draft written, only a folder in its place keeps the document from being replaced.
      by_cases hdocument : d.look (d.placeOf folder ++ [stem ++ ".toml"]) = some .folder
      · rw [hwrite] at h
        have hkeeps := hsets.keeps hdraft.ne_folder
        cases hmove : drafted.moveFile (folder.child (stem ++ ".toml.tmp"))
          (folder.child (stem ++ ".toml")) with
        | ok moved =>
            have hne := moveFile_child_eq_ok (isName_document hstem) hmove
            rw [hkeeps.placeOf_eq] at hne
            exact absurd (hkeeps.folders _ hdocument) hne
        | error e =>
            simp only [hmove] at h
            cases h
            exact .inr ⟨⟨_, rfl⟩, .inr ⟨hdocument, hdraft.toOpens, hsets⟩⟩
      · obtain ⟨replaced, hok, hreplaces⟩ := replace_child hstem content hdraft hdocument
        rw [hok] at hresult
        cases hresult
        exact .inl ⟨rfl, hreplaces⟩

end Document

end Courier.Disk
