import Courier.Command.Compose
import Courier.Proofs.Files.LastName

/-!
# Shared files

A file that is shared has the last name of its path, is typed by what follows the last point of that
name, and is found at an address that starts at the root. Whatever counts for nothing behind the
name changes the address only. A path that ends in no name cannot be shared.
-/

namespace Courier

variable {folder p : Path} {name : String}

namespace Path

/-! ## Names and types -/

theorem IsName.fileName?_eq (hname : IsName name) (h : p.EndsIn name) :
    p.fileName? = some name := by
  obtain ⟨before, hsplit⟩ := hname.splitName?_eq h
  rw [fileName?, hsplit]
  exact congrArg some String.ofList_toList

theorem IsName.extension?_eq (hname : IsName name) (h : p.EndsIn name) :
    p.extension? = (splitExtension name.toList).2.map String.ofList := by
  obtain ⟨before, hsplit⟩ := hname.splitName?_eq h
  rw [extension?, hsplit, Option.bind_some]

/-- A name with a point that is not at its start gives the type of what follows the last one, in
small letters. -/
theorem IsName.mimeType_of_point {stem extension : String}
    (hname : IsName (stem ++ "." ++ extension)) (h : p.EndsIn (stem ++ "." ++ extension))
    (hstem : stem ≠ "") (hpoint : '.' ∉ extension.toList) :
    p.mimeType = mimeTypeOfExtension (String.ofList (extension.toList.map Char.toLower)) := by
  have hlist : (stem ++ "." ++ extension).toList = stem.toList ++ '.' :: extension.toList := by
    simp
  have hne : stem.toList ≠ [] := fun h => hstem (String.toList_eq_nil_iff.mp h)
  rw [mimeType, hname.extension?_eq h, hlist, splitExtension_point _ hpoint, if_neg hne]
  simp

/-- Any other name gives the type of all other files. -/
theorem IsName.mimeType_of_plain (hname : IsName name) (h : p.EndsIn name)
    (hplain : '.' ∉ name.toList ∨ ∃ rest, name = "." ++ rest ∧ '.' ∉ rest.toList) :
    p.mimeType = "application/octet-stream" := by
  have hnone : (splitExtension name.toList).2 = none := by
    rcases hplain with hnone | ⟨rest, rfl, hrest⟩
    · rw [splitExtension_of_no_point hnone]
    · have hsplit := splitExtension_point [] hrest
      rw [if_pos rfl] at hsplit
      rw [String.toList_append]
      exact congrArg Prod.snd hsplit
  rw [mimeType, hname.extension?_eq h, hnone]
  rfl

/-! ## Addresses -/

theorem uri_of_absolute (h : p.isAbsolute = true) (folder : Path) :
    p.uri folder = "file://" ++ p.text := by
  rw [uri, join, if_pos h]

theorem uri_of_relative (h : p.isAbsolute = false) (folder : Path) :
    p.uri folder = "file://" ++ folder.lead ++ p.text := by
  rw [uri, join, h, if_neg Bool.false_ne_true, lead]
  split <;> exact String.append_assoc.symm

theorem slash_prefix_of_isAbsolute (h : p.isAbsolute = true) : ['/'] <+: p.text.toList := by
  rw [isAbsolute, beq_iff_eq, List.head?_eq_some_iff] at h
  obtain ⟨rest, hrest⟩ := h
  exact ⟨rest, hrest.symm⟩

theorem slash_prefix_lead (h : p.isAbsolute = true) : ['/'] <+: p.lead.toList := by
  rw [lead]
  split
  · exact slash_prefix_of_isAbsolute h
  · rw [String.toList_append]
    exact (slash_prefix_of_isAbsolute h).trans (List.prefix_append _ _)

/-- Seen from a folder that starts at the root, every address does. -/
theorem uri_begins (hfolder : folder.isAbsolute = true) (p : Path) :
    "file:///".toList <+: (p.uri folder).toList := by
  have hbegins {rest : List Char} (hrest : ['/'] <+: rest) :
      "file:///".toList <+: "file://".toList ++ rest :=
    (List.prefix_append_right_inj "file://".toList).mpr hrest
  cases h : p.isAbsolute with
  | true =>
      rw [uri_of_absolute h folder, String.toList_append]
      exact hbegins (slash_prefix_of_isAbsolute h)
  | false =>
      rw [uri_of_relative h folder, String.toList_append, String.toList_append, List.append_assoc]
      exact hbegins ((slash_prefix_lead hfolder).trans (List.prefix_append _ _))

end Path

/-! ## What is shared -/

/-- What a message says of a file that is shared from a folder. -/
structure Media.Describes (folder p : Path) (name : String) (caption : Option String)
    (media : Media) : Prop where
  fileName_eq : media.fileName = name
  caption_eq : media.caption = caption
  /-- What follows the last point of the name gives the type, in whichever letters it is written. -/
  mimeType_of_point : ∀ stem extension, name = stem ++ "." ++ extension → stem ≠ "" →
    '.' ∉ extension.toList →
    media.mimeType = mimeTypeOfExtension (String.ofList (extension.toList.map Char.toLower))
  mimeType_of_plain : ('.' ∉ name.toList ∨ ∃ rest, name = "." ++ rest ∧ '.' ∉ rest.toList) →
    media.mimeType = "application/octet-stream"
  fileUri_of_absolute : p.isAbsolute = true → media.fileUri = "file://" ++ p.text
  fileUri_of_relative : p.isAbsolute = false → media.fileUri = "file://" ++ folder.lead ++ p.text
  fileUri_begins : "file:///".toList <+: media.fileUri.toList

theorem Media.describes_of_endsIn (hfolder : folder.isAbsolute = true) (hname : Path.IsName name)
    (h : p.EndsIn name) (caption : Option String) :
    Media.Describes folder p name caption ⟨name, p.uri folder, p.mimeType, caption⟩ := by
  constructor <;> dsimp only
  · rintro stem extension rfl
    exact hname.mimeType_of_point h
  · exact hname.mimeType_of_plain h
  · exact fun habsolute => Path.uri_of_absolute habsolute folder
  · exact fun hrelative => Path.uri_of_relative hrelative folder
  · exact Path.uri_begins hfolder p

/-- A path that ends in a name can be shared: under this name, with the caption as it is, the type
by the letters after the last point of the name, and the address from the root. A path that ends in
no name cannot be shared, and these are all paths but the empty one. -/
theorem ofPath_of_lastName (hfolder : folder.isAbsolute = true) (caption : Option String) :
    (∀ p name, Path.IsName name → p.EndsIn name →
      ∃ media, Media.ofPath folder p caption = .ok media ∧
        media.Describes folder p name caption) ∧
    (∀ p, p.IsNameless → Media.ofPath folder p caption = .error (.noFileName p)) ∧
    ∀ p : Path, p.text ≠ "" → (∃ name, Path.IsName name ∧ p.EndsIn name) ∨ p.IsNameless := by
  refine ⟨?_, ?_, fun p => Path.endsIn_or_isNameless⟩
  · intro p name hname h
    refine ⟨_, ?_, Media.describes_of_endsIn hfolder hname h caption⟩
    rw [Media.ofPath, hname.fileName?_eq h]
  · intro p h
    have hnone : p.fileName? = none := by
      rw [Path.fileName?, h.splitName?_eq]
      rfl
    rw [Media.ofPath, hnone]

/-- A hidden archive in a folder above, with a slash and a dot behind it. -/
theorem ofPath_of_lastName_archive :
    (Path.mk "/home/amy").isAbsolute = true ∧ Path.IsName ".cat.tar.PDF" ∧
    (Path.mk "../.cat.tar.PDF//.").EndsIn ".cat.tar.PDF" ∧ (Path.mk "../..").IsNameless ∧
    Media.ofPath ⟨"/home/amy"⟩ ⟨"../.cat.tar.PDF//."⟩ (some "hi") =
      .ok ⟨".cat.tar.PDF", "file:///home/amy/../.cat.tar.PDF//.", "application/pdf", some "hi"⟩ ∧
    Media.ofPath ⟨"/home/amy"⟩ ⟨"../.."⟩ (some "hi") = .error (.noFileName ⟨"../.."⟩) := by
  have hfolder : (Path.mk "/home/amy").isAbsolute = true := by decide
  have hname : Path.IsName ".cat.tar.PDF" := by
    refine ⟨⟨?_, ?_, ?_⟩, ?_⟩ <;> decide
  have hends : (Path.mk "../.cat.tar.PDF//.").EndsIn ".cat.tar.PDF" :=
    @Path.EndsIn.intro ".cat.tar.PDF" "../" "//." (.inr rfl) (.slash (.dot .nil))
  have hback : (Path.mk "../..").IsNameless :=
    .back (@Path.EndsIn.intro ".." "../" "" (.inr rfl) .nil)
  obtain ⟨hshared, hnone, -⟩ := ofPath_of_lastName hfolder (some "hi")
  refine ⟨hfolder, hname, hends, hback, ?_, hnone _ hback⟩
  obtain ⟨⟨fileName, fileUri, mimeType, caption⟩, hmedia, hdescribes⟩ := hshared _ _ hname hends
  obtain rfl : fileName = ".cat.tar.PDF" := hdescribes.fileName_eq
  obtain rfl : caption = some "hi" := hdescribes.caption_eq
  have htype := hdescribes.mimeType_of_point ".cat.tar" "PDF" rfl (by decide) (by decide)
  have huri := hdescribes.fileUri_of_relative (by decide)
  obtain rfl : mimeType = "application/pdf" := htype.trans (by decide)
  obtain rfl : fileUri = "file:///home/amy/../.cat.tar.PDF//." := huri.trans (by decide)
  exact hmedia

end Courier
