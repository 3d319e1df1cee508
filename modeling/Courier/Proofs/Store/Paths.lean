import Courier.Proofs.Store.Place

/-!
# The paths of the store

An identifier is made of one to 128 letters, digits, underscores and hyphens, which are as many
bytes. So each file of the store has a path of its own, its draft included: the data folder followed
by one to three names, none of which leads elsewhere.
-/

namespace Courier

/-! ## Identifiers -/

namespace Identifier

variable {id : String} {c : Char}

theorem isIdChar_iff : isIdChar c = true ↔
    ('A' ≤ c ∧ c ≤ 'Z') ∨ ('a' ≤ c ∧ c ≤ 'z') ∨ ('0' ≤ c ∧ c ≤ '9') ∨ c = '_' ∨ c = '-' := by
  have hupper : c.isUpper = true ↔ 'A' ≤ c ∧ c ≤ 'Z' := decide_eq_true_iff
  have hlower : c.isLower = true ↔ 'a' ≤ c ∧ c ≤ 'z' := by
    change (decide ('a' ≤ c) && decide (c ≤ 'z')) = true ↔ _
    rw [Bool.and_eq_true, decide_eq_true_iff, decide_eq_true_iff]
  have hdigit : c.isDigit = true ↔ '0' ≤ c ∧ c ≤ '9' := Char.isDigit_iff_toNat
  have hletter : c.isAlphanum = true ↔
      (c.isUpper = true ∨ c.isLower = true) ∨ c.isDigit = true := by
    rw [← Bool.or_eq_true, ← Bool.or_eq_true]
    rfl
  rw [isIdChar, Bool.or_eq_true, Bool.or_eq_true, beq_iff_eq, beq_iff_eq, hletter, hupper, hlower,
    hdigit]
  simp only [or_assoc]

theorem utf8Size_of_isIdChar (h : isIdChar c = true) : c.utf8Size = 1 := by
  rw [Char.utf8Size_eq_one_iff]
  rcases isIdChar_iff.mp h with h | h | h | rfl | rfl
  · exact Nat.le_trans h.2 (by decide)
  · exact Nat.le_trans h.2 (by decide)
  · exact Nat.le_trans h.2 (by decide)
  · decide
  · decide

/-- The characters of an identifier are one byte each. -/
theorem utf8ByteSize_eq_length {cs : List Char} (h : ∀ c ∈ cs, isIdChar c = true) :
    (String.ofList cs).utf8ByteSize = cs.length := by
  induction cs with
  | nil => rfl
  | cons c cs ih =>
      obtain ⟨hc, hcs⟩ := List.forall_mem_cons.mp h
      rw [String.ofList_cons, String.utf8ByteSize_append, ih hcs, String.utf8ByteSize_singleton,
        utf8Size_of_isIdChar hc, List.length_cons, Nat.add_comm]

theorem isValid_iff : isValid id = true ↔ 1 ≤ id.length ∧ id.length ≤ 128 ∧ ∀ c ∈ id.toList,
    ('A' ≤ c ∧ c ≤ 'Z') ∨ ('a' ≤ c ∧ c ≤ 'z') ∨ ('0' ≤ c ∧ c ≤ '9') ∨ c = '_' ∨ c = '-' := by
  simp only [← isIdChar_iff]
  rw [isValid, Bool.and_eq_true, Bool.and_eq_true, decide_eq_true_eq, List.all_eq_true, and_assoc]
  have hempty : (!id.isEmpty) = true ↔ 1 ≤ id.length := by
    rw [Bool.not_eq_true', String.isEmpty_eq_false_iff, Nat.one_le_iff_ne_zero, ne_eq, ne_eq,
      String.length_eq_zero_iff]
  rw [hempty]
  refine and_congr_right fun _ => and_congr_left fun hall => ?_
  have hsize := utf8ByteSize_eq_length hall
  rw [String.ofList_toList, String.length_toList] at hsize
  rw [hsize, maxLength]

/-- A text that is an identifier. -/
abbrev Valid : Type :=
  { id : String // isValid id = true }

end Identifier

/-! ## Files -/

/-- The documents of the store. -/
inductive Document
  | registry
  | received (chatId messageId : Identifier.Valid)
  | spooled (kind : ChatKind) (messageId : Identifier.Valid)

namespace Document

/-- The path that a document is read from and written to. -/
def path (layout : Layout) : Document → Path
  | registry => layout.registry
  | received chatId messageId => Layout.messageFile (layout.chatMessages chatId) messageId
  | spooled kind messageId => Layout.messageFile (layout.outbox kind) messageId

/-- The names of the folders that lead to a document from the data folder. -/
def folders : Document → List String
  | registry => []
  | received chatId _ => ["messages", chatId]
  | spooled kind _ => ["outbox", kind.word]

/-- The name of a document without its extension. -/
def stem : Document → String
  | registry => "connections"
  | received _ messageId => messageId
  | spooled _ messageId => messageId

theorem isPiece_stem (document : Document) : Path.IsPiece document.stem := by
  cases document with
  | registry => exact Layout.isPiece_connections
  | received _ messageId => exact Identifier.isPiece_of_isValid messageId.2
  | spooled _ messageId => exact Identifier.isPiece_of_isValid messageId.2

theorem isName_of_mem_folders {document : Document} {name : String}
    (hname : name ∈ document.folders) : Path.IsName name := by
  cases document with
  | registry => cases hname
  | received chatId _ =>
      simp only [folders, List.mem_cons, List.not_mem_nil, or_false] at hname
      rcases hname with rfl | rfl
      · exact Layout.isName_messages
      · exact Identifier.isName_of_isValid chatId.2
  | spooled kind _ =>
      simp only [folders, List.mem_cons, List.not_mem_nil, or_false] at hname
      rcases hname with rfl | rfl
      · exact Layout.isName_outbox
      · exact Layout.isName_word kind

theorem length_folders_le (document : Document) : document.folders.length ≤ 2 := by
  cases document <;> simp [folders]

/-- A document is known by its folders and its name. -/
theorem ext_folders {document other : Document} (hfolders : document.folders = other.folders)
    (hstem : document.stem = other.stem) : document = other := by
  cases document <;> cases other <;> simp only [folders, stem] at hfolders hstem
  case registry.registry => rfl
  case received.received =>
    simp only [List.cons.injEq, true_and, and_true] at hfolders
    rw [Subtype.ext hfolders, Subtype.ext hstem]
  case spooled.spooled =>
    simp only [List.cons.injEq, true_and, and_true] at hfolders
    rw [ChatKind.word_injective hfolders, Subtype.ext hstem]
  all_goals simp at hfolders

end Document

/-- The files of the store. -/
inductive StoreFile
  | lock
  | document (whole : Document)
  /-- What is written first when a document is replaced. -/
  | draft (whole : Document)

namespace StoreFile

/-- The path of a file. -/
def path (layout : Layout) : StoreFile → Path
  | lock => layout.lock
  | document whole => whole.path layout
  | draft whole => Disk.draftPath (whole.path layout)

/-- The names of the folders that lead to a file from the data folder. -/
def folders : StoreFile → List String
  | lock => []
  | document whole => whole.folders
  | draft whole => whole.folders

/-- The name of a file in its folder. -/
def name : StoreFile → String
  | lock => "store.lock"
  | document whole => whole.stem ++ ".toml"
  | draft whole => whole.stem ++ ".toml.tmp"

/-- All names that lead to a file from the data folder. -/
def names (file : StoreFile) : List String :=
  file.folders ++ [file.name]

theorem isName_name (file : StoreFile) : Path.IsName file.name := by
  cases file with
  | lock => exact Layout.isName_lock
  | document whole => exact Disk.isName_document whole.isPiece_stem
  | draft whole => exact Disk.isName_draft whole.isPiece_stem

theorem isName_of_mem_names {file : StoreFile} {name : String} (hname : name ∈ file.names) :
    Path.IsName name := by
  rcases List.mem_append.mp hname with hfolder | hown
  · cases file with
    | lock => cases hfolder
    | document whole => exact Document.isName_of_mem_folders hfolder
    | draft whole => exact Document.isName_of_mem_folders hfolder
  · obtain rfl := List.mem_singleton.mp hown
    exact file.isName_name

theorem length_names_le (file : StoreFile) : file.names.length ≤ 3 := by
  rw [names, List.length_append]
  apply Nat.add_le_add_right
  cases file with
  | lock => exact Nat.zero_le 2
  | document whole => exact whole.length_folders_le
  | draft whole => exact whole.length_folders_le

/-- Different files have different names: no document is named like a draft or like the lock. -/
theorem names_injective {file other : StoreFile} (h : file.names = other.names) :
    file = other := by
  obtain ⟨hfolders, hname⟩ := List.append_inj' h rfl
  have hname := List.singleton_inj.mp hname
  cases file with
  | lock =>
      cases other with
      | lock => rfl
      | document whole => exact absurd hname (Place.lock_ne_document _)
      | draft whole => exact absurd hname (Place.lock_ne_draft _)
  | document whole =>
      cases other with
      | lock => exact absurd hname.symm (Place.lock_ne_document _)
      | document other =>
          exact congrArg document (Document.ext_folders hfolders (Place.document_injective hname))
      | draft other => exact absurd hname (Place.document_ne_draft _ _)
  | draft whole =>
      cases other with
      | lock => exact absurd hname.symm (Place.lock_ne_draft _)
      | document other => exact absurd hname.symm (Place.document_ne_draft _ _)
      | draft other =>
          exact congrArg draft (Document.ext_folders hfolders (Place.draft_injective hname))

/-- The names lead from the data folder to the file, from its draft's path as well. -/
theorem path_eq (layout : Layout) (file : StoreFile) :
    file.path layout = file.names.foldl Path.child layout.dataFolder := by
  have hdocument (whole : Document) : whole.path layout =
      (whole.folders.foldl Path.child layout.dataFolder).child (whole.stem ++ ".toml") := by
    cases whole <;> rfl
  rw [names, List.foldl_append]
  cases file with
  | lock => rfl
  | document whole => exact hdocument whole
  | draft whole =>
      rw [path, hdocument, Path.draftPath_child _ whole.isPiece_stem.ne_empty
        whole.isPiece_stem.no_slash]
      rfl

end StoreFile

theorem Path.steps_foldl_child (p : Path) {names : List String}
    (hnames : ∀ name ∈ names, IsName name) :
    (names.foldl child p).steps = p.steps ++ names := by
  induction names generalizing p with
  | nil => exact (List.append_nil _).symm
  | cons name names ih =>
      obtain ⟨hname, hrest⟩ := List.forall_mem_cons.mp hnames
      rw [List.foldl_cons, ih (p.child name) hrest, steps_child p hname.toIsPiece,
        List.append_assoc, List.singleton_append]

theorem StoreFile.steps_path (layout : Layout) (file : StoreFile) :
    (file.path layout).steps = layout.dataFolder.steps ++ file.names := by
  rw [path_eq, Path.steps_foldl_child _ fun _ => isName_of_mem_names]

/-- Identifiers are the texts of one to 128 letters, digits, underscores and hyphens. Whatever data
folder and identifiers a path of the store is made from, it is the path of the data folder with one
to three names behind it, and no other file of the store has a path with the same steps. -/
theorem storeFile_pathsApart (layout : Layout) :
    (∀ id, Identifier.isValid id = true ↔ 1 ≤ id.length ∧ id.length ≤ 128 ∧ ∀ c ∈ id.toList,
      ('A' ≤ c ∧ c ≤ 'Z') ∨ ('a' ≤ c ∧ c ≤ 'z') ∨ ('0' ≤ c ∧ c ≤ '9') ∨ c = '_' ∨ c = '-') ∧
    (Function.Injective fun file : StoreFile => (file.path layout).steps) ∧
    ∀ file : StoreFile, ∃ names : List String, 1 ≤ names.length ∧ names.length ≤ 3 ∧
      (∀ name ∈ names, name ≠ "" ∧ name ≠ "." ∧ name ≠ ".." ∧ '/' ∉ name.toList) ∧
      file.path layout = names.foldl Path.child layout.dataFolder ∧
      (file.path layout).steps = layout.dataFolder.steps ++ names := by
  refine ⟨fun _ => Identifier.isValid_iff, ?_, ?_⟩
  · intro file other h
    dsimp only at h
    rw [file.steps_path, other.steps_path] at h
    exact StoreFile.names_injective (List.append_cancel_left h)
  · intro file
    refine ⟨file.names, by simp [StoreFile.names], file.length_names_le, ?_, file.path_eq layout,
      file.steps_path layout⟩
    intro name hname
    have hname := StoreFile.isName_of_mem_names hname
    exact ⟨hname.ne_empty, hname.ne_dot, hname.ne_back, hname.no_slash⟩

end Courier
