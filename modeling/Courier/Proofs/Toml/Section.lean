import Courier.Proofs.Toml.Line
import Courier.Toml.Document

/-!
# Documents are read section by section

The blocks of a printed document are the texts of its sections, and reading the document finds these
sections again. What the sections are put together to is treated apart.
-/

namespace Courier.Toml

/-! ## What is read back -/

mutual

/-- A value as it is read back. A list without elements comes without headers, and a table without
lines of its own is only implied. -/
def Value.reread : Value → Value
  | .table _ entries =>
    .table (if (plainLines entries).isEmpty then .implied else .header) (rereadEntries entries)
  | .array true items => .array (!items.isEmpty) (rereadItems items)
  | v => v

/-- The elements of a list as they are read back, each under a header. -/
def rereadItems : List Value → List Value
  | [] => []
  | .table _ entries :: rest => .table .header (rereadEntries entries) :: rereadItems rest
  | v :: rest => v :: rereadItems rest

/-- The entries of a table as they are read back. -/
def rereadEntries : List (String × Value) → List (String × Value)
  | [] => []
  | (key, v) :: rest => (key, v.reread) :: rereadEntries rest

end

theorem rereadEntries_eq_map (t : Table) :
    rereadEntries t = t.map fun entry => (entry.1, entry.2.reread) := by
  induction t with
  | nil => rfl
  | cons entry t ih => rw [rereadEntries, ih, List.map_cons]

/-- The plain values of a table, as they are read back. -/
def plainPairs (t : Table) : List Pair :=
  t.filterMap fun (key, v) => if hasHeaders v then none else some ⟨⟨[], key⟩, v.reread⟩

/-- The line of a pair without a dotted key. -/
def Pair.text (p : Pair) : List Char :=
  pairLine p.path.key p.value

/-- A value without headers reads back as a value with the same text. -/
theorem inlineText_reread {v : Value} (hv : hasHeaders v = false) :
    inlineText v.reread = inlineText v := by
  match v with
  | .string _ | .integer _ | .float _ | .boolean _ | .datetime _ | .array false _ => rfl
  | .array true [] => rfl
  | .array true (_ :: _) => exact absurd hv (by simp [hasHeaders])
  | .table _ _ => exact absurd hv (by simp [hasHeaders])

theorem plainLines_eq (t : Table) : plainLines t = (plainPairs t).flatMap Pair.text := by
  induction t with
  | nil => rfl
  | cons entry t ih =>
      obtain ⟨key, v⟩ := entry
      rw [plainLines, List.flatMap_cons, ← plainLines, ih]
      cases hv : hasHeaders v with
      | true => simp [plainPairs, hv]
      | false => simp [plainPairs, hv, Pair.text, pairLine, inlineText_reread hv]

/-! ## Sections of a table -/

mutual

/-- The sections that a value under a key stands for. -/
def Value.sections (through : List String) (key : String) : Value → List Section
  | .table _ t =>
    (if (plainLines t).isEmpty then [] else [⟨.table ⟨through, key⟩, plainPairs t⟩]) ++
      entrySections (through ++ [key]) t
  | .array true items => itemSections through key items
  | _ => []

/-- The sections of the elements of a list of tables. -/
def itemSections (through : List String) (key : String) : List Value → List Section
  | [] => []
  | .table _ t :: rest =>
    ⟨.element ⟨through, key⟩, plainPairs t⟩ ::
      (entrySections (through ++ [key]) t ++ itemSections through key rest)
  | _ :: rest => itemSections through key rest

/-- The sections of the tables within a table. -/
def entrySections (through : List String) : List (String × Value) → List Section
  | [] => []
  | (key, v) :: rest => v.sections through key ++ entrySections through rest

end

/-- The line of a header. -/
def Header.text : Header → List Char
  | .table path => ['['] ++ pathText (path.through ++ [path.key]) ++ [']', '\n']
  | .element path => ['[', '['] ++ pathText (path.through ++ [path.key]) ++ [']', ']', '\n']

/-- The lines of a section. -/
def Section.text (s : Section) : List Char :=
  s.header.text ++ s.pairs.flatMap Pair.text

mutual

theorem blocksOfValue_eq (through : List String) (key : String) : (v : Value) →
    blocksOfValue (through ++ [key]) v = (v.sections through key).map Section.text
  | .table _ t => by
      have hentries := blocksOfEntries_eq (through ++ [key]) t
      rw [blocksOfValue, Value.sections, List.map_append, hentries]
      split
      next => rfl
      next => simp [Section.text, Header.text, plainLines_eq]
  | .array true items => blocksOfItems_eq through key items
  | .array false _ => rfl
  | .string _ => rfl
  | .integer _ => rfl
  | .float _ => rfl
  | .boolean _ => rfl
  | .datetime _ => rfl

theorem blocksOfItems_eq (through : List String) (key : String) : (items : List Value) →
    blocksOfItems (through ++ [key]) items = (itemSections through key items).map Section.text
  | [] => rfl
  | .table _ t :: rest => by
      have hentries := blocksOfEntries_eq (through ++ [key]) t
      have hrest := blocksOfItems_eq through key rest
      rw [blocksOfItems, itemSections, List.map_cons, List.map_append, hentries, hrest]
      simp [Section.text, Header.text, plainLines_eq]
  | .array _ _ :: rest => blocksOfItems_eq through key rest
  | .string _ :: rest => blocksOfItems_eq through key rest
  | .integer _ :: rest => blocksOfItems_eq through key rest
  | .float _ :: rest => blocksOfItems_eq through key rest
  | .boolean _ :: rest => blocksOfItems_eq through key rest
  | .datetime _ :: rest => blocksOfItems_eq through key rest

/-- The blocks of a table are the texts of its sections. -/
theorem blocksOfEntries_eq (through : List String) : (t : List (String × Value)) →
    blocksOfEntries through t = (entrySections through t).map Section.text
  | [] => rfl
  | (key, v) :: rest => by
      have hvalue := blocksOfValue_eq through key v
      have hrest := blocksOfEntries_eq through rest
      rw [blocksOfEntries, entrySections, List.map_append, hvalue, hrest]

end

/-! ## Reading the sections -/

/-- A step that takes something adds what it has read to the front. -/
theorem readAll_append {α : Type} {step : Reader α} {taken rest : List Char} {a : α}
    (hne : taken ≠ []) (hstep : step (taken ++ rest) = some (a, rest)) :
    readAll step (taken ++ rest) = (readAll step rest).map (a :: ·) := by
  cases taken with
  | nil => exact absurd rfl hne
  | cons c cs =>
      have hshort : rest.length < (c :: (cs ++ rest)).length := by
        simp only [List.length_cons, List.length_append]
        omega
      rw [List.cons_append] at hstep ⊢
      rw [readAll, hstep]
      dsimp only
      rw [if_pos hshort]

/-- A pair that is written on a line of its own. -/
structure Pair.IsLine (p : Pair) : Prop where
  through_eq : p.path.through = []
  bare : isBareKey p.path.key = true
  plain : IsPlain p.value

/-- The path of a header. -/
def Header.path : Header → KeyPath
  | .table path => path
  | .element path => path

/-- What the line of a header says. -/
def Header.line : Header → Line
  | .table path => .table path
  | .element path => .element path

/-- A section as it is written: bare keys, not more than `levels` of them, and plain values. -/
structure Section.IsWritten (levels : Nat) (s : Section) : Prop where
  bare : ∀ key ∈ s.header.path.through ++ [s.header.path.key], isBareKey key = true
  length_lt : s.header.path.through.length < levels
  lines : ∀ p ∈ s.pairs, p.IsLine

theorem readAll_pairs {pairs : List Pair} (hpairs : ∀ p ∈ pairs, p.IsLine) (rest : List Char) :
    readAll line (pairs.flatMap Pair.text ++ rest) =
      (readAll line rest).map (pairs.map Line.pair ++ ·) := by
  induction pairs with
  | nil => cases h : readAll line rest <;> simp [h]
  | cons p pairs ih =>
      have hp := hpairs p List.mem_cons_self
      have htail := ih fun q hq => hpairs q (List.mem_cons_of_mem _ hq)
      obtain ⟨⟨through, key⟩, v⟩ := p
      have hthrough : through = [] := hp.through_eq
      subst hthrough
      have hline := line_pairLine hp.bare hp.plain (pairs.flatMap Pair.text ++ rest)
      have hne : pairLine key v ≠ [] := by simp [pairLine]
      rw [List.flatMap_cons, List.append_assoc]
      refine (readAll_append hne hline).trans ?_
      rw [htail, Option.map_map]
      rfl

theorem readAll_header {header : Header}
    (hbare : ∀ key ∈ header.path.through ++ [header.path.key], isBareKey key = true)
    (hlength : header.path.through.length < maxKeyParts) (rest : List Char) :
    readAll line (header.text ++ rest) = (readAll line rest).map (header.line :: ·) := by
  cases header with
  | table path =>
      refine readAll_append (by simp [Header.text]) ?_
      simpa [Header.text, Header.path, Header.line] using line_tableHeader hbare hlength rest
  | element path =>
      refine readAll_append (by simp [Header.text]) ?_
      simpa [Header.text, Header.path, Header.line] using line_elementHeader hbare hlength rest

/-- The lines of a section: its header and its pairs. -/
def Section.lines (s : Section) : List Line :=
  s.header.line :: s.pairs.map .pair

theorem readAll_section {s : Section} (hs : s.IsWritten maxKeyParts) (rest : List Char) :
    readAll line (s.text ++ rest) = (readAll line rest).map (s.lines ++ ·) := by
  rw [Section.text, List.append_assoc, readAll_header hs.bare hs.length_lt,
    readAll_pairs hs.lines, Option.map_map]
  rfl

/-- Sections that each come after an empty line. -/
def laterText (later : List Section) : List Char :=
  later.flatMap fun s => '\n' :: s.text

theorem readAll_laterText {later : List Section}
    (hlater : ∀ s ∈ later, s.IsWritten maxKeyParts) :
    readAll line (laterText later) = some (later.flatMap fun s => .blank :: s.lines) := by
  induction later with
  | nil =>
      rw [laterText, List.flatMap_nil, readAll]
      rfl
  | cons s later ih =>
      have hblank : readAll line (['\n'] ++ (s.text ++ laterText later)) =
          (readAll line (s.text ++ laterText later)).map (.blank :: ·) :=
        readAll_append (by simp) (line_blank (s.text ++ laterText later))
      have htail := ih fun t ht => hlater t (List.mem_cons_of_mem _ ht)
      have htext : laterText (s :: later) = ['\n'] ++ (s.text ++ laterText later) := by
        simp [laterText]
      rw [htext, hblank, readAll_section (hlater s List.mem_cons_self), htail]
      simp

theorem sections_pairs (pairs : List Pair) (lines : List Line) :
    sections (pairs.map Line.pair ++ lines) =
      (pairs ++ (sections lines).1, (sections lines).2) := by
  induction pairs with
  | nil => rfl
  | cons p pairs ih => rw [List.map_cons, List.cons_append, sections, ih]; rfl

theorem sections_section (s : Section) (lines : List Line) :
    sections (s.lines ++ lines) =
      ([], ⟨s.header, s.pairs ++ (sections lines).1⟩ :: (sections lines).2) := by
  obtain ⟨header, pairs⟩ := s
  rw [Section.lines, List.cons_append, sections, sections_pairs]
  cases header <;> rfl

/-- Dividing the lines of sections gives the sections again. -/
theorem sections_later (later : List Section) :
    sections (later.flatMap fun s => .blank :: s.lines) = ([], later) := by
  induction later with
  | nil => rfl
  | cons s later ih =>
      rw [List.flatMap_cons, List.cons_append, sections, sections_section, ih, List.append_nil]

/-! ## Whole documents -/

theorem intercalate_line (first : List Char) (later : List (List Char)) :
    List.intercalate ['\n'] (first :: later) = first ++ later.flatMap ('\n' :: ·) := by
  induction later generalizing first with
  | nil => simp [List.intercalate]
  | cons next later ih =>
      have hstep : List.intercalate ['\n'] (first :: next :: later) =
          first ++ '\n' :: List.intercalate ['\n'] (next :: later) := by
        simp [List.intercalate]
      rw [hstep, ih next]
      rfl

/-- A table whose lines are empty has no plain values. -/
theorem plainPairs_eq_nil {t : Table} (hlines : plainLines t = []) : plainPairs t = [] := by
  rw [plainLines_eq] at hlines
  cases hpairs : plainPairs t with
  | nil => rfl
  | cons p pairs =>
      rw [hpairs, List.flatMap_cons, List.append_eq_nil_iff] at hlines
      exact absurd hlines.1 (by simp [Pair.text, pairLine])

/-- A key and a bracket are no byte order mark, so a printed document is read from its start. -/
theorem dropByteOrderMark_cons {c : Char} (hc : isBareKeyChar c = true ∨ c = '[')
    (cs : List Char) : dropByteOrderMark (c :: cs) = c :: cs := by
  have hmark : c ≠ '\ufeff' := by
    rcases hc with hbare | rfl
    · exact ne_of_holds hbare (by decide)
    · decide
  rw [dropByteOrderMark.eq_def]
  split <;> simp_all

theorem Pair.IsLine.text_cons {p : Pair} (hp : p.IsLine) :
    ∃ c cs, p.text = c :: cs ∧ isBareKeyChar c = true := by
  obtain ⟨c, cs, hcs, hc⟩ := toList_eq_cons_of_isBareKey hp.bare
  refine ⟨c, cs ++ ' ' :: '=' :: ' ' :: inlineText p.value ++ ['\n'], ?_, hc⟩
  simp [Pair.text, pairLine, hcs]

theorem dropByteOrderMark_pairs {pairs : List Pair} (hpairs : ∀ p ∈ pairs, p.IsLine)
    (hne : pairs.flatMap Pair.text ≠ []) (rest : List Char) :
    dropByteOrderMark (pairs.flatMap Pair.text ++ rest) = pairs.flatMap Pair.text ++ rest := by
  cases pairs with
  | nil => exact absurd rfl hne
  | cons p pairs =>
      obtain ⟨c, cs, htext, hc⟩ := (hpairs p List.mem_cons_self).text_cons
      rw [List.flatMap_cons, htext, List.cons_append, List.cons_append]
      exact dropByteOrderMark_cons (.inl hc) _

theorem Section.text_cons (s : Section) : ∃ cs, s.text = '[' :: cs := by
  obtain ⟨header, pairs⟩ := s
  cases header <;> exact ⟨_, rfl⟩

theorem flatMap_text (later : List Section) :
    (later.map Section.text).flatMap ('\n' :: ·) = laterText later := by
  rw [laterText, List.flatMap_map]

/-- A document of sections only starts with the first of them. -/
theorem sections_intercalate {written : List Section}
    (hwritten : ∀ s ∈ written, s.IsWritten maxKeyParts) :
    ∃ lines, readAll line (dropByteOrderMark
        (List.intercalate ['\n'] (written.map Section.text))) = some lines ∧
      sections lines = ([], written) := by
  cases written with
  | nil =>
      refine ⟨[], ?_, rfl⟩
      change readAll line [] = some []
      rw [readAll]
  | cons s later =>
      have hfirst := hwritten s List.mem_cons_self
      have hrest := readAll_laterText fun r hr => hwritten r (List.mem_cons_of_mem _ hr)
      obtain ⟨cs, htext⟩ := s.text_cons
      refine ⟨s.lines ++ later.flatMap fun s => .blank :: s.lines, ?_, ?_⟩
      · rw [List.map_cons, intercalate_line, flatMap_text, htext, List.cons_append,
          dropByteOrderMark_cons (.inr rfl), ← List.cons_append, ← htext,
          readAll_section hfirst, hrest]
        rfl
      · rw [sections_section, sections_later, List.append_nil]

/-- The lines of a printed document divide into its plain values and its sections. -/
theorem sections_write {t : Table} (hpairs : ∀ p ∈ plainPairs t, p.IsLine)
    (hsections : ∀ s ∈ entrySections [] t, s.IsWritten maxKeyParts) :
    ∃ lines, readAll line (dropByteOrderMark (write t).toList) = some lines ∧
      sections lines = (plainPairs t, entrySections [] t) := by
  have hblocks : blocksOfEntries [] t = (entrySections [] t).map Section.text :=
    blocksOfEntries_eq [] t
  rw [write, hblocks, String.toList_ofList]
  -- Plain lines make up a block of their own, which is left out if there are none.
  by_cases hplain : plainLines t = []
  · rw [hplain, plainPairs_eq_nil hplain]
    simp only [List.isEmpty_nil, if_true]
    exact sections_intercalate hsections
  · have hsome : (plainLines t).isEmpty = false := by simpa using hplain
    rw [hsome]
    simp only [Bool.false_eq_true, if_false]
    have hrest := readAll_laterText hsections
    rw [plainLines_eq] at hplain ⊢
    refine ⟨(plainPairs t).map .pair ++ (entrySections [] t).flatMap fun s => .blank :: s.lines,
      ?_, ?_⟩
    · rw [intercalate_line, flatMap_text, dropByteOrderMark_pairs hpairs hplain,
        readAll_pairs hpairs, hrest]
      rfl
    · rw [sections_pairs, sections_later, List.append_nil]

end Courier.Toml
