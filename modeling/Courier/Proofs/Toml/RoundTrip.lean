import Courier.Proofs.Toml.Assembly

/-!
# Reading back what was written

Tables whose plain values come before their tables, with bare keys that differ, are read back from
their text. The number of levels is bounded, as the reader refuses headers with too many keys.
-/

namespace Courier.Toml

/-! ## Tables that can be written -/

/-- A value that is written on a line and read back from it. -/
structure Value.IsLeaf (v : Value) : Prop where
  hasHeaders_eq : hasHeaders v = false
  plain : IsPlain v.reread

/-- A value that is written under headers: a table that is not empty, or some tables. -/
inductive Value.IsBranch (below : Table → Prop) : Value → Prop
  | table {origin : Origin} {t : Table} (hne : t ≠ []) (ht : below t) :
      IsBranch below (.table origin t)
  | list {items : List Value} (hne : items ≠ [])
      (hitems : ∀ v ∈ items, ∃ origin t, v = .table origin t ∧ below t) :
      IsBranch below (.array true items)

/-- A table whose values under headers come last and hold tables of which `below` is true. -/
structure Table.IsTidy (below : Table → Prop) (leaves branches : Table) : Prop where
  leaf : ∀ entry ∈ leaves, entry.2.IsLeaf
  branch : ∀ entry ∈ branches, entry.2.IsBranch below
  bare : ∀ key ∈ Table.keys (leaves ++ branches), isBareKey key = true
  distinct : (Table.keys (leaves ++ branches)).Nodup

/-- A table that is read back from its text: its lines and sections are written as they should be,
and they make up the table again. -/
structure Table.IsReadBack (levels : Nat) (t : Table) : Prop where
  lines : ∀ p ∈ plainPairs t, p.IsLine
  sections : ∀ s ∈ entrySections [] t, s.IsWritten levels
  /-- A table that is not empty leaves a trace in the text. -/
  shown : t ≠ [] → plainPairs t = [] → entrySections [] t ≠ []
  assembled : assemble (plainPairs t) (entrySections [] t) = some (rereadEntries t)

/-! ## The pairs and sections of a tidy table -/

section Tidy

variable {below : Table → Prop} {leaves branches : Table}

theorem Value.IsBranch.hasHeaders_eq {v : Value} (hv : v.IsBranch below) : hasHeaders v = true := by
  cases hv with
  | table hne ht => rfl
  | @list items hne hitems =>
      cases items with
      | nil => exact absurd rfl hne
      | cons v items => rfl

theorem Value.IsLeaf.sections_eq {v : Value} (hv : v.IsLeaf) (through : List String)
    (key : String) : v.sections through key = [] := by
  have hhas := hv.hasHeaders_eq
  match v with
  | .string _ | .integer _ | .float _ | .boolean _ | .datetime _ | .array false _ => rfl
  | .array true [] => rfl

theorem plainPairs_append (t u : Table) : plainPairs (t ++ u) = plainPairs t ++ plainPairs u :=
  List.filterMap_append

theorem plainPairs_leaves (hleaves : ∀ entry ∈ leaves, entry.2.IsLeaf) :
    plainPairs leaves = leaves.map fun entry => ⟨⟨[], entry.1⟩, entry.2.reread⟩ := by
  induction leaves with
  | nil => rfl
  | cons entry leaves ih =>
      obtain ⟨key, v⟩ := entry
      have hv : hasHeaders v = false := (hleaves _ List.mem_cons_self).hasHeaders_eq
      have hrest := ih fun e he => hleaves e (List.mem_cons_of_mem _ he)
      rw [plainPairs] at hrest ⊢
      rw [List.filterMap_cons, hrest]
      simp [hv]

theorem plainPairs_branches (hbranches : ∀ entry ∈ branches, entry.2.IsBranch below) :
    plainPairs branches = [] := by
  rw [plainPairs, List.filterMap_eq_nil_iff]
  rintro ⟨key, v⟩ hentry
  exact if_pos (hbranches _ hentry).hasHeaders_eq

theorem entrySections_leaves (hleaves : ∀ entry ∈ leaves, entry.2.IsLeaf) (t : Table) :
    entrySections [] (leaves ++ t) = entrySections [] t := by
  induction leaves with
  | nil => rfl
  | cons entry leaves ih =>
      obtain ⟨key, v⟩ := entry
      have hv : v.IsLeaf := hleaves _ List.mem_cons_self
      have hrest := ih fun e he => hleaves e (List.mem_cons_of_mem _ he)
      rw [List.cons_append, entrySections, hv.sections_eq, List.nil_append, hrest]

theorem Table.IsTidy.plainPairs_eq (h : IsTidy below leaves branches) :
    plainPairs (leaves ++ branches) =
      leaves.map fun entry => ⟨⟨[], entry.1⟩, entry.2.reread⟩ := by
  rw [plainPairs_append, plainPairs_leaves h.leaf, plainPairs_branches h.branch, List.append_nil]

theorem Table.IsTidy.isLine (h : IsTidy below leaves branches) :
    ∀ p ∈ plainPairs (leaves ++ branches), p.IsLine := by
  intro p hp
  rw [h.plainPairs_eq, List.mem_map] at hp
  obtain ⟨entry, hentry, rfl⟩ := hp
  exact ⟨rfl, h.bare _ (List.mem_map_of_mem (List.mem_append_left _ hentry)),
    (h.leaf _ hentry).plain⟩

/-- The lines of a tidy table make up its plain values. -/
theorem Table.IsTidy.insertAll_eq (h : IsTidy below leaves branches) :
    insertAll .header [] (plainPairs (leaves ++ branches)) = some (rereadEntries leaves) := by
  have hkeys : (plainPairs (leaves ++ branches)).map (·.path.key) = leaves.keys := by
    rw [h.plainPairs_eq, List.map_map]
    rfl
  have hdistinct : (keys [] ++ (plainPairs (leaves ++ branches)).map (·.path.key)).Nodup := by
    rw [hkeys]
    have hall := h.distinct
    rw [keys, List.map_append] at hall
    exact (List.nodup_append.mp hall).1
  rw [insertAll_lines h.isLine hdistinct, h.plainPairs_eq, List.map_map, rereadEntries_eq_map]
  rfl

end Tidy

/-! ## Sections below a key -/

theorem Header.path_under (key : String) (header : Header) :
    (header.under key).path = ⟨key :: header.path.through, header.path.key⟩ := by
  cases header <;> rfl

theorem Section.IsWritten.under {levels : Nat} {s : Section} (hs : s.IsWritten levels)
    {key : String} (hkey : isBareKey key = true) : (s.under key).IsWritten (levels + 1) := by
  constructor
  · intro k hk
    rw [Section.under, Header.path_under, List.cons_append, List.mem_cons] at hk
    rcases hk with rfl | hk
    · exact hkey
    · exact hs.bare k hk
  · rw [Section.under, Header.path_under, List.length_cons]
    exact Nat.succ_lt_succ hs.length_lt
  · exact hs.lines

/-- A section that a key of the top table heads. -/
theorem isWritten_top {levels : Nat} {header : Header} {key : String}
    (hheader : header.path = ⟨[], key⟩) (hkey : isBareKey key = true) {pairs : List Pair}
    (hpairs : ∀ p ∈ pairs, p.IsLine) : Section.IsWritten (levels + 1) ⟨header, pairs⟩ := by
  constructor
  · intro k hk
    rw [hheader, List.nil_append, List.mem_singleton] at hk
    exact hk ▸ hkey
  · rw [hheader]
    exact Nat.succ_pos levels
  · exact hpairs

theorem isWritten_below {levels : Nat} {t : Table} (ht : t.IsReadBack levels) {key : String}
    (hkey : isBareKey key = true) : ∀ s ∈ entrySections [key] t, s.IsWritten (levels + 1) := by
  intro s hs
  rw [entrySections_under, List.mem_map] at hs
  obtain ⟨inner, hinner, rfl⟩ := hs
  exact (ht.sections inner hinner).under hkey

/-- The sections of a value under headers are written as they should be. -/
theorem Value.IsBranch.isWritten {levels : Nat} {v : Value}
    (hv : v.IsBranch (Table.IsReadBack levels)) {key : String} (hkey : isBareKey key = true) :
    ∀ s ∈ v.sections [] key, s.IsWritten (levels + 1) := by
  cases hv with
  | @table origin t hne ht =>
      intro s hs
      rw [Value.sections, List.mem_append] at hs
      rcases hs with hs | hs
      · split at hs
        · exact absurd hs List.not_mem_nil
        · rw [List.mem_singleton] at hs
          exact hs ▸ isWritten_top rfl hkey ht.lines
      · exact isWritten_below ht hkey s hs
  | @list items hne hitems =>
      clear hne
      rw [Value.sections]
      induction items with
      | nil => exact fun s hs => absurd hs List.not_mem_nil
      | cons item items ih =>
          obtain ⟨origin, t, rfl, ht⟩ := hitems _ List.mem_cons_self
          have hrest := ih fun v hv => hitems v (List.mem_cons_of_mem _ hv)
          intro s hs
          rw [itemSections, List.mem_cons, List.mem_append] at hs
          rcases hs with rfl | hs | hs
          · exact isWritten_top rfl hkey ht.lines
          · exact isWritten_below ht hkey s hs
          · exact hrest s hs

/-- A value under headers leaves a trace in the text. -/
theorem Value.IsBranch.sections_ne_nil {levels : Nat} {v : Value}
    (hv : v.IsBranch (Table.IsReadBack levels)) (key : String) : v.sections [] key ≠ [] := by
  cases hv with
  | @table origin t hne ht =>
      rw [Value.sections]
      split
      next hlines =>
        have hpairs := plainPairs_eq_nil (List.isEmpty_iff.mp hlines)
        rw [List.nil_append, List.nil_append, entrySections_under, ne_eq, List.map_eq_nil_iff]
        exact ht.shown hne hpairs
      next => exact List.cons_ne_nil _ _
  | @list items hne hitems =>
      cases items with
      | nil => exact absurd rfl hne
      | cons item items =>
          obtain ⟨origin, t, rfl, ht⟩ := hitems _ List.mem_cons_self
          exact List.cons_ne_nil _ _

/-! ## Putting values under headers together -/

theorem addSection_newTable {t : Table} {key : String} (hnew : key ∉ t.keys)
    (pairs : List Pair) :
    t.addSection ⟨.table ⟨[], key⟩, pairs⟩ =
      (Table.insertAll .header [] pairs).map fun sub => t ++ [(key, .table .header sub)] := by
  change Table.openTable t ⟨[], key⟩ pairs = _
  rw [Table.openTable, Table.descend, Table.get?_eq_none hnew]
  cases Table.insertAll .header [] pairs <;> rfl

/-- The table in which a list of tables has grown so far. A list without elements is not there. -/
def growing (t : Table) (key : String) (items : List Value) : Table :=
  if items.isEmpty then t else t ++ [(key, .array true items)]

theorem growing_concat (t : Table) (key : String) (items : List Value) (v : Value) :
    growing t key (items ++ [v]) = t ++ [(key, .array true (items ++ [v]))] := by
  simp [growing]

theorem addSection_element {t : Table} {key : String} (hnew : key ∉ t.keys) (items : List Value)
    (pairs : List Pair) :
    (growing t key items).addSection ⟨.element ⟨[], key⟩, pairs⟩ =
      (Table.insertAll .header [] pairs).map fun sub =>
        growing t key (items ++ [.table .header sub]) := by
  change Table.openElement (growing t key items) ⟨[], key⟩ pairs = _
  rw [Table.openElement, Table.descend]
  cases hsub : Table.insertAll .header [] pairs with
  | none => rfl
  | some sub =>
      rw [Option.map_some, growing_concat]
      cases items with
      | nil =>
          have hget : Table.get? (growing t key []) key = none := Table.get?_eq_none hnew
          simp only [Option.bind_eq_bind, Option.bind_some, hget]
          rfl
      | cons item items =>
          have hget : Table.get? (growing t key (item :: items)) key =
              some (.array true (item :: items)) := Table.get?_append_single hnew _
          have hreplace (new : Value) : Table.replace (growing t key (item :: items)) key new =
              t ++ [(key, new)] := Table.replace_append_single hnew _ new
          simp only [Option.bind_eq_bind, Option.bind_some, hget, hreplace]
          rfl

theorem assemble_eq {pairs : List Pair} {later : List Section} {t : Table}
    (ht : assemble pairs later = some t) :
    ∃ sub, Table.insertAll .header [] pairs = some sub ∧
      later.foldlM Table.addSection sub = some t := by
  rw [assemble] at ht
  cases hsub : Table.insertAll .header [] pairs with
  | none =>
      rw [hsub] at ht
      exact absurd ht (by simp)
  | some sub =>
      rw [hsub] at ht
      exact ⟨sub, rfl, ht⟩

theorem addSections_table {levels : Nat} {t start : Table} (hne : t ≠ [])
    (ht : t.IsReadBack levels) {key : String} (hnew : key ∉ start.keys) (origin : Origin) :
    ((Value.table origin t).sections [] key).foldlM Table.addSection start =
      some (start ++ [(key, (Value.table origin t).reread)]) := by
  obtain ⟨sub, hsub, hlater⟩ := assemble_eq ht.assembled
  rw [Value.sections, Value.reread, List.foldlM_append, List.nil_append, entrySections_under]
  -- A table without plain values has no header: the sections below it imply it.
  by_cases hlines : plainLines t = []
  · have hpairs := plainPairs_eq_nil hlines
    rw [hpairs] at hsub
    cases hsub
    rw [hlines]
    simp only [List.isEmpty_nil, if_true, List.foldlM_nil, pure_bind]
    rw [addSections_new hnew (ht.shown hne hpairs), hlater]
    rfl
  · have hsome : (plainLines t).isEmpty = false := by simpa using hlines
    have hheader : Origin.header ≠ .braces := by decide
    have hplace := fun change sub => Table.within_table hnew hheader change sub
    rw [hsome]
    simp only [Bool.false_eq_true, if_false, List.foldlM_cons, List.foldlM_nil, bind_pure]
    rw [addSection_newTable hnew, hsub]
    exact (addSections_under hplace _ sub).trans (congrArg (Option.map _) hlater)

theorem addSections_items {levels : Nat} {start : Table} {key : String} (hnew : key ∉ start.keys)
    {items : List Value}
    (hitems : ∀ v ∈ items, ∃ origin t, v = .table origin t ∧ Table.IsReadBack levels t)
    (before : List Value) :
    (itemSections [] key items).foldlM Table.addSection (growing start key before) =
      some (growing start key (before ++ rereadItems items)) := by
  -- Each header adds an element to the list, and the sections up to the next one go into it.
  induction items generalizing before with
  | nil => rw [itemSections, rereadItems, List.append_nil]; rfl
  | cons item items ih =>
      obtain ⟨origin, t, rfl, ht⟩ := hitems _ List.mem_cons_self
      obtain ⟨sub, hsub, hlater⟩ := assemble_eq ht.assembled
      have hrest := ih (fun v hv => hitems v (List.mem_cons_of_mem _ hv))
        (before ++ [.table .header (rereadEntries t)])
      have hplace := fun change sub => Table.within_list hnew .header before change sub
      have hsections : ((entrySections [] t).map (Section.under key)).foldlM Table.addSection
          (growing start key (before ++ [.table .header sub])) =
          some (growing start key (before ++ [.table .header (rereadEntries t)])) := by
        rw [growing_concat, growing_concat]
        exact (addSections_under hplace _ sub).trans (congrArg (Option.map _) hlater)
      rw [itemSections, rereadItems, List.foldlM_cons, addSection_element hnew, hsub,
        Option.map_some, Option.bind_eq_bind, Option.bind_some, List.foldlM_append,
        List.nil_append, entrySections_under, hsections]
      rw [List.append_assoc] at hrest
      exact hrest

theorem Value.IsBranch.addSections_eq {levels : Nat} {v : Value}
    (hv : v.IsBranch (Table.IsReadBack levels)) {start : Table} {key : String}
    (hnew : key ∉ start.keys) :
    (v.sections [] key).foldlM Table.addSection start = some (start ++ [(key, v.reread)]) := by
  cases hv with
  | @table origin t hne ht => exact addSections_table hne ht hnew origin
  | @list items hne hitems =>
      have hitems' := addSections_items hnew hitems []
      rw [List.nil_append] at hitems'
      rw [Value.sections, Value.reread]
      refine hitems'.trans ?_
      cases items with
      | nil => exact absurd rfl hne
      | cons item items =>
          obtain ⟨origin, t, rfl, ht⟩ := hitems _ List.mem_cons_self
          rfl

/-! ## Writing and reading -/

theorem addSections_branches {levels : Nat} {branches start : Table}
    (hbranches : ∀ entry ∈ branches, entry.2.IsBranch (Table.IsReadBack levels))
    (hdistinct : (Table.keys (start ++ branches)).Nodup) :
    (entrySections [] branches).foldlM Table.addSection start =
      some (start ++ rereadEntries branches) := by
  induction branches generalizing start with
  | nil => rw [rereadEntries, List.append_nil]; rfl
  | cons entry branches ih =>
      obtain ⟨key, v⟩ := entry
      have hnew : key ∉ start.keys := by
        rw [Table.keys, List.map_append] at hdistinct
        exact fun hmem => (List.nodup_append.mp hdistinct).2.2 key hmem key List.mem_cons_self rfl
      have hkeys : Table.keys (start ++ [(key, v.reread)] ++ branches) =
          Table.keys (start ++ (key, v) :: branches) := by
        simp [Table.keys]
      have hrest := ih (fun e he => hbranches e (List.mem_cons_of_mem _ he))
        (hkeys.symm ▸ hdistinct)
      have hfirst := (hbranches _ List.mem_cons_self).addSections_eq hnew
      rw [entrySections, List.foldlM_append, hfirst, Option.bind_eq_bind, Option.bind_some, hrest,
        rereadEntries, List.append_assoc]
      rfl

theorem mem_entrySections {through : List String} {t : Table} {s : Section}
    (hs : s ∈ entrySections through t) : ∃ entry ∈ t, s ∈ entry.2.sections through entry.1 := by
  induction t with
  | nil => exact absurd hs List.not_mem_nil
  | cons entry t ih =>
      obtain ⟨key, v⟩ := entry
      rw [entrySections, List.mem_append] at hs
      rcases hs with hs | hs
      · exact ⟨_, List.mem_cons_self, hs⟩
      · obtain ⟨e, he, hse⟩ := ih hs
        exact ⟨e, List.mem_cons_of_mem _ he, hse⟩

theorem Table.IsTidy.entrySections_ne_nil {levels : Nat} {leaves branches : Table}
    (h : IsTidy (IsReadBack levels) leaves branches) (hne : leaves ++ branches ≠ [])
    (hpairs : plainPairs (leaves ++ branches) = []) :
    entrySections [] (leaves ++ branches) ≠ [] := by
  rw [h.plainPairs_eq, List.map_eq_nil_iff] at hpairs
  subst hpairs
  cases branches with
  | nil => exact absurd rfl hne
  | cons entry branches =>
      obtain ⟨key, v⟩ := entry
      have hfirst := (h.branch _ List.mem_cons_self).sections_ne_nil key
      rw [List.nil_append, entrySections]
      exact List.append_ne_nil_of_left_ne_nil hfirst _

/-- A tidy table is read back if the tables below it are. -/
theorem Table.IsTidy.isReadBack {levels : Nat} {leaves branches : Table}
    (h : IsTidy (IsReadBack levels) leaves branches) :
    IsReadBack (levels + 1) (leaves ++ branches) := by
  constructor
  · exact h.isLine
  · intro s hs
    rw [entrySections_leaves h.leaf] at hs
    obtain ⟨entry, hentry, hs⟩ := mem_entrySections hs
    have hbare := h.bare _ (List.mem_map_of_mem (List.mem_append_right _ hentry))
    exact (h.branch _ hentry).isWritten hbare s hs
  · exact h.entrySections_ne_nil
  · have hkeys : Table.keys (rereadEntries leaves ++ branches) =
        Table.keys (leaves ++ branches) := by
      rw [Table.keys, Table.keys, List.map_append, List.map_append, rereadEntries_eq_map,
        List.map_map]
      rfl
    rw [assemble, h.insertAll_eq, Option.bind_eq_bind, Option.bind_some,
      entrySections_leaves h.leaf, addSections_branches h.branch (hkeys ▸ h.distinct),
      rereadEntries_eq_map, rereadEntries_eq_map, rereadEntries_eq_map, List.map_append]

/-- A table that is read back from its text comes back as it is, but for the origins of its
tables. -/
theorem Table.IsReadBack.read?_write {t : Table} (ht : t.IsReadBack maxKeyParts) :
    read? (write t) = some (rereadEntries t) := by
  obtain ⟨lines, hlines, hsections⟩ := sections_write ht.lines ht.sections
  rw [read?, hlines, Option.bind_eq_bind, Option.bind_some, hsections]
  exact ht.assembled

end Courier.Toml
