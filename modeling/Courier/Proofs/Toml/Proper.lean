import Courier.Proofs.Toml.Assembly

/-!
# What a document holds

Whatever text is read, no key occurs twice in a table of the document, at any depth, and its
integers are those of 64 bits.
-/

namespace Courier.Toml

/-- Whether a value may stand in a document: its integers are small, and no key occurs twice in any
of its tables. -/
inductive Value.IsProper : Value → Prop
  | string (s : String) : IsProper (.string s)
  | integer {n : Int} (hsmall : isInteger64 n = true) : IsProper (.integer n)
  | float (text : String) : IsProper (.float text)
  | boolean (b : Bool) : IsProper (.boolean b)
  | datetime (text : String) : IsProper (.datetime text)
  | array {ofHeaders : Bool} {items : List Value} (hitems : ∀ item ∈ items, IsProper item) :
      IsProper (.array ofHeaders items)
  | table {origin : Origin} {entries : List (String × Value)}
      (hkeys : (entries.map Prod.fst).Nodup) (hvalues : ∀ entry ∈ entries, IsProper entry.2) :
      IsProper (.table origin entries)

/-- Whether a table may stand in a document. -/
structure Table.IsProper (t : Table) : Prop where
  keys_nodup : t.keys.Nodup
  values : ∀ entry ∈ t, entry.2.IsProper

theorem Value.isProper_table_iff {origin : Origin} {t : Table} :
    Value.IsProper (.table origin t) ↔ t.IsProper := by
  constructor
  · rintro (_ | _ | _ | _ | _ | _ | ⟨hkeys, hvalues⟩)
    exact ⟨hkeys, hvalues⟩
  · rintro ⟨hkeys, hvalues⟩
    exact .table hkeys hvalues

theorem Value.isProper_array_iff {ofHeaders : Bool} {items : List Value} :
    Value.IsProper (.array ofHeaders items) ↔ ∀ item ∈ items, item.IsProper := by
  constructor
  · rintro (_ | _ | _ | _ | _ | hitems | _)
    exact hitems
  · exact .array

theorem Value.isProper_array_concat {ofHeaders : Bool} {items : List Value} {v : Value}
    (hitems : ∀ item ∈ items, item.IsProper) (hv : v.IsProper) :
    Value.IsProper (.array ofHeaders (items ++ [v])) := by
  apply Value.isProper_array_iff.mpr
  intro item hitem
  rcases List.mem_append.mp hitem with hearlier | hlast
  · exact hitems item hearlier
  · rw [List.mem_singleton.mp hlast]
    exact hv

namespace Table

variable {t u : Table} {key : String} {v : Value}

/-! ## Changing a table -/

theorem isProper_nil : IsProper [] :=
  ⟨List.nodup_nil, nofun⟩

theorem get?_eq_none_iff : t.get? key = none ↔ key ∉ t.keys := by
  refine ⟨?_, get?_eq_none⟩
  intro hnone hmem
  obtain ⟨entry, hentry, rfl⟩ := List.mem_map.mp hmem
  rw [get?, List.lookup_eq_none_iff] at hnone
  simpa using hnone entry hentry

theorem mem_of_get? (h : t.get? key = some v) : (key, v) ∈ t := by
  rw [get?, List.lookup_eq_some_iff] at h
  obtain ⟨front, rest, rfl, -⟩ := h
  exact List.mem_append_right _ List.mem_cons_self

/-- Where no key occurs twice the order of the entries does not matter. -/
theorem get?_eq_some_iff (hkeys : t.keys.Nodup) : t.get? key = some v ↔ (key, v) ∈ t := by
  refine ⟨mem_of_get?, ?_⟩
  intro hmem
  obtain ⟨front, rest, rfl⟩ := List.append_of_mem hmem
  rw [get?, List.lookup_eq_some_iff]
  refine ⟨front, rest, rfl, ?_⟩
  intro entry hentry
  rw [keys, List.map_append, List.nodup_append] at hkeys
  have hne := hkeys.2.2 entry.1 (List.mem_map_of_mem hentry) key List.mem_cons_self
  simpa using Ne.symm hne

theorem get?_perm (hperm : t.Perm u) (hkeys : t.keys.Nodup) (key : String) :
    u.get? key = t.get? key := by
  apply Option.ext
  intro v
  have hkeys' : u.keys.Nodup := (hperm.map Prod.fst).nodup_iff.mp hkeys
  rw [get?_eq_some_iff hkeys', get?_eq_some_iff hkeys, hperm.mem_iff]

theorem IsProper.of_get? (ht : t.IsProper) (h : t.get? key = some v) : v.IsProper :=
  ht.values _ (mem_of_get? h)

theorem IsProper.perm (ht : t.IsProper) (hperm : t.Perm u) : u.IsProper :=
  ⟨(hperm.map Prod.fst).nodup_iff.mp ht.keys_nodup,
    fun entry hentry => ht.values entry (hperm.mem_iff.mpr hentry)⟩

theorem isProper_cons_iff :
    IsProper ((key, v) :: t) ↔ key ∉ t.keys ∧ v.IsProper ∧ t.IsProper := by
  constructor
  · rintro ⟨hkeys, hvalues⟩
    obtain ⟨hnew, hrest⟩ := List.nodup_cons.mp hkeys
    obtain ⟨hv, ht⟩ := List.forall_mem_cons.mp hvalues
    exact ⟨hnew, hv, hrest, ht⟩
  · rintro ⟨hnew, hv, hrest, ht⟩
    exact ⟨List.nodup_cons.mpr ⟨hnew, hrest⟩, List.forall_mem_cons.mpr ⟨hv, ht⟩⟩

/-- A table may stand in a document if it does so without one of its keys, which is new to it. -/
theorem isProper_middle_iff {front back : Table} :
    IsProper (front ++ (key, v) :: back) ↔
      key ∉ keys (front ++ back) ∧ v.IsProper ∧ IsProper (front ++ back) := by
  rw [← isProper_cons_iff]
  constructor
  · exact fun h => h.perm List.perm_middle
  · exact fun h => h.perm List.perm_middle.symm

theorem IsProper.append (ht : t.IsProper) (hnew : key ∉ t.keys) (hv : v.IsProper) :
    IsProper (t ++ [(key, v)]) := by
  rw [isProper_middle_iff, List.append_nil]
  exact ⟨hnew, hv, ht⟩

theorem keys_replace (t : Table) (key : String) (v : Value) : (t.replace key v).keys = t.keys := by
  rw [keys, replace, List.map_map, keys]
  apply List.map_congr_left
  intro entry hentry
  rw [Function.comp]
  split
  next heq => exact heq.symm
  next hne => rfl

theorem IsProper.replace (ht : t.IsProper) (hv : v.IsProper) : (t.replace key v).IsProper := by
  constructor
  · rw [keys_replace]
    exact ht.keys_nodup
  · intro entry hentry
    obtain ⟨old, hold, rfl⟩ := List.mem_map.mp hentry
    split
    · exact hv
    · exact ht.values old hold

theorem IsProper.erase (ht : t.IsProper) : (t.erase key).IsProper := by
  constructor
  · exact ht.keys_nodup.sublist (List.filter_sublist.map Prod.fst)
  · intro entry hentry
    exact ht.values entry (List.mem_filter.mp hentry).1

theorem not_mem_keys_erase (t : Table) (key : String) : key ∉ (t.erase key).keys := by
  intro hmem
  obtain ⟨entry, hentry, heq⟩ := List.mem_map.mp hmem
  have hne := (List.mem_filter.mp hentry).2
  simp [heq] at hne

/-! ## Assembly -/

/-- A change of a table below a path leaves a table that may stand in a document if it does so
where it is made. -/
theorem descend_isProper {fresh : Origin} {strict : Bool} {change : Origin → Table → Option Table}
    (hchange : ∀ {origin t u}, t.IsProper → change origin t = some u → u.IsProper)
    {path : List String} {origin : Origin} (ht : t.IsProper)
    (h : descend fresh strict change origin path t = some u) : u.IsProper := by
  induction path generalizing origin t u with
  | nil => exact hchange ht h
  | cons key path ih =>
      rw [descend] at h
      cases hget : t.get? key with
      | none =>
          simp only [hget] at h
          obtain ⟨sub, hsub, heq⟩ := Option.bind_eq_some_iff.mp h
          cases heq
          exact ht.append (get?_eq_none_iff.mp hget)
            (Value.isProper_table_iff.mpr (ih isProper_nil hsub))
      | some v =>
          have hv := ht.of_get? hget
          cases v with
          | table below sub =>
              simp only [hget] at h
              split at h
              · cases h
              · obtain ⟨changed, hchanged, heq⟩ := Option.bind_eq_some_iff.mp h
                cases heq
                exact ht.replace
                  (Value.isProper_table_iff.mpr (ih (Value.isProper_table_iff.mp hv) hchanged))
          | array ofHeaders items =>
              cases ofHeaders with
              | false =>
                  simp only [hget] at h
                  cases h
              | true =>
                  simp only [hget] at h
                  split at h
                  next below sub hlast =>
                    obtain ⟨changed, hchanged, heq⟩ := Option.bind_eq_some_iff.mp h
                    cases heq
                    have hitems := Value.isProper_array_iff.mp hv
                    have hsub := hitems _ (List.mem_of_getLast? hlast)
                    have hnew : Value.IsProper (.table below changed) :=
                      Value.isProper_table_iff.mpr (ih (Value.isProper_table_iff.mp hsub) hchanged)
                    exact ht.replace (Value.isProper_array_concat
                      (fun item hitem => hitems item (List.dropLast_subset items hitem)) hnew)
                  next => cases h
          | _ =>
              simp only [hget] at h
              cases h

theorem insert_isProper {origin : Origin} {pair : Pair} (ht : t.IsProper)
    (hvalue : pair.value.IsProper) (h : insert origin t pair = some u) : u.IsProper := by
  refine descend_isProper ?_ ht h
  intro origin t u ht h
  split at h
  · cases h
  · cases hget : t.get? pair.path.key with
    | some v =>
        rw [hget] at h
        cases h
    | none =>
        rw [hget] at h
        cases h
        exact ht.append (get?_eq_none_iff.mp hget) hvalue

theorem insertAll_isProper {origin : Origin} {pairs : List Pair} (ht : t.IsProper)
    (hpairs : ∀ p ∈ pairs, p.value.IsProper) (h : insertAll origin t pairs = some u) :
    u.IsProper := by
  induction pairs generalizing t with
  | nil =>
      cases h
      exact ht
  | cons p pairs ih =>
      rw [insertAll, List.foldlM_cons] at h
      obtain ⟨next, hinsert, hrest⟩ := Option.bind_eq_some_iff.mp h
      have hnext := insert_isProper ht (hpairs p List.mem_cons_self) hinsert
      exact ih hnext (fun q hq => hpairs q (List.mem_cons_of_mem p hq)) hrest

theorem openTable_isProper {path : KeyPath} {pairs : List Pair} (ht : t.IsProper)
    (hpairs : ∀ p ∈ pairs, p.value.IsProper) (h : openTable t path pairs = some u) :
    u.IsProper := by
  refine descend_isProper ?_ ht h
  intro origin t u ht h
  split at h
  next hget =>
    obtain ⟨sub, hsub, heq⟩ := Option.bind_eq_some_iff.mp h
    cases heq
    exact ht.append (get?_eq_none_iff.mp hget)
      (Value.isProper_table_iff.mpr (insertAll_isProper isProper_nil hpairs hsub))
  next sub hget =>
    obtain ⟨changed, hchanged, heq⟩ := Option.bind_eq_some_iff.mp h
    cases heq
    have hsub := Value.isProper_table_iff.mp (ht.of_get? hget)
    exact ht.erase.append (not_mem_keys_erase t path.key)
      (Value.isProper_table_iff.mpr (insertAll_isProper hsub hpairs hchanged))
  next => cases h

theorem openElement_isProper {path : KeyPath} {pairs : List Pair} (ht : t.IsProper)
    (hpairs : ∀ p ∈ pairs, p.value.IsProper) (h : openElement t path pairs = some u) :
    u.IsProper := by
  refine descend_isProper ?_ ht h
  intro origin t u ht h
  obtain ⟨element, helement, h⟩ := Option.bind_eq_some_iff.mp h
  have hnew : Value.IsProper (.table .header element) :=
    Value.isProper_table_iff.mpr (insertAll_isProper isProper_nil hpairs helement)
  dsimp only at h
  split at h
  next hget =>
    cases h
    exact ht.append (get?_eq_none_iff.mp hget)
      (Value.isProper_array_concat (List.forall_mem_nil _) hnew)
  next items hget =>
    cases h
    have hitems := Value.isProper_array_iff.mp (ht.of_get? hget)
    exact ht.replace (Value.isProper_array_concat hitems hnew)
  next => cases h

end Table

/-! ## Values -/

/-- Whether a reader of values takes only those that may stand in a document. -/
def ReadsProper (value : Reader Value) : Prop :=
  ∀ {cs v rest}, value cs = some (v, rest) → v.IsProper

theorem guardedInteger_isProper {n : Int} {more rest : List Char} {v : Value}
    (h : (do guard (isInteger64 n); return (Value.integer n, more)) = some (v, rest)) :
    v.IsProper := by
  by_cases hsmall : isInteger64 n = true
  · rw [guard, if_pos hsmall] at h
    cases h
    exact .integer hsmall
  · rw [guard, if_neg hsmall] at h
    cases h

theorem integer?_readsProper : ReadsProper integer? := by
  intro cs v rest h
  unfold integer? at h
  dsimp only at h
  split at h
  · exact guardedInteger_isProper h
  · obtain ⟨⟨n, more⟩, -, h⟩ := Option.bind_eq_some_iff.mp h
    exact guardedInteger_isProper h

theorem float?_readsProper : ReadsProper float? := by
  intro cs v rest h
  unfold float? at h
  dsimp only at h
  split at h
  · cases h
    exact .float _
  · obtain ⟨parts, -, h⟩ := Option.bind_eq_some_iff.mp h
    obtain ⟨allowed, -, h⟩ := Option.bind_eq_some_iff.mp h
    cases h
    exact .float _

theorem isProper_of_map {α : Type} {found : Option α} {make : α → Value × List Char}
    (hmake : ∀ a, (make a).1.IsProper) {v : Value} {rest : List Char}
    (h : found.map make = some (v, rest)) : v.IsProper := by
  obtain ⟨a, -, hmade⟩ := Option.map_eq_some_iff.mp h
  have hv := hmake a
  rw [hmade] at hv
  exact hv

theorem datetime?_readsProper : ReadsProper datetime? := by
  intro cs v rest h
  unfold datetime? at h
  split at h
  · split at h
    · cases h
      exact .datetime _
    · cases h
      exact .datetime _
  · exact isProper_of_map (fun _ => .datetime _) h

theorem plainValue_readsProper : ReadsProper plainValue := by
  intro cs v rest h
  unfold plainValue at h
  split at h
  · cases h
  · exact isProper_of_map (fun _ => .boolean true) h
  · exact isProper_of_map (fun _ => .boolean false) h
  · rcases Option.or_eq_some_iff.mp h with hdatetime | ⟨-, h⟩
    · exact datetime?_readsProper hdatetime
    · rcases Option.or_eq_some_iff.mp h with hfloat | ⟨-, hinteger⟩
      · exact float?_readsProper hfloat
      · exact integer?_readsProper hinteger

variable {reader : Reader Value} {cs rest : List Char}

theorem listItems_isProper (hreader : ReadsProper reader) {items : List Value}
    (h : listItems reader cs = some (items, rest)) : ∀ item ∈ items, item.IsProper := by
  fun_induction listItems reader cs generalizing items rest with
  | case1 => cases h
  | case2 =>
      cases h
      exact List.forall_mem_nil _
  | case3 => cases h
  | case4 _ start _ _ v more hread =>
      cases h
      exact List.forall_mem_cons.mpr ⟨hreader hread, List.forall_mem_nil _⟩
  | case5 _ start _ _ v more hread _ _ _ ih =>
      obtain ⟨⟨later, end'⟩, hlater, heq⟩ := Option.map_eq_some_iff.mp h
      cases heq
      exact List.forall_mem_cons.mpr ⟨hreader hread, ih hlater⟩
  | case6 => cases h
  | case7 => cases h

theorem pair_isProper (hreader : ReadsProper reader) {p : Pair}
    (h : pair reader cs = some (p, rest)) : p.value.IsProper := by
  unfold pair at h
  obtain ⟨⟨path, afterKey⟩, -, h⟩ := Option.bind_eq_some_iff.mp h
  obtain ⟨afterMark, -, h⟩ := Option.bind_eq_some_iff.mp h
  obtain ⟨⟨v, afterValue⟩, hread, h⟩ := Option.bind_eq_some_iff.mp h
  cases h
  exact hreader hread

theorem inlinePairs_isProper (hreader : ReadsProper reader) {pairs : List Pair}
    (h : inlinePairs reader cs = some (pairs, rest)) : ∀ p ∈ pairs, p.value.IsProper := by
  fun_induction inlinePairs reader cs generalizing pairs rest with
  | case1 => cases h
  | case2 _ p more hread =>
      cases h
      exact List.forall_mem_cons.mpr ⟨pair_isProper hreader hread, List.forall_mem_nil _⟩
  | case3 _ p more hread _ _ _ ih =>
      obtain ⟨⟨later, end'⟩, hlater, heq⟩ := Option.map_eq_some_iff.mp h
      cases heq
      exact List.forall_mem_cons.mpr ⟨pair_isProper hreader hread, ih hlater⟩
  | case4 => cases h
  | case5 => cases h

theorem inlineTable_readsProper (hreader : ReadsProper reader) :
    ReadsProper (inlineTable reader) := by
  intro cs v rest h
  unfold inlineTable at h
  split at h
  · cases h
    exact Value.isProper_table_iff.mpr Table.isProper_nil
  · obtain ⟨⟨pairs, more⟩, hpairs, h⟩ := Option.bind_eq_some_iff.mp h
    obtain ⟨t, ht, h⟩ := Option.bind_eq_some_iff.mp h
    cases h
    exact Value.isProper_table_iff.mpr
      (Table.insertAll_isProper Table.isProper_nil (inlinePairs_isProper hreader hpairs) ht)

theorem value_readsProper (depth : Nat) : ReadsProper (value depth) := by
  induction depth with
  | zero =>
      intro cs v rest h
      unfold value at h
      split at h
      · exact isProper_of_map (fun _ => .string _) h
      · exact isProper_of_map (fun _ => .string _) h
      · cases h
      · cases h
      · exact plainValue_readsProper h
  | succ depth ih =>
      intro cs v rest h
      unfold value at h
      split at h
      · exact isProper_of_map (fun _ => .string _) h
      · exact isProper_of_map (fun _ => .string _) h
      · obtain ⟨⟨items, more⟩, hitems, heq⟩ := Option.map_eq_some_iff.mp h
        cases heq
        exact .array (listItems_isProper ih hitems)
      · exact inlineTable_readsProper ih h
      · exact plainValue_readsProper h

/-! ## Documents -/

/-- Whether the value on a line, if there is one, may stand in a document. -/
def Line.IsProper (content : Line) : Prop :=
  ∀ p, content = .pair p → p.value.IsProper

theorem lineContent_isProper {content : Line} (h : lineContent cs = some (content, rest)) :
    content.IsProper := by
  intro p hp
  subst hp
  unfold lineContent at h
  split at h
  · obtain ⟨⟨path, more⟩, -, h⟩ := Option.bind_eq_some_iff.mp h
    obtain ⟨after, -, h⟩ := Option.bind_eq_some_iff.mp h
    cases h
  · obtain ⟨⟨path, more⟩, -, h⟩ := Option.bind_eq_some_iff.mp h
    obtain ⟨after, -, h⟩ := Option.bind_eq_some_iff.mp h
    cases h
  · cases h
  · split at h
    · cases h
    · obtain ⟨⟨q, more⟩, hpair, heq⟩ := Option.map_eq_some_iff.mp h
      cases heq
      exact pair_isProper (value_readsProper maxDepth) hpair

theorem line_isProper {content : Line} (h : line cs = some (content, rest)) :
    content.IsProper := by
  unfold line at h
  obtain ⟨⟨read, more⟩, hcontent, h⟩ := Option.bind_eq_some_iff.mp h
  obtain ⟨after, -, h⟩ := Option.bind_eq_some_iff.mp h
  cases h
  exact lineContent_isProper hcontent

theorem readAll_forall {α : Type} {step : Reader α} {holds : α → Prop}
    (hstep : ∀ {cs a rest}, step cs = some (a, rest) → holds a) {all : List α}
    (h : readAll step cs = some all) : ∀ a ∈ all, holds a := by
  fun_induction readAll step cs generalizing all with
  | case1 =>
      cases h
      exact List.forall_mem_nil _
  | case2 => cases h
  | case3 _ _ a more hread _ ih =>
      obtain ⟨later, hlater, rfl⟩ := Option.map_eq_some_iff.mp h
      exact List.forall_mem_cons.mpr ⟨hstep hread, ih hlater⟩
  | case4 => cases h

theorem sections_isProper {lines : List Line} (hlines : ∀ line ∈ lines, line.IsProper) :
    (∀ p ∈ (sections lines).1, p.value.IsProper) ∧
      ∀ s ∈ (sections lines).2, ∀ p ∈ s.pairs, p.value.IsProper := by
  induction lines with
  | nil => exact ⟨List.forall_mem_nil _, List.forall_mem_nil _⟩
  | cons line lines ih =>
      obtain ⟨hline, hrest⟩ := List.forall_mem_cons.mp hlines
      obtain ⟨hpairs, hlater⟩ := ih hrest
      cases line with
      | blank => exact ⟨hpairs, hlater⟩
      | pair p => exact ⟨List.forall_mem_cons.mpr ⟨hline p rfl, hpairs⟩, hlater⟩
      | table path => exact ⟨List.forall_mem_nil _, List.forall_mem_cons.mpr ⟨hpairs, hlater⟩⟩
      | element path => exact ⟨List.forall_mem_nil _, List.forall_mem_cons.mpr ⟨hpairs, hlater⟩⟩

theorem addSection_isProper {t u : Table} (ht : t.IsProper) {s : Section}
    (hpairs : ∀ p ∈ s.pairs, p.value.IsProper) (h : t.addSection s = some u) : u.IsProper := by
  obtain ⟨header, pairs⟩ := s
  cases header with
  | table path => exact Table.openTable_isProper ht hpairs h
  | element path => exact Table.openElement_isProper ht hpairs h

theorem addSections_isProper {later : List Section} {t u : Table} (ht : t.IsProper)
    (hlater : ∀ s ∈ later, ∀ p ∈ s.pairs, p.value.IsProper)
    (h : later.foldlM Table.addSection t = some u) : u.IsProper := by
  induction later generalizing t with
  | nil =>
      cases h
      exact ht
  | cons s later ih =>
      obtain ⟨hs, hrest⟩ := List.forall_mem_cons.mp hlater
      obtain ⟨next, hnext, h⟩ := Option.bind_eq_some_iff.mp h
      exact ih (addSection_isProper ht hs hnext) hrest h

theorem assemble_isProper {pairs : List Pair} {later : List Section} {t : Table}
    (hpairs : ∀ p ∈ pairs, p.value.IsProper)
    (hlater : ∀ s ∈ later, ∀ p ∈ s.pairs, p.value.IsProper) (h : assemble pairs later = some t) :
    t.IsProper := by
  obtain ⟨start, hstart, h⟩ := Option.bind_eq_some_iff.mp h
  exact addSections_isProper (Table.insertAll_isProper Table.isProper_nil hpairs hstart) hlater h

/-- No key occurs twice in a table of a document, and its integers are small. -/
theorem read?_isProper {s : String} {t : Table} (h : read? s = some t) : t.IsProper := by
  unfold read? at h
  obtain ⟨lines, hlines, h⟩ := Option.bind_eq_some_iff.mp h
  have hproper := sections_isProper (readAll_forall line_isProper hlines)
  exact assemble_isProper hproper.1 hproper.2 h

end Courier.Toml
