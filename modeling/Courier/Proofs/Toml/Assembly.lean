import Courier.Proofs.Toml.Section

/-!
# The sections of a table make up the table again

Putting the sections of a written table together in their order gives the table back, up to how its
tables came to be. The argument goes down level by level: the sections below a key only touch the
value of that key, so a level can be assembled on its own.
-/

namespace Courier.Toml

namespace Table

/-! ## Looking keys up -/

/-- The keys of a table. -/
def keys (t : Table) : List String :=
  t.map Prod.fst

theorem get?_eq_none {t : Table} {key : String} (hnew : key ∉ t.keys) : t.get? key = none := by
  rw [get?, List.lookup_eq_none_iff]
  intro entry hentry
  simp only [bne_iff_ne]
  rintro rfl
  exact hnew (List.mem_map_of_mem hentry)

theorem get?_append_single {t : Table} {key : String} (hnew : key ∉ t.keys) (v : Value) :
    Table.get? (t ++ [(key, v)]) key = some v := by
  have hnone := get?_eq_none hnew
  rw [get?] at hnone ⊢
  rw [List.lookup_append, hnone]
  simp

theorem replace_append_single {t : Table} {key : String} (hnew : key ∉ t.keys) (v new : Value) :
    Table.replace (t ++ [(key, v)]) key new = t ++ [(key, new)] := by
  have hsame : t.map (fun entry => if entry.1 = key then (key, new) else entry) = t := by
    conv => rhs; rw [← List.map_id t]
    apply List.map_congr_left
    intro entry hentry
    rw [if_neg]
    · rfl
    · rintro rfl
      exact hnew (List.mem_map_of_mem hentry)
  simp [replace, hsame]

/-! ## Lines -/

/-- Pairs under new and different keys are appended in their order. -/
theorem insertAll_lines {pairs : List Pair} (hlines : ∀ p ∈ pairs, p.IsLine) {start : Table}
    (hdistinct : (start.keys ++ pairs.map (·.path.key)).Nodup) :
    insertAll .header start pairs = some (start ++ pairs.map fun p => (p.path.key, p.value)) := by
  -- The table that is built grows, so the lines are read into any table with other keys.
  induction pairs generalizing start with
  | nil => simp [insertAll]
  | cons p pairs ih =>
      obtain ⟨⟨through, key⟩, v⟩ := p
      have hthrough : through = [] := (hlines _ List.mem_cons_self).through_eq
      subst hthrough
      rw [List.map_cons, ← List.singleton_append, ← List.append_assoc] at hdistinct
      have hnew : key ∉ start.keys := by
        have hstart := (List.nodup_append.mp (List.nodup_append.mp hdistinct).1).2.2
        exact fun hmem => hstart key hmem key List.mem_cons_self rfl
      have hinsert : insert .header start ⟨⟨[], key⟩, v⟩ = some (start ++ [(key, v)]) := by
        simp [insert, descend, Origin.isDotted, get?_eq_none hnew]
      have htail : insertAll .header (start ++ [(key, v)]) pairs =
          some (start ++ [(key, v)] ++ pairs.map fun p => (p.path.key, p.value)) :=
        ih (fun q hq => hlines q (List.mem_cons_of_mem _ hq)) (by simpa [keys] using hdistinct)
      rw [insertAll, List.foldlM_cons, hinsert]
      change insertAll .header (start ++ [(key, v)]) pairs = _
      rw [htail]
      simp

/-! ## Going down to a key -/

theorem descend_append (fresh : Origin) (strict : Bool) (change : Origin → Table → Option Table)
    (path more : List String) (origin : Origin) (t : Table) :
    descend fresh strict change origin (path ++ more) t =
      descend fresh strict (fun origin t => descend fresh strict change origin more t)
        origin path t := by
  induction path generalizing origin t with
  | nil => rfl
  | cons key path ih =>
      rw [List.cons_append, descend, descend]
      simp only [ih]

/-- Changes the table under a key as headers reach it. -/
def within (key : String) (change : Table → Option Table) (t : Table) : Option Table :=
  descend .implied false (fun _ t => change t) .header [key] t

theorem within_new {t : Table} {key : String} (hnew : key ∉ t.keys)
    (change : Table → Option Table) :
    within key change t = (change []).map fun sub => t ++ [(key, .table .implied sub)] := by
  rw [within, descend, get?_eq_none hnew]
  simp only [descend]
  cases change [] <;> rfl

theorem within_table {t : Table} {key : String} (hnew : key ∉ t.keys) {origin : Origin}
    (horigin : origin ≠ .braces) (change : Table → Option Table) (sub : Table) :
    within key change (t ++ [(key, .table origin sub)]) =
      (change sub).map fun sub => t ++ [(key, .table origin sub)] := by
  rw [within, descend, get?_append_single hnew]
  simp only [horigin, Bool.false_and, decide_false, Bool.or_self, Bool.false_eq_true, if_false,
    descend, replace_append_single hnew]
  cases change sub <;> rfl

theorem within_list {t : Table} {key : String} (hnew : key ∉ t.keys) (origin : Origin)
    (items : List Value) (change : Table → Option Table) (sub : Table) :
    within key change (t ++ [(key, .array true (items ++ [.table origin sub]))]) =
      (change sub).map fun sub => t ++ [(key, .array true (items ++ [.table origin sub]))] := by
  rw [within, descend, get?_append_single hnew]
  simp only [List.getLast?_append, List.getLast?_singleton, Option.some_or, descend,
    List.dropLast_concat, replace_append_single hnew]
  cases change sub <;> rfl

end Table

/-! ## Sections below a key -/

/-- A header seen from outside a table that stands under a key. -/
def Header.under (key : String) : Header → Header
  | .table path => .table ⟨key :: path.through, path.key⟩
  | .element path => .element ⟨key :: path.through, path.key⟩

/-- A section seen from outside a table that stands under a key. -/
def Section.under (key : String) (s : Section) : Section :=
  ⟨s.header.under key, s.pairs⟩

/-- A section below a key changes the table under that key only. -/
theorem addSection_under (key : String) (s : Section) (t : Table) :
    t.addSection (s.under key) = t.within key fun sub => sub.addSection s := by
  obtain ⟨header, pairs⟩ := s
  -- How the table under the key came to be only matters to a path that ends there.
  cases header with
  | table path =>
      obtain ⟨through, last⟩ := path
      change Table.descend .implied false _ .header ([key] ++ through) t = _
      rw [Table.descend_append]
      cases through <;> rfl
  | element path =>
      obtain ⟨through, last⟩ := path
      change Table.descend .implied false _ .header ([key] ++ through) t = _
      rw [Table.descend_append]
      cases through <;> rfl

/-- Sections below a key are put together in a place that their key leads to. -/
theorem addSections_under {key : String} {place : Table → Table}
    (hplace : ∀ change sub, Table.within key change (place sub) = (change sub).map place)
    (later : List Section) (sub : Table) :
    (later.map (Section.under key)).foldlM Table.addSection (place sub) =
      (later.foldlM Table.addSection sub).map place := by
  induction later generalizing sub with
  | nil => rfl
  | cons s later ih =>
      rw [List.map_cons, List.foldlM_cons, List.foldlM_cons, addSection_under, hplace]
      cases hs : sub.addSection s with
      | none => rfl
      | some next => exact ih next

/-- Sections below a new key imply a table under it. -/
theorem addSections_new {key : String} {t : Table} (hnew : key ∉ t.keys) {later : List Section}
    (hlater : later ≠ []) :
    (later.map (Section.under key)).foldlM Table.addSection t =
      (later.foldlM Table.addSection []).map fun sub => t ++ [(key, .table .implied sub)] := by
  -- Only the first of the sections finds nothing under the key.
  cases later with
  | nil => exact absurd rfl hlater
  | cons s later =>
      rw [List.map_cons, List.foldlM_cons, List.foldlM_cons, addSection_under,
        Table.within_new hnew]
      cases hs : Table.addSection [] s with
      | none => rfl
      | some next =>
          have himplied : Origin.implied ≠ .braces := by decide
          exact addSections_under (fun change sub => Table.within_table hnew himplied change sub)
            later next

mutual

theorem sections_under (key : String) (through : List String) (last : String) : (v : Value) →
    v.sections (key :: through) last = (v.sections through last).map (Section.under key)
  | .table _ t => by
      have hentries := entrySections_under key (through ++ [last]) t
      rw [Value.sections, Value.sections, List.map_append, ← hentries]
      split <;> rfl
  | .array true items => itemSections_under key through last items
  | .array false _ => rfl
  | .string _ => rfl
  | .integer _ => rfl
  | .float _ => rfl
  | .boolean _ => rfl
  | .datetime _ => rfl

theorem itemSections_under (key : String) (through : List String) (last : String) :
    (items : List Value) →
    itemSections (key :: through) last items =
      (itemSections through last items).map (Section.under key)
  | [] => rfl
  | .table _ t :: rest => by
      have hentries := entrySections_under key (through ++ [last]) t
      have hrest := itemSections_under key through last rest
      rw [itemSections, itemSections, List.map_cons, List.map_append, ← hentries, ← hrest]
      rfl
  | .array _ _ :: rest => itemSections_under key through last rest
  | .string _ :: rest => itemSections_under key through last rest
  | .integer _ :: rest => itemSections_under key through last rest
  | .float _ :: rest => itemSections_under key through last rest
  | .boolean _ :: rest => itemSections_under key through last rest
  | .datetime _ :: rest => itemSections_under key through last rest

/-- The sections of a table that stands under a key are its own, seen from outside. -/
theorem entrySections_under (key : String) (through : List String) :
    (t : List (String × Value)) →
    entrySections (key :: through) t = (entrySections through t).map (Section.under key)
  | [] => rfl
  | (last, v) :: rest => by
      have hvalue := sections_under key through last v
      have hrest := entrySections_under key through rest
      rw [entrySections, entrySections, List.map_append, hvalue, hrest]

end

end Courier.Toml
