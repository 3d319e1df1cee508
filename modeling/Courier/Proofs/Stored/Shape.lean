import Courier.Proofs.Stored.Field
import Courier.Proofs.Toml.Proper

/-!
# Changes that readers do not see

A record is read field by field, by name. So the order of its keys does not matter, and keys that it
does not know are passed over. A shape tells which tables of a value are read as records; with it
come the changes of a value that are not seen, and readers that do not see them.
-/

namespace Courier.Stored

open Toml (Origin Value Table)

/-- How the tables of a value are read. -/
inductive Shape
  /-- As parts of a value without records. -/
  | plain
  /-- As a record with these fields. -/
  | record (fields : List (String × Shape))
  /-- As parts of a list. -/
  | list (item : Shape)

namespace Shape

/-- The shape of what stands under a key. -/
def under (key : String) : Shape → Shape
  | record fields => (fields.lookup key).getD plain
  | _ => plain

/-- The shape of the elements of a list. -/
def element : Shape → Shape
  | list shape => shape
  | _ => plain

/-- Whether no list stands in the place of a record. -/
inductive NoListForRecord : Shape → Value → Prop
  | plain (v : Value) : NoListForRecord plain v
  | list {shape : Shape} {v : Value}
      (hitems : ∀ ofHeaders items, v = .array ofHeaders items →
        ∀ w ∈ items, NoListForRecord shape w) : NoListForRecord (list shape) v
  | record {fields : List (String × Shape)} {v : Value}
      (hlist : ∀ ofHeaders items, v ≠ .array ofHeaders items)
      (hfields : ∀ origin t, v = .table origin t → ∀ key shape w,
        fields.lookup key = some shape → Table.get? t key = some w → NoListForRecord shape w) :
      NoListForRecord (record fields) v

/-- One change of a value that is not seen: the keys of one of its tables come in another order, or
one of its records gets a key that it does not know. -/
inductive Changes : Shape → Value → Value → Prop
  | permute {shape : Shape} {origin : Origin} {t u : Table} (hperm : t.Perm u) :
      Changes shape (.table origin t) (.table origin u)
  | insert {fields : List (String × Shape)} {origin : Origin} {front back : Table} {key : String}
      {v : Value} (hv : v.IsProper) (hnew : key ∉ Table.keys (front ++ back))
      (hunknown : fields.lookup key = none) :
      Changes (record fields) (.table origin (front ++ back))
        (.table origin (front ++ (key, v) :: back))
  | entry {shape : Shape} {origin : Origin} {front back : Table} {key : String} {v w : Value}
      (hunder : Changes (shape.under key) v w) :
      Changes shape (.table origin (front ++ (key, v) :: back))
        (.table origin (front ++ (key, w) :: back))
  | item {shape : Shape} {ofHeaders : Bool} {front back : List Value} {v w : Value}
      (hitem : Changes shape.element v w) :
      Changes shape (.array ofHeaders (front ++ v :: back))
        (.array ofHeaders (front ++ w :: back))

variable {shape : Shape} {fields : List (String × Shape)} {v w : Value} {t u : Table}
  {origin : Origin}

/-! ## What a change keeps -/

theorem Changes.isProper (h : Changes shape v w) (hv : v.IsProper) : w.IsProper := by
  induction h with
  | permute hperm =>
      exact Value.isProper_table_iff.mpr ((Value.isProper_table_iff.mp hv).perm hperm)
  | insert hinserted hnew =>
      rw [Value.isProper_table_iff] at hv ⊢
      exact Table.isProper_middle_iff.mpr ⟨hnew, hinserted, hv⟩
  | entry _ ih =>
      rw [Value.isProper_table_iff, Table.isProper_middle_iff] at hv ⊢
      exact ⟨hv.1, ih hv.2.1, hv.2.2⟩
  | item _ ih =>
      rw [Value.isProper_array_iff, List.forall_mem_append, List.forall_mem_cons] at hv ⊢
      exact ⟨hv.1, ih hv.2.1, hv.2.2⟩

/-- What a change does to what stands under a key. -/
inductive FieldChange (shape : Shape) : Option Value → Option Value → Prop
  | same (found : Option Value) : FieldChange shape found found
  | changed {v w : Value} (hv : v.IsProper) (hlist : NoListForRecord shape v)
      (h : Changes shape v w) : FieldChange shape (some v) (some w)

/-- Whether the fields of a record are the same up to changes that are not seen. -/
def KeepsFields (fields : List (String × Shape)) (t u : Table) : Prop :=
  ∀ key shape, fields.lookup key = some shape → FieldChange shape (t.get? key) (u.get? key)

theorem get?_middle {front back : Table} {key : String} (hnew : key ∉ Table.keys (front ++ back))
    (v : Value) (other : String) : Table.get? (front ++ (key, v) :: back) other =
      if other = key then some v else Table.get? (front ++ back) other := by
  have hfront : key ∉ Table.keys front := fun hmem => hnew (by simp [Table.keys_append, hmem])
  rw [Table.get?_append, Table.get?_append, Table.get?_cons]
  split
  next heq =>
    subst heq
    rw [Table.get?_eq_none hfront, Option.none_or]
  next => rfl

theorem get?_middle_self {front back : Table} {key : String}
    (hnew : key ∉ Table.keys (front ++ back)) (v : Value) :
    Table.get? (front ++ (key, v) :: back) key = some v := by
  rw [get?_middle hnew, if_pos rfl]

theorem noListForRecord_table
    (hfields : ∀ key shape w, fields.lookup key = some shape → t.get? key = some w →
      NoListForRecord shape w) : NoListForRecord (.record fields) (.table origin t) := by
  refine .record (fun _ _ heq => nomatch heq) ?_
  intro _ _ heq
  cases heq
  exact hfields

theorem NoListForRecord.of_field (h : NoListForRecord (.record fields) (.table origin t))
    {key : String} {shape : Shape} {w : Value} (hfield : fields.lookup key = some shape)
    (hget : t.get? key = some w) : NoListForRecord shape w := by
  cases h with
  | record _ hfields => exact hfields _ _ rfl key shape w hfield hget

/-- A change of a record keeps its fields. -/
theorem Changes.keepsFields (h : Changes (record fields) (.table origin t) w)
    (ht : t.IsProper) (hlist : NoListForRecord (record fields) (.table origin t)) :
    ∃ u, w = .table origin u ∧ KeepsFields fields t u := by
  cases h with
  | @permute _ _ _ u hperm =>
      refine ⟨u, rfl, fun key shape _ => ?_⟩
      rw [Table.get?_perm hperm ht.keys_nodup]
      exact .same _
  | @insert _ _ front back key v hv hnew hunknown =>
      refine ⟨_, rfl, fun other shape hfield => ?_⟩
      have hne : other ≠ key := by
        rintro rfl
        rw [hunknown] at hfield
        cases hfield
      rw [get?_middle hnew, if_neg hne]
      exact .same _
  | @entry _ _ front back key v w hunder =>
      obtain ⟨hnew, hv, -⟩ := Table.isProper_middle_iff.mp ht
      refine ⟨_, rfl, fun other shape hfield => ?_⟩
      rw [get?_middle hnew, get?_middle hnew]
      split
      next heq =>
        subst heq
        rw [under, hfield] at hunder
        exact .changed hv (hlist.of_field hfield (get?_middle_self hnew v)) hunder
      next => exact .same _

/-- No list comes into the place of a record. -/
theorem Changes.noListForRecord (h : Changes shape v w) (hv : v.IsProper)
    (hlist : NoListForRecord shape v) : NoListForRecord shape w := by
  induction h with
  | @permute shape _ t u hperm =>
      cases shape with
      | plain => exact .plain _
      | list shape => exact .list fun _ _ heq => nomatch heq
      | record fields =>
          refine noListForRecord_table fun key shape w hfield hget => ?_
          rw [Table.get?_perm hperm (Value.isProper_table_iff.mp hv).keys_nodup] at hget
          exact hlist.of_field hfield hget
  | @insert fields _ front back key v hinserted hnew hunknown =>
      refine noListForRecord_table fun other shape w hfield hget => ?_
      rw [get?_middle hnew] at hget
      split at hget
      next heq =>
        rw [heq, hunknown] at hfield
        cases hfield
      next => exact hlist.of_field hfield hget
  | @entry shape _ front back key v w _ ih =>
      cases shape with
      | plain => exact .plain _
      | list shape => exact .list fun _ _ heq => nomatch heq
      | record fields =>
          obtain ⟨hnew, hvalue, -⟩ := Table.isProper_middle_iff.mp (Value.isProper_table_iff.mp hv)
          refine noListForRecord_table fun other shape found hfield hget => ?_
          rw [get?_middle hnew] at hget
          split at hget
          next heq =>
            cases hget
            subst heq
            rw [under, hfield] at ih
            exact ih hvalue (hlist.of_field hfield (get?_middle_self hnew v))
          next hne =>
            apply hlist.of_field hfield
            rw [get?_middle hnew, if_neg hne]
            exact hget
  | @item shape _ front back v w _ ih =>
      cases hlist with
      | plain => exact .plain _
      | record hlist => exact absurd rfl (hlist _ _)
      | list hitems =>
          have hold := hitems _ _ rfl
          rw [List.forall_mem_append, List.forall_mem_cons] at hold
          rw [Value.isProper_array_iff, List.forall_mem_append, List.forall_mem_cons] at hv
          refine .list fun _ _ heq => ?_
          cases heq
          rw [List.forall_mem_append, List.forall_mem_cons]
          exact ⟨hold.1, ih hv.2.1 hold.2.1, hold.2.2⟩

end Shape

/-! ## Readers that do not see the changes -/

open Shape (Changes FieldChange KeepsFields NoListForRecord)

variable {α : Type} {shape : Shape} {fields : List (String × Shape)} {v w : Value}
  {read? : Value → Option α}

/-- Whether a reader does not see the changes of values of a shape. -/
def Overlooks (shape : Shape) (read? : Value → Option α) : Prop :=
  ∀ {v w}, v.IsProper → NoListForRecord shape v → Changes shape v w → read? w = read? v

theorem text?_overlooks (shape : Shape) : Overlooks shape text? := by
  intro v w _ _ h
  cases h <;> rfl

theorem flag?_overlooks (shape : Shape) : Overlooks shape flag? := by
  intro v w _ _ h
  cases h <;> rfl

theorem word32?_overlooks (shape : Shape) : Overlooks shape word32? := by
  intro v w _ _ h
  cases h <;> rfl

theorem word64?_overlooks (shape : Shape) : Overlooks shape word64? := by
  intro v w _ _ h
  cases h <;> rfl

theorem instant?_overlooks (shape : Shape) : Overlooks shape instant? := by
  intro v w _ _ h
  cases h <;> rfl

theorem isEmptyMark_eq (reading : Reading) (h : Changes .plain v w) :
    isEmptyMark reading w = isEmptyMark reading v := by
  cases h with
  | @permute _ _ t u hperm =>
      cases t with
      | nil => rw [hperm.nil_eq]
      | cons entry t =>
          cases u with
          | nil => cases hperm.eq_nil
          | cons entry u => rfl
  | @entry _ _ front back key v w => cases front <;> rfl
  | @item _ _ front back v w => cases front <;> rfl

section Word

variable {reading : Reading} {ofWord? : String → Option α} {origin : Origin} {t u : Table}

theorem word?_table_of_length_ne (h : t.length ≠ 1) :
    word? reading ofWord? (.table origin t) = none := by
  cases t with
  | nil => rfl
  | cons entry others =>
      cases others with
      | nil => exact absurd rfl h
      | cons _ _ => rfl

theorem word?_perm (hperm : t.Perm u) :
    word? reading ofWord? (.table origin u) = word? reading ofWord? (.table origin t) := by
  by_cases hlength : t.length = 1
  · obtain ⟨entry, rfl⟩ := List.length_eq_one_iff.mp hlength
    rw [List.singleton_perm.mp hperm]
  · rw [word?_table_of_length_ne hlength,
      word?_table_of_length_ne fun h => hlength (hperm.length_eq.trans h)]

theorem word?_entry {front back : Table} {key : String} {mark mark' : Value}
    (h : Changes .plain mark mark') :
    word? reading ofWord? (.table origin (front ++ (key, mark') :: back)) =
      word? reading ofWord? (.table origin (front ++ (key, mark) :: back)) := by
  by_cases hothers : front = [] ∧ back = []
  · obtain ⟨rfl, rfl⟩ := hothers
    rw [List.nil_append, word?, List.nil_append, word?, isEmptyMark_eq reading h]
  · have hlength (v : Value) : (front ++ (key, v) :: back).length ≠ 1 := by
      rw [List.length_append, List.length_cons]
      rw [← List.length_eq_zero_iff, ← List.length_eq_zero_iff] at hothers
      omega
    rw [word?_table_of_length_ne (hlength mark), word?_table_of_length_ne (hlength mark')]

end Word

theorem word?_overlooks (reading : Reading) (ofWord? : String → Option α) :
    Overlooks .plain (word? reading ofWord?) := by
  intro v w _ _ h
  cases h with
  | permute hperm => exact word?_perm hperm
  | entry hunder => exact word?_entry hunder
  | item hitem => rfl

variable {found changed : Option Value}

theorem required_eq (h : FieldChange shape found changed) (hread : Overlooks shape read?) :
    required read? changed = required read? found := by
  cases h with
  | same => rfl
  | changed hv hlist h => exact hread hv hlist h

theorem optional_eq (h : FieldChange shape found changed) (hread : Overlooks shape read?) :
    optional read? changed = optional read? found := by
  cases h with
  | same => rfl
  | changed hv hlist h => rw [optional, optional, hread hv hlist h]

theorem withDefault_eq (default : α) (h : FieldChange shape found changed)
    (hread : Overlooks shape read?) :
    withDefault default read? changed = withDefault default read? found := by
  cases h with
  | same => rfl
  | changed hv hlist h => exact hread hv hlist h

/-- A changed record is read from tables with the same fields. -/
theorem recordTable?_of_changes (reading : Reading) (names : List String) (hv : v.IsProper)
    (hlist : NoListForRecord (.record fields) v) (h : Changes (.record fields) v w) :
    ∃ t u, recordTable? reading names v = some t ∧ recordTable? reading names w = some u ∧
      KeepsFields fields t u := by
  cases v with
  | table origin t =>
      obtain ⟨u, rfl, hfields⟩ := h.keepsFields (Value.isProper_table_iff.mp hv) hlist
      exact ⟨t, u, rfl, rfl, hfields⟩
  | array ofHeaders items =>
      cases hlist with
      | record hlist => exact absurd rfl (hlist _ _)
  | _ => cases h

end Courier.Stored
