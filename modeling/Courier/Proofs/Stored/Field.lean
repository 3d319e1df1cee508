import Courier.Proofs.Time.Timestamp
import Courier.Proofs.Toml.RoundTrip
import Courier.Stored.Field

/-!
# Reading fields back

What is found under the keys of a table that was written and read, and which fields a table may be
made of so that it is read back.
-/

namespace Courier.Toml

/-! ## Looking up what was read back -/

@[simp]
theorem Table.get?_nil (key : String) : Table.get? [] key = none :=
  rfl

@[simp]
theorem Table.get?_cons (key : String) (entry : String × Value) (t : Table) :
    Table.get? (entry :: t) key = if key = entry.1 then some entry.2 else t.get? key := by
  rw [get?, List.lookup_cons]
  by_cases hkey : key = entry.1
  · rw [hkey, beq_self_eq_true, if_pos rfl]
  · rw [beq_false_of_ne hkey, if_neg hkey]
    rfl

@[simp]
theorem Table.get?_append (t u : Table) (key : String) :
    Table.get? (t ++ u) key = (t.get? key).or (u.get? key) :=
  List.lookup_append

@[simp]
theorem Table.get?_rereadEntries (t : Table) (key : String) :
    Table.get? (rereadEntries t) key = (t.get? key).map Value.reread := by
  induction t with
  | nil => rfl
  | cons entry t ih =>
      rw [rereadEntries, get?_cons, get?_cons, ih]
      split <;> rfl

/-! ## Leaves -/

theorem isLeaf_string (s : String) : Value.IsLeaf (.string s) :=
  ⟨rfl, .string s⟩

theorem isLeaf_boolean (b : Bool) : Value.IsLeaf (.boolean b) :=
  ⟨rfl, .boolean b⟩

theorem isLeaf_integer {n : Nat} (hn : n ≤ maxInteger) : Value.IsLeaf (.integer n) :=
  ⟨rfl, .integer hn⟩

/-! ## Tables of fields -/

theorem Table.keys_append (t u : Table) : Table.keys (t ++ u) = t.keys ++ u.keys :=
  List.map_append

/-- A table is read back if its keys are among some bare ones in their order, and its tables come
last and are read back themselves. -/
theorem isReadBack_of_fields {levels : Nat} {leaves branches : Table} (fields : List String)
    (hleaf : ∀ entry ∈ leaves, entry.2.IsLeaf)
    (hbranch : ∀ entry ∈ branches, entry.2.IsBranch (Table.IsReadBack levels))
    (hkeys : (leaves.keys ++ branches.keys).Sublist fields)
    (hfields : fields.Nodup ∧ ∀ key ∈ fields, isBareKey key = true) :
    Table.IsReadBack (levels + 1) (leaves ++ branches) := by
  rw [← Table.keys_append] at hkeys
  have htidy : Table.IsTidy (Table.IsReadBack levels) leaves branches := by
    constructor
    · exact hleaf
    · exact hbranch
    · exact fun key hkey => hfields.2 key (hkeys.subset hkey)
    · exact hkeys.nodup hfields.1
  exact htidy.isReadBack

/-- A table of plain values is read back. -/
theorem isReadBack_leaves {levels : Nat} {t : Table} (fields : List String)
    (hleaf : ∀ entry ∈ t, entry.2.IsLeaf) (hkeys : t.keys.Sublist fields)
    (hfields : fields.Nodup ∧ ∀ key ∈ fields, isBareKey key = true) :
    t.IsReadBack (levels + 1) := by
  have hkeys' : (t.keys ++ Table.keys []).Sublist fields := by
    rw [← Table.keys_append, List.append_nil]
    exact hkeys
  have hback : Table.IsReadBack (levels + 1) (t ++ []) :=
    isReadBack_of_fields fields hleaf (fun entry hentry => absurd hentry List.not_mem_nil) hkeys'
      hfields
  rwa [List.append_nil] at hback

/-- More levels do no harm. -/
theorem Table.IsReadBack.mono {few many : Nat} {t : Table} (ht : t.IsReadBack few)
    (hle : few ≤ many) : t.IsReadBack many where
  lines := ht.lines
  sections s hs :=
    ⟨(ht.sections s hs).bare, Nat.lt_of_lt_of_le (ht.sections s hs).length_lt hle,
      (ht.sections s hs).lines⟩
  shown := ht.shown
  assembled := ht.assembled

end Courier.Toml

namespace Courier.Stored

open Toml (Value Table)

/-! ## Fields that may be missing -/

variable {α : Type}

@[simp]
theorem get?_optional (key field : String) (write : α → Value) (a : Option α) :
    ( entry? field write a).get? key = if key = field then a.map write else none := by
  cases a with
  | none => exact (ite_self none).symm
  | some a =>
      rw [ entry?, Table.get?_cons]
      rfl

theorem forall_mem_optional {key : String} {write : α → Value} {a : Option α}
    {P : String × Value → Prop} (h : ∀ a, P (key, write a)) :
    ∀ entry ∈ entry? key write a, P entry := by
  cases a with
  | none => exact fun entry hentry => absurd hentry List.not_mem_nil
  | some a =>
      intro entry hentry
      rw [ entry?, List.mem_singleton] at hentry
      exact hentry ▸ h a

/-- An optional field adds its own key at most. -/
theorem keys_optional_sublist (key : String) (write : α → Value) (a : Option α) :
    ( entry? key write a).keys.Sublist [key] := by
  cases a with
  | none => exact List.nil_sublist _
  | some a => exact List.Sublist.refl _

theorem optional_map {read? : Value → Option α} {write : α → Value}
    (hread : ∀ a, read? (write a).reread = some a) (a : Option α) :
    optional read? (a.map (Value.reread ∘ write)) = some a := by
  cases a with
  | none => rfl
  | some a => exact congrArg (Option.map some) (hread a)

/-! ## Values of their own -/

theorem text?_reread (s : String) : text? (Value.string s).reread = some s :=
  rfl

theorem instant?_reread (t : Instant) : instant? (ofInstant t).reread = some t :=
  Timestamp.read?_write t

theorem word32?_reread (n : UInt32) : word32? (Value.integer n.toNat).reread = some n := by
  have hlt : (n.toNat : Int) < UInt32.size := Int.ofNat_lt.mpr n.toNat_lt
  change word32? (.integer n.toNat) = some n
  rw [word32?, if_pos ⟨Int.natCast_nonneg _, hlt⟩]
  simp

theorem word64?_reread (n : UInt64) : word64? (Value.integer n.toNat).reread = some n := by
  have hlt : (n.toNat : Int) < UInt64.size := Int.ofNat_lt.mpr n.toNat_lt
  change word64? (.integer n.toNat) = some n
  rw [word64?, if_pos ⟨Int.natCast_nonneg _, hlt⟩]
  simp

theorem toNat_le_maxInteger (n : UInt32) : n.toNat ≤ Toml.maxInteger :=
  Nat.le_trans (Nat.le_of_lt n.toNat_lt) (by decide)

end Courier.Stored
