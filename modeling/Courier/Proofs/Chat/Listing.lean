import Courier.Chat.Listing
import Courier.Proofs.Text.Bytes
import Courier.Proofs.Time.Instant

/-!
# The order of the chat list

The list is the beginning of all chats in one order: those with activity first, the latest of them
at the top, then the others by the bytes of their names, and chats that tie as they were given. How
many there are on the list depends on the limit alone, so that a smaller one shows the beginning of
what a greater one shows.
-/

namespace Courier.Listing

variable {a b c : Connection} {chats other : List Connection} {limit larger : Nat}

/-! ## The order -/

/-- Whether a chat belongs on the list before another. -/
inductive ComesBefore (a b : Connection) : Prop
  /-- Something happened in both, and later in the first. -/
  | later {s t : Instant} (ha : a.summary.timestamp = some s) (hb : b.summary.timestamp = some t)
      (hlater : t.IsBefore s)
  /-- Something happened in the first one only. -/
  | active (ha : a.summary.timestamp ≠ none) (hb : b.summary.timestamp = none)
  /-- Nothing happened in either, and the name of the first is smaller. -/
  | name (ha : a.summary.timestamp = none) (hb : b.summary.timestamp = none)
      (hname : Text.bytes a.name < Text.bytes b.name)

/-- Whether neither of two chats belongs before the other. -/
def Ties (a b : Connection) : Prop :=
  ¬ ComesBefore a b ∧ ¬ ComesBefore b a

theorem Ties.symm (h : Ties a b) : Ties b a :=
  ⟨h.2, h.1⟩

theorem mayPrecede_of_comesBefore (h : ComesBefore b a) : mayPrecede a b = false := by
  unfold mayPrecede
  cases h with
  | later hb ha hlater =>
      rw [ha, hb]
      exact decide_eq_false (Int.not_le.mpr (Instant.rank_lt_iff.mpr hlater))
  | active hb ha =>
      obtain ⟨t, hb⟩ := Option.ne_none_iff_exists'.mp hb
      rw [ha, hb]
  | name hb ha hname =>
      rw [ha, hb]
      exact decide_eq_false fun hle => hle (Text.lt_iff_bytes_lt.mpr hname)

theorem comesBefore_of_mayPrecede (h : mayPrecede a b = false) : ComesBefore b a := by
  unfold mayPrecede at h
  cases ha : a.summary.timestamp with
  | none =>
      cases hb : b.summary.timestamp with
      | none =>
          rw [ha, hb] at h
          have hname : b.name < a.name := Decidable.not_not.mp (of_decide_eq_false h)
          exact .name hb ha (Text.lt_iff_bytes_lt.mp hname)
      | some t => exact .active (by simp [hb]) ha
  | some s =>
      cases hb : b.summary.timestamp with
      | none =>
          rw [ha, hb] at h
          cases h
      | some t =>
          rw [ha, hb] at h
          have hrank : s.rank < t.rank := Int.not_le.mp (of_decide_eq_false h)
          exact .later hb ha (Instant.rank_lt_iff.mp hrank)

/-- A chat may stand before another unless the other belongs before it. -/
theorem mayPrecede_iff : mayPrecede a b = true ↔ ¬ ComesBefore b a := by
  constructor
  · intro h hbefore
    exact Bool.false_ne_true ((mayPrecede_of_comesBefore hbefore).symm.trans h)
  · intro h
    cases hmay : mayPrecede a b with
    | true => rfl
    | false => exact absurd (comesBefore_of_mayPrecede hmay) h

instance (a b : Connection) : Decidable (ComesBefore a b) :=
  decidable_of_iff (mayPrecede b a = false) ⟨comesBefore_of_mayPrecede, mayPrecede_of_comesBefore⟩

instance (a b : Connection) : Decidable (Ties a b) :=
  inferInstanceAs (Decidable (_ ∧ _))

theorem mayPrecede_total (a b : Connection) : (mayPrecede a b || mayPrecede b a) = true := by
  unfold mayPrecede
  cases a.summary.timestamp with
  | none =>
      cases b.summary.timestamp with
      | none => simpa using String.le_total a.name b.name
      | some t => rfl
  | some s =>
      cases b.summary.timestamp with
      | none => rfl
      | some t => simpa using Int.le_total t.rank s.rank

theorem mayPrecede_trans (a b c : Connection) (hab : mayPrecede a b = true)
    (hbc : mayPrecede b c = true) : mayPrecede a c = true := by
  unfold mayPrecede at *
  cases ha : a.summary.timestamp with
  | none =>
      cases hb : b.summary.timestamp with
      | none =>
          cases hc : c.summary.timestamp with
          | none =>
              simp only [ha, hb, hc, decide_eq_true_eq] at *
              exact String.le_trans hab hbc
          | some u => simp [hb, hc] at hbc
      | some t => simp [ha, hb] at hab
  | some s =>
      cases hb : b.summary.timestamp with
      | none =>
          cases hc : c.summary.timestamp with
          | none => rfl
          | some u => simp [hb, hc] at hbc
      | some t =>
          cases hc : c.summary.timestamp with
          | none => rfl
          | some u =>
              simp only [ha, hb, hc, decide_eq_true_eq] at *
              exact Int.le_trans hbc hab

/-! ## The list -/

/-- The chats in the order of the list. -/
def ordered (chats : List Connection) : List Connection :=
  chats.mergeSort mayPrecede

/-- The same chats, none of them behind one that it belongs before, and those that tie in the order
in which they were given. -/
structure IsOrdering (chats ordered : List Connection) : Prop where
  perm : ordered.Perm chats
  pairwise : ordered.Pairwise fun a b => ¬ ComesBefore b a
  stable : ∀ c, ordered.filter (Ties c) = chats.filter (Ties c)

theorem perm_ordered (chats : List Connection) : (ordered chats).Perm chats :=
  List.mergeSort_perm chats mayPrecede

theorem pairwise_ordered (chats : List Connection) :
    (ordered chats).Pairwise fun a b => ¬ ComesBefore b a := by
  apply (List.pairwise_mergeSort mayPrecede_trans mayPrecede_total chats).imp
  intro a b h
  exact mayPrecede_iff.mp h

/-- Sorting leaves the chats that tie with a chat in their order: they may precede each other, so
that they stay a part of the sorted list. -/
theorem filter_ordered (chats : List Connection) (c : Connection) :
    (ordered chats).filter (Ties c) = chats.filter (Ties c) := by
  have hties : (chats.filter (Ties c)).Pairwise fun a b => mayPrecede a b = true := by
    apply List.pairwise_of_forall_mem_list
    intro a ha b hb
    obtain ⟨hac, -⟩ := of_decide_eq_true (List.mem_filter.mp ha).2
    obtain ⟨-, hbc⟩ := of_decide_eq_true (List.mem_filter.mp hb).2
    exact mayPrecede_trans a c b (mayPrecede_iff.mpr hac) (mayPrecede_iff.mpr hbc)
  have hsublist : (chats.filter (Ties c)).Sublist (ordered chats) :=
    List.sublist_mergeSort mayPrecede_trans mayPrecede_total hties List.filter_sublist
  have hfilter := hsublist.filter fun a => decide (Ties c a)
  rw [List.filter_filter] at hfilter
  simp only [Bool.and_self] at hfilter
  exact (hfilter.eq_of_length ((perm_ordered chats).filter _).length_eq.symm).symm

theorem isOrdering_ordered (chats : List Connection) : IsOrdering chats (ordered chats) :=
  ⟨perm_ordered chats, pairwise_ordered chats, filter_ordered chats⟩

/-- Where no two chats tie, the order they are given in does not matter. -/
theorem ordered_eq_of_perm (hties : chats.Pairwise fun a b => ¬ Ties a b)
    (hperm : other.Perm chats) : ordered other = ordered chats := by
  have hsame : (ordered other).Perm (ordered chats) :=
    ((perm_ordered other).trans hperm).trans (perm_ordered chats).symm
  have heq : ∀ a ∈ chats, ∀ b ∈ chats, Ties a b → a = b := by
    apply List.Pairwise.forall_of_forall_of_flip
    · intro a _ _
      rfl
    · exact hties.imp fun hne htie => absurd htie hne
    · exact hties.imp fun hne htie => absurd htie.symm hne
  apply List.Perm.eq_of_pairwise _ (pairwise_ordered other) (pairwise_ordered chats) hsame
  intro a b ha hb hba hab
  have ha : a ∈ chats := hperm.mem_iff.mp ((perm_ordered other).mem_iff.mp ha)
  have hb : b ∈ chats := (perm_ordered chats).mem_iff.mp hb
  exact heq a ha b hb ⟨hab, hba⟩

/-- The number of chats that a limit asks for. -/
def pageSize (limit : Nat) : Nat :=
  if limit = 0 then 50 else if 200 < limit then 200 else limit

theorem effectiveLimit_eq (limit : Nat) : effectiveLimit limit = pageSize limit := by
  unfold effectiveLimit pageSize defaultLimit maxLimit
  repeat' split
  all_goals omega

theorem pageSize_le (hlimit : 0 < limit) (hle : limit ≤ larger) :
    pageSize limit ≤ pageSize larger := by
  unfold pageSize
  repeat' split
  all_goals omega

/-- The beginning of the chats in their order, as long as the limit asks for, and none that is left
out belongs before one of them. -/
structure IsTop (chats : List Connection) (limit : Nat) (listed : List Connection) : Prop where
  length_eq : listed.length = min (pageSize limit) chats.length
  begins : ∃ unlisted, IsOrdering chats (listed ++ unlisted) ∧
    ∀ a ∈ unlisted, ∀ b ∈ listed, ¬ ComesBefore a b

theorem top_eq (limit : Nat) (chats : List Connection) :
    top limit chats = (ordered chats).take (pageSize limit) := by
  rw [top, effectiveLimit_eq, ordered]

theorem isTop_top (chats : List Connection) (limit : Nat) :
    IsTop chats limit (top limit chats) := by
  rw [top_eq]
  have hsplit := List.take_append_drop (pageSize limit) (ordered chats)
  constructor
  · rw [List.length_take, (perm_ordered chats).length_eq]
  · refine ⟨(ordered chats).drop (pageSize limit), ?_, ?_⟩
    · rw [hsplit]
      exact isOrdering_ordered chats
    · have hpairwise := pairwise_ordered chats
      rw [← hsplit] at hpairwise
      intro a ha b hb
      exact (List.pairwise_append.mp hpairwise).2.2 b hb a ha

/-- A list of chats shows the top of their order. A smaller limit shows the beginning of what a
greater one shows, and where no two chats tie, it does not matter how they are given. -/
theorem listed_isTop (chats : List Connection) (limit : Nat) :
    ∃ listed, ofSource (.ok chats) limit = .ok listed ∧ IsTop chats limit listed ∧
      (∀ larger, 0 < limit → limit ≤ larger →
        ∃ more, ofSource (.ok chats) larger = .ok (listed ++ more)) ∧
      (chats.Pairwise (fun a b => ¬ Ties a b) →
        ∀ other : List Connection, other.Perm chats → ofSource (.ok other) limit = .ok listed) := by
  refine ⟨top limit chats, rfl, isTop_top chats limit, ?_, ?_⟩
  · intro larger hlimit hle
    obtain ⟨more, hmore⟩ := List.take_prefix_take_left (l := ordered chats) (pageSize_le hlimit hle)
    refine ⟨more, congrArg Except.ok ?_⟩
    rw [top_eq, top_eq, hmore]
  · intro hties other hperm
    apply congrArg Except.ok
    rw [top_eq, top_eq, ordered_eq_of_perm hties hperm]

end Courier.Listing
