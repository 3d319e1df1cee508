import Courier.Text.Numeral

/-!
# Numerals

A numeral holds decimal digits only, has the width it was given, and stands for the number it was
written from. Conversely, digits without leading zeros are the numeral of their value, and any
digits are once they are padded to their own width.
-/

namespace Courier.Text

variable {cs : List Char}

theorem ofDigits_eq (cs : List Char) : ofDigits cs = Nat.ofDigitChars 10 cs 0 :=
  rfl

theorem digits_ne_nil (n : Nat) : digits n ≠ [] :=
  Nat.toDigits_ne_nil

theorem isDigit_of_mem_digits {n : Nat} {c : Char} (hc : c ∈ digits n) : c.isDigit = true :=
  Nat.isDigit_of_mem_toDigits (by decide) (by decide) hc

theorem digits_eq_cons (n : Nat) : ∃ d ds, digits n = d :: ds ∧ d.isDigit = true := by
  cases hds : digits n with
  | nil => exact absurd hds (digits_ne_nil n)
  | cons d ds => exact ⟨d, ds, rfl, isDigit_of_mem_digits (hds ▸ List.mem_cons_self)⟩

theorem ofDigits_digits (n : Nat) : ofDigits (digits n) = n := by
  rw [ofDigits_eq]
  exact Nat.ofDigitChars_ten_toDigits

theorem head_digits_ne_zero {n : Nat} (hn : 0 < n) : (digits n).head? ≠ some '0' := by
  induction n using Nat.strongRecOn with
  | ind n ih =>
      by_cases hsmall : n < 10
      · have hall : ∀ m < 10, 0 < m → (digits m).head? ≠ some '0' := by decide
        exact hall n hsmall hn
      · have hdivide : digits n = digits (n / 10) ++ [(n % 10).digitChar] :=
          Nat.toDigits_of_base_le (by decide) (by omega)
        have hhead := ih (n / 10) (by omega) (by omega)
        obtain ⟨d, ds, hds, -⟩ := digits_eq_cons (n / 10)
        rw [hdivide, hds]
        rw [hds] at hhead
        exact hhead

theorem digits_eq_cons_of_pos {n : Nat} (hn : 0 < n) :
    ∃ d ds, digits n = d :: ds ∧ d.isDigit = true ∧ d ≠ '0' := by
  obtain ⟨d, ds, hds, hd⟩ := digits_eq_cons n
  refine ⟨d, ds, hds, hd, ?_⟩
  rintro rfl
  exact head_digits_ne_zero hn (by rw [hds, List.head?_cons])

theorem isDigit_of_mem_paddedDigits {width n : Nat} {c : Char}
    (hc : c ∈ paddedDigits width n) : c.isDigit = true := by
  rcases List.mem_append.mp hc with hzero | hdigit
  · rw [List.eq_of_mem_replicate hzero]
    rfl
  · exact isDigit_of_mem_digits hdigit

theorem paddedDigits_ne_nil (width n : Nat) : paddedDigits width n ≠ [] := by
  intro hnil
  exact digits_ne_nil n (List.append_eq_nil_iff.mp hnil).2

theorem ofDigits_paddedDigits (width n : Nat) : ofDigits (paddedDigits width n) = n := by
  rw [ofDigits_eq, paddedDigits, Nat.ofDigitChars_append, Nat.ofDigitChars_replicate_zero,
    Nat.mul_zero]
  exact ofDigits_digits n

/-- A number below the power of ten for a width is padded to exactly that width. -/
theorem length_paddedDigits {width n : Nat} (hwidth : 0 < width) (hn : n < Nat.pow 10 width) :
    (paddedDigits width n).length = width := by
  have hle : (digits n).length ≤ width := (Nat.length_toDigits_le_iff (by decide) hwidth).mpr hn
  rw [paddedDigits, List.length_append, List.length_replicate]
  omega

/-! ## From the value back to the digits -/

/-- Decimal digits without a leading zero. Only zero itself begins with one. -/
inductive IsPlainNumeral : List Char → Prop
  | zero : IsPlainNumeral ['0']
  | positive {d : Char} {ds : List Char} (hd : d.isDigit = true) (hne : d ≠ '0')
      (hds : ∀ c ∈ ds, c.isDigit = true) : IsPlainNumeral (d :: ds)

theorem isPlainNumeral_digits (n : Nat) : IsPlainNumeral (digits n) := by
  rcases Nat.eq_zero_or_pos n with rfl | hn
  · exact .zero
  · obtain ⟨d, ds, hds, hd, hne⟩ := digits_eq_cons_of_pos hn
    have hdigits : ∀ c ∈ digits n, c.isDigit = true := fun _ => isDigit_of_mem_digits
    rw [hds] at hdigits ⊢
    exact .positive hd hne (List.forall_mem_cons.mp hdigits).2

theorem toNat_of_isDigit {c : Char} (hc : c.isDigit = true) : 48 ≤ c.toNat ∧ c.toNat ≤ 57 :=
  Char.isDigit_iff_toNat.mp hc

theorem digits_of_isDigit {c : Char} (hc : c.isDigit = true) : digits (c.toNat - 48) = [c] := by
  obtain ⟨hlower, hupper⟩ := toNat_of_isDigit hc
  have hlt : c.toNat - 48 < 10 := by omega
  have hchar : (c.toNat - 48).digitChar = c := by
    rw [← Char.toNat_inj, Nat.toNat_digitChar_of_lt_ten hlt]
    omega
  rw [digits, Nat.toDigits_of_lt_base hlt, hchar]

/-- Digits behind the numeral of a positive number make the numeral of the number that is reached by
reading on with them. -/
theorem digits_append {n : Nat} (hn : 0 < n) (hcs : ∀ c ∈ cs, c.isDigit = true) :
    digits n ++ cs = digits (Nat.ofDigitChars 10 cs n) := by
  induction cs generalizing n with
  | nil => rw [List.append_nil, Nat.ofDigitChars_nil]
  | cons c cs ih =>
      obtain ⟨hc, hrest⟩ := List.forall_mem_cons.mp hcs
      obtain ⟨hlower, hupper⟩ := toNat_of_isDigit hc
      have hextend : digits n ++ [c] = digits (10 * n + (c.toNat - 48)) := by
        rw [← digits_of_isDigit hc]
        exact Nat.toDigits_append_toDigits (by decide) hn (by omega)
      calc digits n ++ c :: cs
          = digits (10 * n + (c.toNat - 48)) ++ cs := by rw [← hextend, List.append_assoc]; rfl
        _ = digits (Nat.ofDigitChars 10 (c :: cs) n) := by
          rw [ih (by omega) hrest, Nat.ofDigitChars_cons]
          rfl

/-- A numeral without leading zeros is the one that is written for its value. -/
theorem IsPlainNumeral.digits_ofDigits (h : IsPlainNumeral cs) : digits (ofDigits cs) = cs := by
  cases h with
  | zero => rfl
  | @positive d ds hd hne hds =>
      have hpos : 0 < d.toNat - 48 := by
        have hlower : 48 ≤ d.toNat := (toNat_of_isDigit hd).1
        have hzero : d.toNat ≠ 48 := fun heq => hne (Char.toNat_inj.mp heq)
        omega
      have hvalue : ofDigits (d :: ds) = Nat.ofDigitChars 10 ds (d.toNat - 48) := by
        rw [ofDigits_eq, Nat.ofDigitChars_cons, Nat.mul_zero, Nat.zero_add]
        rfl
      rw [hvalue, ← digits_append hpos hds, digits_of_isDigit hd, List.singleton_append]

theorem length_digits_le (width n : Nat) : (digits n).length ≤ (paddedDigits width n).length := by
  rw [paddedDigits, List.length_append]
  exact Nat.le_add_left _ _

theorem paddedDigits_succ {width n : Nat} (hwidth : (digits n).length ≤ width) :
    paddedDigits (width + 1) n = '0' :: paddedDigits width n := by
  rw [paddedDigits, paddedDigits, Nat.succ_sub hwidth, List.replicate_succ, List.cons_append]

/-- A run of digits is what is written for its value, padded to its own length. -/
theorem paddedDigits_ofDigits (hne : cs ≠ []) (hcs : ∀ c ∈ cs, c.isDigit = true) :
    paddedDigits cs.length (ofDigits cs) = cs := by
  induction cs with
  | nil => exact absurd rfl hne
  | cons d ds ih =>
      obtain ⟨hd, hds⟩ := List.forall_mem_cons.mp hcs
      by_cases hzero : d = '0'
      · -- A leading zero is one more zero of the padding.
        subst hzero
        by_cases hnil : ds = []
        · subst hnil
          rfl
        · have hwritten := ih hnil hds
          have hlength := length_digits_le ds.length (ofDigits ds)
          rw [hwritten] at hlength
          have hvalue : ofDigits ('0' :: ds) = ofDigits ds := rfl
          rw [hvalue, List.length_cons, paddedDigits_succ hlength, hwritten]
      · have hplain : IsPlainNumeral (d :: ds) := .positive hd hzero hds
        rw [paddedDigits, hplain.digits_ofDigits, Nat.sub_self, List.replicate_zero,
          List.nil_append]

end Courier.Text
