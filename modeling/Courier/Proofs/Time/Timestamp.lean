import Courier.Proofs.Text.Numeral
import Courier.Time.Rfc3339
import Mathlib.Data.Option.Basic

/-!
# Timestamps are read back

Every instant is found again in the timestamp it is written as, including leap seconds, fractions
down to the nanosecond and years with a sign. Each component is read in front of any rest that
cannot belong to it.
-/

namespace Courier.Timestamp

open Text

theorem isBlank_eq_false_of_isDigit {c : Char} (hc : c.isDigit = true) : isBlank c = false := by
  rw [Char.isDigit_iff_toNat] at hc
  have hlow : 48 ≤ c.toNat := hc.1
  have hhigh : c.toNat ≤ 57 := hc.2
  simp only [isBlank, Bool.or_eq_false_iff, Bool.and_eq_false_iff, decide_eq_false_iff_not,
    beq_eq_false_iff_ne]
  omega

theorem trimLeft_cons {c : Char} (hc : isBlank c = false) (cs : List Char) :
    trimLeft (c :: cs) = c :: cs := by
  rw [trimLeft, List.dropWhile_cons_of_neg (by simp [hc])]

/-- Digits are not trimmed. -/
theorem trimLeft_digits {ds : List Char} (hdigits : ∀ c ∈ ds, c.isDigit = true) (hne : ds ≠ [])
    (rest : List Char) : trimLeft (ds ++ rest) = ds ++ rest := by
  cases ds with
  | nil => exact absurd rfl hne
  | cons d ds => exact trimLeft_cons (isBlank_eq_false_of_isDigit (hdigits d List.mem_cons_self)) _

theorem mark?_cons {mark : Char} (hmark : isBlank mark = false) (rest : List Char) :
    mark? mark (mark :: rest) = some rest := by
  rw [mark?, trimLeft_cons hmark]
  simp

/-- A number ends at its width or before something that is no digit. -/
theorem number?_append {width : Nat} {ds rest : List Char}
    (hdigits : ∀ c ∈ ds, c.isDigit = true) (hne : ds ≠ []) (hwidth : ds.length ≤ width)
    (hstop : ds.length = width ∨ ∀ c ∈ rest.head?, c.isDigit = false) :
    number? width (ds ++ rest) = some (ofDigits ds, rest) := by
  have hrest : (rest.take (width - ds.length)).takeWhile Char.isDigit = [] := by
    rcases hstop with hfull | hhead
    · simp [hfull]
    · cases rest with
      | nil => simp
      | cons c rest =>
          have hc : c.isDigit = false := hhead c rfl
          cases width - ds.length <;> simp [hc]
  have htaken : ((ds ++ rest).take width).takeWhile Char.isDigit = ds := by
    rw [List.take_append, List.take_of_length_le hwidth,
      List.takeWhile_append_of_pos hdigits, hrest, List.append_nil]
  simp [number?, htaken, hne]

/-- Two digits are read as a field. -/
theorem field?_paddedDigits {n : Nat} (hn : n < 100) (rest : List Char) :
    field? (paddedDigits 2 n ++ rest) = some (n, rest) := by
  have hdigits : ∀ c ∈ paddedDigits 2 n, c.isDigit = true := fun _ => isDigit_of_mem_paddedDigits
  have hlength : (paddedDigits 2 n).length = 2 := length_paddedDigits (by decide) hn
  rw [field?, trimLeft_digits hdigits (paddedDigits_ne_nil 2 n),
    number?_append hdigits (paddedDigits_ne_nil 2 n) (Nat.le_of_eq hlength) (.inl hlength),
    ofDigits_paddedDigits]

/-- A year after its sign takes all the digits that follow. -/
theorem number?_signed_year (n : Nat) (rest : List Char) :
    number? (paddedDigits 4 n ++ '-' :: rest).length (paddedDigits 4 n ++ '-' :: rest) =
      some (n, '-' :: rest) := by
  rw [number?_append (fun _ => isDigit_of_mem_paddedDigits) (paddedDigits_ne_nil 4 n)
    (by simp) (.inr (by simp)), ofDigits_paddedDigits]

/-- A year that starts with a digit has no sign and at most four digits. -/
theorem year?_cons_digit {d : Char} (hd : d.isDigit = true) (cs : List Char) :
    year? (d :: cs) = (number? 4 (d :: cs)).map fun (n, rest) => ((n : Int), rest) := by
  rw [year?, trimLeft_cons (isBlank_eq_false_of_isDigit hd)]
  split
  next heq =>
    rw [(List.cons.inj heq).1] at hd
    exact absurd hd (by decide)
  next heq =>
    rw [(List.cons.inj heq).1] at hd
    exact absurd hd (by decide)
  next => rfl

theorem year?_unsigned {year : Int} (hyear : 0 ≤ year ∧ year ≤ 9999) (rest : List Char) :
    year? (paddedDigits 4 year.toNat ++ rest) = some (year, rest) := by
  have hdigits : ∀ c ∈ paddedDigits 4 year.toNat, c.isDigit = true :=
    fun _ => isDigit_of_mem_paddedDigits
  have hne := paddedDigits_ne_nil 4 year.toNat
  have hsmall : year.toNat < Nat.pow 10 4 := by
    change year.toNat < 10000
    omega
  have hlength := length_paddedDigits (by decide) hsmall
  have hnumber : number? 4 (paddedDigits 4 year.toNat ++ rest) = some (year.toNat, rest) := by
    rw [number?_append hdigits hne (Nat.le_of_eq hlength) (.inl hlength), ofDigits_paddedDigits]
  cases hds : paddedDigits 4 year.toNat with
  | nil => exact absurd hds hne
  | cons d ds =>
      rw [hds] at hnumber
      rw [List.cons_append, year?_cons_digit (hdigits d (hds ▸ List.mem_cons_self)),
        ← List.cons_append, hnumber]
      simp [Int.toNat_of_nonneg hyear.1]

theorem year?_writeYear (year : Int) (rest : List Char) :
    year? (writeYear year ++ '-' :: rest) = some (year, '-' :: rest) := by
  unfold writeYear
  split
  next hplain => exact year?_unsigned hplain _
  next hsigned =>
    by_cases hneg : year < 0
    · rw [if_pos hneg, List.cons_append, year?, trimLeft_cons (by decide)]
      simp only [number?_signed_year, Option.map_some, Option.some.injEq, Prod.mk.injEq, and_true]
      omega
    · rw [if_neg hneg, List.cons_append, year?, trimLeft_cons (by decide)]
      simp only [number?_signed_year, Option.map_some, Option.some.injEq, Prod.mk.injEq, and_true]
      omega

theorem daysInMonth_le (year : Int) (month : Nat) : daysInMonth year month ≤ 31 := by
  unfold daysInMonth
  repeat' split
  all_goals omega

theorem date?_writeDate (date : Date) (rest : List Char) :
    date? (writeDate date ++ rest) = some (date, rest) := by
  have hmonth : date.month < 100 := by
    have hbounds := date.month_bounds
    omega
  have hday : date.day < 100 := by
    have hbounds := date.day_bounds
    have hlength := daysInMonth_le date.year date.month
    omega
  have hwritten : writeDate date ++ rest = writeYear date.year ++ '-' ::
      (paddedDigits 2 date.month ++ '-' :: (paddedDigits 2 date.day ++ rest)) := by
    simp [writeDate]
  rw [hwritten]
  have hdash (cs : List Char) : mark? '-' ('-' :: cs) = some cs := mark?_cons (by decide) cs
  simp [date?, year?_writeYear, hdash, field?_paddedDigits hmonth, field?_paddedDigits hday,
    Date.of?_self]

/-- Zeros after a numeral multiply its number. -/
theorem ofDigits_append_zeros (ds : List Char) (count : Nat) :
    ofDigits (ds ++ List.replicate count '0') = Nat.pow 10 count * ofDigits ds := by
  rw [ofDigits_eq, Nat.ofDigitChars_append, Nat.ofDigitChars_replicate_zero]
  rfl

/-- Digits after the point are read as far as they go, when there are at most nine. -/
theorem fraction?_point {ds rest : List Char} (hdigits : ∀ c ∈ ds, c.isDigit = true)
    (hne : ds ≠ []) (hlength : ds.length ≤ 9) (hstop : ∀ c ∈ rest.head?, c.isDigit = false) :
    fraction? ('.' :: (ds ++ rest)) = some (Nat.pow 10 (9 - ds.length) * ofDigits ds, rest) := by
  have htaken : ((ds ++ rest).take 9).takeWhile Char.isDigit = ds := by
    rw [List.take_append, List.take_of_length_le hlength, List.takeWhile_append_of_pos hdigits]
    cases rest with
    | nil => simp
    | cons c rest =>
        have hc : c.isDigit = false := hstop c rfl
        cases 9 - ds.length <;> simp [hc]
  have hdropped : (ds ++ rest).dropWhile Char.isDigit = rest := by
    rw [List.dropWhile_append_of_pos hdigits]
    cases rest with
    | nil => rfl
    | cons c rest => rw [List.dropWhile_cons_of_neg (by simp [hstop c rfl])]
  simp [fraction?, htaken, hdropped, hne, ofDigits_append_zeros]

/-- A fraction written in `width` digits is read back, scaled to nanoseconds. -/
theorem fraction?_paddedDigits {width n : Nat} (hwidth : 0 < width) (hle : width ≤ 9)
    (hn : n < Nat.pow 10 width) {rest : List Char} (hstop : ∀ c ∈ rest.head?, c.isDigit = false) :
    fraction? ('.' :: (paddedDigits width n ++ rest)) =
      some (Nat.pow 10 (9 - width) * n, rest) := by
  have hlength := length_paddedDigits hwidth hn
  rw [fraction?_point (fun _ => isDigit_of_mem_paddedDigits) (paddedDigits_ne_nil width n)
    (by omega) hstop, hlength, ofDigits_paddedDigits]

theorem fraction?_writeFraction {nano : Nat} (hnano : nano < nanosPerSecond) {c : Char}
    (hdigit : c.isDigit = false) (hpoint : c ≠ '.') (rest : List Char) :
    fraction? (writeFraction nano ++ c :: rest) = some (nano, c :: rest) := by
  have hstop : ∀ d ∈ (c :: rest).head?, d.isDigit = false := by
    intro d hd
    rw [← Option.some.inj hd]
    exact hdigit
  have hbound : nano < 1000000000 := hnano
  unfold writeFraction
  split
  next hzero => simp [fraction?, hpoint, hzero]
  next =>
    split
    next =>
      have hscale : Nat.pow 10 (9 - 3) * (nano / 1000000) = nano := by
        change 1000000 * (nano / 1000000) = nano
        omega
      have hmilli : nano / 1000000 < Nat.pow 10 3 := by
        change nano / 1000000 < 1000
        omega
      rw [List.cons_append, fraction?_paddedDigits (by decide) (by decide) hmilli hstop, hscale]
    next =>
      split
      next =>
        have hscale : Nat.pow 10 (9 - 6) * (nano / 1000) = nano := by
          change 1000 * (nano / 1000) = nano
          omega
        have hmicro : nano / 1000 < Nat.pow 10 6 := by
          change nano / 1000 < 1000000
          omega
        rw [List.cons_append, fraction?_paddedDigits (by decide) (by decide) hmicro hstop, hscale]
      next =>
        have hscale : Nat.pow 10 (9 - 9) * nano = nano := Nat.one_mul nano
        rw [List.cons_append, fraction?_paddedDigits (by decide) (by decide) hbound hstop, hscale]

/-- The nanoseconds of an instant hold one whole second exactly within a leap second. -/
theorem nano_div_nanosPerSecond (t : Instant) :
    t.nano / nanosPerSecond = 0 ∨ (t.nano / nanosPerSecond = 1 ∧ t.second % 60 = 59) := by
  have hnano := t.nano_bound
  have hunit : nanosPerSecond = 1000000000 := rfl
  rw [hunit] at hnano ⊢
  omega

/-- The sixtieth second of a leap second stands for the second before it. -/
theorem time?_write (t : Instant) {c : Char} (hdigit : c.isDigit = false) (hpoint : c ≠ '.')
    (rest : List Char) :
    time? (writeMinute t.second ++ ':' :: (writeSecond t.second t.nano ++ c :: rest)) =
      some ((t.second, t.nano), c :: rest) := by
  have hsecond := t.second_lt
  have hleap := nano_div_nanosPerSecond t
  have hnano := Nat.div_add_mod t.nano nanosPerSecond
  have hfraction : t.nano % nanosPerSecond < nanosPerSecond := Nat.mod_lt _ (by decide)
  have hcolon : isBlank ':' = false := by decide
  have hhour : t.second / 3600 < 100 := by omega
  have hminute : t.second / 60 % 60 < 100 := by omega
  have hshown : t.second % 60 + t.nano / nanosPerSecond < 100 := by omega
  have hguard : t.second / 3600 ≤ 23 ∧ t.second / 60 % 60 ≤ 59 ∧
      t.second % 60 + t.nano / nanosPerSecond ≤ 60 := by omega
  simp only [time?, writeMinute, writeSecond, List.append_assoc, List.cons_append,
    field?_paddedDigits hhour, field?_paddedDigits hminute, field?_paddedDigits hshown,
    mark?_cons hcolon, fraction?_writeFraction hfraction hdigit hpoint, Option.bind_eq_bind,
    Option.bind_some]
  simp only [hguard.1, hguard.2.1, hguard.2.2, decide_true, Bool.and_self, guard, if_true,
    Option.pure_def, Option.bind_some, Option.some.injEq, Prod.mk.injEq, and_true]
  -- In a leap second the sixtieth second is read as a whole second of nanoseconds.
  rcases hleap with hplain | ⟨hquotient, hlast⟩
  · rw [hplain, Nat.mul_zero, Nat.zero_add] at hnano
    rw [hplain, if_neg (by omega), hnano]
    apply Prod.ext
    · change _ + _ = t.second
      omega
    · rfl
  · rw [hquotient, Nat.mul_one] at hnano
    rw [hquotient, if_pos (by omega), hnano]
    apply Prod.ext
    · change _ + 59 = t.second
      omega
    · rfl

theorem offset?_universal : offset? ['Z'] = some (0, []) := by
  decide

theorem atOffset?_zero (t : Instant) : atOffset? t.date t.second t.nano 0 = some t := by
  have hsecond := t.second_lt
  have hshift : (t.second : Int) - 0 = t.second := Int.sub_zero _
  unfold atOffset?
  simp only [hshift]
  rw [if_neg (by omega), if_pos (by omega), Int.toNat_natCast]
  exact t.of?_self

/-- Reading a timestamp undoes writing it. -/
theorem read?_write (t : Instant) : read? (write t) = some t := by
  have htext : (write t).toList = writeDate t.date ++ ('T' ::
      (writeMinute t.second ++ ':' :: (writeSecond t.second t.nano ++ 'Z' :: []))) := by
    simp [write]
  have hz : 'Z'.isDigit = false := by decide
  have hpoint : 'Z' ≠ '.' := by decide
  have hend : (guard ((trimLeft []).isEmpty = true) : Option Unit) = some () := rfl
  have hseparator (cs : List Char) : separator? ('T' :: cs) = some cs := rfl
  rw [read?, htext, date?_writeDate, Option.bind_eq_bind, Option.bind_some]
  dsimp only
  rw [hseparator, Option.bind_eq_bind, Option.bind_some, time?_write t hz hpoint,
    Option.bind_eq_bind, Option.bind_some]
  dsimp only
  rw [offset?_universal, Option.bind_eq_bind, Option.bind_some]
  dsimp only
  rw [hend, Option.bind_eq_bind, Option.bind_some]
  exact atOffset?_zero t

end Courier.Timestamp
