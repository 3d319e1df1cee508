import Courier.Time.Instant

/-!
# The order of instants

The ranks of instants order them as their years, months, days, seconds and nanoseconds do, the
first of these that differs deciding.
-/

namespace Courier.Instant

/-- Whether an instant lies before another: the first of year, month, day, second and nanosecond
that differs is smaller. -/
def IsBefore (s t : Instant) : Prop :=
  s.date.year < t.date.year ∨ s.date.year = t.date.year ∧
    (s.date.month < t.date.month ∨ s.date.month = t.date.month ∧
      (s.date.day < t.date.day ∨ s.date.day = t.date.day ∧
        (s.second < t.second ∨ s.second = t.second ∧ s.nano < t.nano)))

theorem day_le (t : Instant) : t.date.day ≤ 31 := by
  have hday := t.date.day_bounds.2
  unfold daysInMonth at hday
  repeat' split at hday
  all_goals omega

theorem nano_lt (t : Instant) : t.nano < 2 * nanosPerSecond := by
  have hnano := t.nano_bound
  unfold nanosPerSecond at hnano ⊢
  omega

/-- Smaller ranks belong to earlier instants. -/
theorem rank_lt_iff {s t : Instant} : s.rank < t.rank ↔ s.IsBefore t := by
  have hs := s.date.month_bounds
  have ht := t.date.month_bounds
  have hsday := s.day_le
  have htday := t.day_le
  have hssecond := s.second_lt
  have htsecond := t.second_lt
  have hsnano := s.nano_lt
  have htnano := t.nano_lt
  unfold IsBefore rank
  unfold nanosPerSecond at *
  omega

end Courier.Instant
