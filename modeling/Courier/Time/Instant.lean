import Courier.Time.Calendar

/-!
# Instants

A point in universal time to the nanosecond. A leap second extends the last second of a minute: it
is told by a nanosecond count of at least one billion, and the order puts it after the second it
extends.
-/

namespace Courier

/-- The number of nanoseconds in a second. -/
def nanosPerSecond : Nat := 1000000000

/-- A point in universal time. -/
structure Instant where
  date : Date
  /-- Seconds since midnight. -/
  second : Nat
  /-- Nanoseconds within the second; one billion and more within a leap second. -/
  nano : Nat
  second_lt : second < 86400
  nano_bound : nano < nanosPerSecond ∨ (nano < 2 * nanosPerSecond ∧ second % 60 = 59)
  deriving DecidableEq

namespace Instant

/-- The instant with these parts, if they fit together. -/
def of? (date : Date) (second nano : Nat) : Option Instant :=
  if hsecond : second < 86400 then
    if hnano : nano < nanosPerSecond ∨ (nano < 2 * nanosPerSecond ∧ second % 60 = 59) then
      some ⟨date, second, nano, hsecond, hnano⟩
    else none
  else none

/-- An instant is found again by its own parts. -/
theorem of?_self (t : Instant) : of? t.date t.second t.nano = some t := by
  simp [of?, t.second_lt, t.nano_bound]

/-- A whole number that grows with time: earlier instants have smaller ranks. -/
def rank (t : Instant) : Int :=
  (((t.date.year * 16 + t.date.month) * 32 + t.date.day) * 86400 + t.second) *
    (2 * nanosPerSecond) + t.nano

/-- The instant a number of seconds and nanoseconds after the start of 1970. -/
def ofEpoch (seconds nanos : Nat) : Instant where
  date := Date.epoch.later (seconds / 86400)
  second := seconds % 86400
  nano := nanos % nanosPerSecond
  second_lt := Nat.mod_lt _ (by decide)
  nano_bound := .inl (Nat.mod_lt _ (by decide))

end Instant

end Courier
