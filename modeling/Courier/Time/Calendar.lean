/-!
# Calendar dates

Dates of the proleptic Gregorian calendar, with a year zero and negative years before it. A date
carries the proof that it exists; only its neighbours in time are ever needed, so no day count is.
-/

namespace Courier

/-- Whether a year has a 29th of February. -/
def isLeapYear (year : Int) : Bool :=
  year % 4 == 0 && (year % 100 != 0 || year % 400 == 0)

/-- The number of days of a month. -/
def daysInMonth (year : Int) (month : Nat) : Nat :=
  if month = 2 then (if isLeapYear year then 29 else 28)
  else if month = 4 ∨ month = 6 ∨ month = 9 ∨ month = 11 then 30
  else 31

/-- A day of the calendar within the supported range of years. -/
structure Date where
  year : Int
  month : Nat
  day : Nat
  year_bounds : -262143 ≤ year ∧ year ≤ 262142
  month_bounds : 1 ≤ month ∧ month ≤ 12
  day_bounds : 1 ≤ day ∧ day ≤ daysInMonth year month
  deriving DecidableEq

namespace Date

/-- The date with these numbers, if there is one. -/
def of? (year : Int) (month day : Nat) : Option Date :=
  if hyear : -262143 ≤ year ∧ year ≤ 262142 then
    if hmonth : 1 ≤ month ∧ month ≤ 12 then
      if hday : 1 ≤ day ∧ day ≤ daysInMonth year month then
        some ⟨year, month, day, hyear, hmonth, hday⟩
      else none
    else none
  else none

/-- A date is found again by its own numbers. -/
theorem of?_self (d : Date) : of? d.year d.month d.day = some d := by
  simp [of?, d.year_bounds, d.month_bounds, d.day_bounds]

/-- The day after, absent for the last supported day. -/
def next? (d : Date) : Option Date :=
  (of? d.year d.month (d.day + 1)).or ((of? d.year (d.month + 1) 1).or (of? (d.year + 1) 1 1))

/-- The day before, absent for the first supported day. -/
def previous? (d : Date) : Option Date :=
  if d.day > 1 then of? d.year d.month (d.day - 1)
  else if d.month > 1 then of? d.year (d.month - 1) (daysInMonth d.year (d.month - 1))
  else of? (d.year - 1) 12 31

/-- The first day of the year 1970. -/
def epoch : Date :=
  ⟨1970, 1, 1, by decide, by decide, by decide⟩

/-- The date a number of days later, counted day by day; the last supported day is not left. -/
def later (d : Date) : Nat → Date
  | 0 => d
  | n + 1 => (d.next?.getD d).later n

end Date

end Courier
