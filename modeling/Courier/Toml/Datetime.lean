import Courier.Time.Calendar
import Courier.Toml.Reader
import Courier.Toml.Value

/-!
# Reading dates and times

A date, a time of day, or a date with a time and an optional offset. They are checked against the
calendar and the clock and kept in their usual form: two digits a part, `T` between date and time,
nine digits of a second's fraction at most and no trailing zeros in it.
-/

namespace Courier.Toml

open Text (paddedDigits)

/-- A day of the calendar, written with hyphens. -/
def fullDate? (cs : List Char) : Option (List Char × List Char) := do
  let (year, cs) ← fixedDigits? 4 cs
  let (month, cs) ← fixedDigits? 2 (← char? '-' cs)
  let (day, cs) ← fixedDigits? 2 (← char? '-' cs)
  guard (1 ≤ month && month ≤ 12 && 1 ≤ day && day ≤ daysInMonth year month)
  return (paddedDigits 4 year ++ '-' :: paddedDigits 2 month ++ '-' :: paddedDigits 2 day, cs)

/-- A fraction of a second, to at most nine digits and without trailing zeros. -/
def secondFraction (cs : List Char) : List Char × List Char :=
  match cs with
  | '.' :: c :: rest =>
    if c.isDigit then
      let kept := ((c :: rest).takeWhile Char.isDigit).take 9
      let significant := (kept.reverse.dropWhile (· = '0')).reverse
      (if significant.isEmpty then [] else '.' :: significant, rest.dropWhile Char.isDigit)
    else ([], cs)
  | _ => ([], cs)

/-- A time of day; a minute may have a sixty-first second. -/
def clockTime? (cs : List Char) : Option (List Char × List Char) := do
  let (hour, cs) ← fixedDigits? 2 cs
  let (minute, cs) ← fixedDigits? 2 (← char? ':' cs)
  let (second, cs) ← fixedDigits? 2 (← char? ':' cs)
  guard (hour ≤ 23 && minute ≤ 59 && second ≤ 60)
  let (fraction, cs) := secondFraction cs
  return (paddedDigits 2 hour ++ ':' :: paddedDigits 2 minute ++ ':' :: paddedDigits 2 second ++
    fraction, cs)

/-- An offset from universal time. One of nothing takes a plus sign. -/
def clockOffset? : List Char → Option (List Char × List Char)
  | [] => none
  | c :: cs =>
    if c = 'Z' || c = 'z' then some (['Z'], cs)
    else if c = '+' || c = '-' then do
      let (hour, cs) ← fixedDigits? 2 cs
      let (minute, cs) ← fixedDigits? 2 (← char? ':' cs)
      guard (hour ≤ 23 && minute ≤ 59)
      let c := if hour = 0 && minute = 0 then '+' else c
      return (c :: paddedDigits 2 hour ++ ':' :: paddedDigits 2 minute, cs)
    else none

/-- The time that may follow a date after a letter or a space. -/
def timeOfDate? : List Char → Option (List Char × List Char)
  | [] => none
  | c :: cs =>
    if c = 'T' || c = 't' || c = ' ' then do
      let (time, cs) ← clockTime? cs
      match clockOffset? cs with
      | some (offset, cs) => return ('T' :: time ++ offset, cs)
      | none => return ('T' :: time, cs)
    else none

/-- A date, a time or both. -/
def datetime? (cs : List Char) : Option (Value × List Char) :=
  match fullDate? cs with
  | some (date, cs) =>
    match timeOfDate? cs with
    | some (time, cs) => some (.datetime (String.ofList (date ++ time)), cs)
    | none => some (.datetime (String.ofList date), cs)
  | none => (clockTime? cs).map fun (time, cs) => (.datetime (String.ofList time), cs)

end Courier.Toml
