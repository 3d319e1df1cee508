import Courier.Text.Blank
import Courier.Text.Numeral
import Courier.Time.Instant

/-!
# Timestamps

Instants are written as RFC 3339 timestamps in universal time. Reading is more lenient than
writing: numbers may lack leading zeros, white space may stand around every component, a space or
a small letter may separate date and time, and any offset is taken into account.
-/

namespace Courier.Timestamp

open Text

/-- A character that may follow white space, and what comes after it. -/
def mark? (mark : Char) (cs : List Char) : Option (List Char) :=
  match trimLeft cs with
  | [] => none
  | c :: rest => if c = mark then some rest else none

/-- A number of at least one and at most `width` digits, and what follows them. -/
def number? (width : Nat) (cs : List Char) : Option (Nat × List Char) :=
  let ds := (cs.take width).takeWhile Char.isDigit
  if ds.isEmpty then none else some (ofDigits ds, cs.drop ds.length)

/-- A number of one or two digits that may follow white space. -/
def field? (cs : List Char) : Option (Nat × List Char) :=
  number? 2 (trimLeft cs)

/-- A year: four digits at most without a sign, any number of them with one. -/
def year? (cs : List Char) : Option (Int × List Char) :=
  match trimLeft cs with
  | '-' :: rest => (number? rest.length rest).map fun (n, rest) => (-(n : Int), rest)
  | '+' :: rest => (number? rest.length rest).map fun (n, rest) => ((n : Int), rest)
  | cs => (number? 4 cs).map fun (n, rest) => ((n : Int), rest)

/-- The date part. -/
def date? (cs : List Char) : Option (Date × List Char) := do
  let (year, cs) ← year? cs
  let (month, cs) ← field? (← mark? '-' cs)
  let (day, cs) ← field? (← mark? '-' cs)
  let date ← Date.of? year month day
  return (date, cs)

/-- The one character between date and time. -/
def separator? : List Char → Option (List Char)
  | c :: rest => if c = 'T' || c = 't' || c = ' ' then some rest else none
  | [] => none

/-- A fraction of a second in nanoseconds, zero without a point. Digits after the ninth are
dropped. -/
def fraction? : List Char → Option (Nat × List Char)
  | '.' :: cs =>
    let ds := (cs.take 9).takeWhile Char.isDigit
    if ds.isEmpty then none
    else some (ofDigits (ds ++ List.replicate (9 - ds.length) '0'), cs.dropWhile Char.isDigit)
  | cs => some (0, cs)

/-- The time of day as seconds since midnight and nanoseconds. A sixtieth second is a leap second:
it counts as a second billion of nanoseconds of the second before. -/
def time? (cs : List Char) : Option ((Nat × Nat) × List Char) := do
  let (hour, cs) ← field? cs
  let (minute, cs) ← field? (← mark? ':' cs)
  let (second, cs) ← field? (← mark? ':' cs)
  let (nano, cs) ← fraction? cs
  guard (hour ≤ 23 && minute ≤ 59 && second ≤ 60)
  let start := hour * 3600 + minute * 60
  return (if second = 60 then (start + 59, nanosPerSecond + nano) else (start + second, nano), cs)

/-- Two digits and what follows them. -/
def twoDigits? : List Char → Option (Nat × List Char)
  | a :: b :: rest => if a.isDigit && b.isDigit then some (ofDigits [a, b], rest) else none
  | _ => none

/-- Hours and minutes of an offset in seconds. Colons and white space may stand between them. -/
def offsetLength? (cs : List Char) : Option (Int × List Char) := do
  let (hours, cs) ← twoDigits? cs
  let (minutes, cs) ← twoDigits? (cs.dropWhile fun c => c = ':' || isBlank c)
  guard (minutes ≤ 59)
  return ((hours * 3600 + minutes * 60 : Nat), cs)

/-- Whether a text starts with the name of universal time in letters of any case. -/
def startsWithUtc (cs : List Char) : Bool :=
  (cs.take 3).map Char.toUpper == ['U', 'T', 'C']

/-- The offset from universal time in seconds, less than a day in either direction. The minus sign
may be the hyphen or U+2212. -/
def offset? (cs : List Char) : Option (Int × List Char) := do
  let cs := trimLeft cs
  if startsWithUtc cs then return (0, cs.drop 3)
  match cs with
  | [] => none
  | c :: rest =>
    if c = 'Z' || c = 'z' then return (0, rest)
    else
      guard (c = '+' || c = '-' || c = '\u2212')
      let (length, rest) ← offsetLength? rest
      guard (length < 86400)
      return (if c = '+' then length else -length, rest)

/-- The instant at which clocks with an offset show a date and a time of day. -/
def atOffset? (date : Date) (second nano : Nat) (offset : Int) : Option Instant := do
  let shifted := second - offset
  if shifted < 0 then Instant.of? (← date.previous?) (shifted + 86400).toNat nano
  else if shifted < 86400 then Instant.of? date shifted.toNat nano
  else Instant.of? (← date.next?) (shifted - 86400).toNat nano

/-- Reads a timestamp; nothing but white space may follow it. -/
def read? (s : String) : Option Instant := do
  let (date, cs) ← date? s.toList
  let ((second, nano), cs) ← time? (← separator? cs)
  let (offset, cs) ← offset? cs
  guard (trimLeft cs).isEmpty
  atOffset? date second nano offset

/-- A year in four digits, with a sign outside 0 to 9999. -/
def writeYear (year : Int) : List Char :=
  if 0 ≤ year ∧ year ≤ 9999 then paddedDigits 4 year.toNat
  else (if year < 0 then '-' else '+') :: paddedDigits 4 year.natAbs

/-- A date with its parts joined by hyphens. -/
def writeDate (date : Date) : List Char :=
  writeYear date.year ++ '-' :: paddedDigits 2 date.month ++ '-' :: paddedDigits 2 date.day

/-- Hour and minute of a time of day. -/
def writeMinute (second : Nat) : List Char :=
  paddedDigits 2 (second / 3600) ++ ':' :: paddedDigits 2 (second / 60 % 60)

/-- A fraction of a second in no, three, six or nine digits, the fewest that are exact. -/
def writeFraction (nano : Nat) : List Char :=
  if nano = 0 then []
  else if nano % 1000000 = 0 then '.' :: paddedDigits 3 (nano / 1000000)
  else if nano % 1000 = 0 then '.' :: paddedDigits 6 (nano / 1000)
  else '.' :: paddedDigits 9 nano

/-- Seconds and fraction; within a leap second the seconds are one more. -/
def writeSecond (second nano : Nat) : List Char :=
  paddedDigits 2 (second % 60 + nano / nanosPerSecond) ++ writeFraction (nano % nanosPerSecond)

/-- An instant as a timestamp in universal time. -/
def write (t : Instant) : String :=
  String.ofList (writeDate t.date ++ 'T' :: writeMinute t.second ++ ':' ::
    writeSecond t.second t.nano ++ ['Z'])

/-- An instant to the minute, with a space between date and time. -/
def writeToMinute (t : Instant) : String :=
  String.ofList (writeDate t.date ++ ' ' :: writeMinute t.second)

end Courier.Timestamp
