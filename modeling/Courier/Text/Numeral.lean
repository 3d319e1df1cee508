/-!
# Decimal numerals

Numbers are written without leading zeros unless a width is asked for, and read from runs of
ASCII digits.
-/

namespace Courier.Text

/-- The decimal digits of a number, without leading zeros. -/
def digits (n : Nat) : List Char :=
  Nat.toDigits 10 n

/-- The decimal digits of a number, filled up with zeros on the left to a least width. -/
def paddedDigits (width n : Nat) : List Char :=
  List.replicate (width - (digits n).length) '0' ++ digits n

/-- The number a run of decimal digits stands for, most significant digit first. -/
def ofDigits (cs : List Char) : Nat :=
  cs.foldl (fun n c => 10 * n + (c.toNat - 48)) 0

/-- Reads a whole text as a number: decimal digits after at most one plus sign. -/
def natOfDigits? (cs : List Char) : Option Nat :=
  let ds := match cs with
    | '+' :: rest => rest
    | _ => cs
  if !ds.isEmpty && ds.all Char.isDigit then some (ofDigits ds) else none

/-- The hexadecimal digits of a number in capitals, filled up with zeros to a width. -/
def paddedHex (width n : Nat) : List Char :=
  let ds := (Nat.toDigits 16 n).map Char.toUpper
  List.replicate (width - ds.length) '0' ++ ds

/-- The value of a hexadecimal digit of either case. -/
def hexDigit? (c : Char) : Option Nat :=
  if c.isDigit then some (c.toNat - 48)
  else if 'a' ≤ c && c ≤ 'f' then some (c.toNat - 87)
  else if 'A' ≤ c && c ≤ 'F' then some (c.toNat - 55)
  else none

end Courier.Text
