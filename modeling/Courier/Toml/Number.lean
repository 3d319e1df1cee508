import Courier.Toml.Reader
import Courier.Toml.Value

/-!
# Reading numbers

Integers are decimal with an optional sign, or hexadecimal, octal or binary without one, and fit in
64 bits. A floating-point number is checked for its form and kept as written; the one it may not be
is a number too large for double precision.
-/

namespace Courier.Toml

open Text (ofDigits)

/-- The integers a document can hold. -/
def isInteger64 (n : Int) : Bool :=
  -(maxInteger + 1 : Int) ≤ n && n ≤ maxInteger

/-- An optional sign: whether it is a minus, and what follows. -/
def sign (cs : List Char) : Bool × List Char :=
  match cs with
  | '-' :: rest => (true, rest)
  | '+' :: rest => (false, rest)
  | _ => (false, cs)

/-- The digits of a decimal integer: a zero alone, or digits that start with another. -/
def decimal? : Reader (List Char)
  | '0' :: rest => some (['0'], rest)
  | cs => digits? Char.isDigit cs

/-- The value of digits in a base. -/
def ofBase (base : Nat) (ds : List Char) : Nat :=
  ds.foldl (fun n c => base * n + (Text.hexDigit? c).getD 0) 0

/-- The digits after `0x`, `0o` or `0b`, with their base. -/
def based? : Reader Nat
  | '0' :: 'x' :: rest =>
    (digits? (fun c => (Text.hexDigit? c).isSome) rest).map fun (ds, rest) => (ofBase 16 ds, rest)
  | '0' :: 'o' :: rest =>
    (digits? (fun c => '0' ≤ c && c ≤ '7') rest).map fun (ds, rest) => (ofBase 8 ds, rest)
  | '0' :: 'b' :: rest =>
    (digits? (fun c => c = '0' || c = '1') rest).map fun (ds, rest) => (ofBase 2 ds, rest)
  | _ => none

/-- An integer. -/
def integer? (cs : List Char) : Option (Value × List Char) := do
  let (n, rest) ← match based? cs with
    | some (n, rest) => some ((n : Int), rest)
    | none =>
      let (negative, cs) := sign cs
      (decimal? cs).map fun (ds, rest) =>
        (if negative then -(ofDigits ds : Int) else ofDigits ds, rest)
  guard (isInteger64 n)
  return (.integer n, rest)

/-- Whether `mantissa * 10 ^ exponent` rounds to infinity in double precision: it is at least half a
unit in the last place above the largest finite number. -/
def exceedsDouble (mantissa : Nat) (exponent : Int) : Bool :=
  let limit := (1 <<< 54 - 1) <<< 970
  let width : Int := (Text.digits mantissa).length
  if mantissa = 0 || width + exponent ≤ 308 then false
  else if width + exponent > 310 then true
  else if exponent ≥ 0 then limit ≤ mantissa * Nat.pow 10 exponent.toNat
  else limit * Nat.pow 10 (-exponent).toNat ≤ mantissa

/-- The fraction of a number: a point and digits. No point means no digits. -/
def fractionPart? : List Char → Option (List Char × List Char)
  | '.' :: rest => digits? Char.isDigit rest
  | _ => none

/-- The exponent of a number: a letter, an optional sign and digits. -/
def exponentPart? : List Char → Option (Int × List Char)
  | c :: rest =>
    if c = 'e' || c = 'E' then
      let (negative, rest) := sign rest
      (digits? Char.isDigit rest).map fun (ds, rest) =>
        (if negative then -(ofDigits ds : Int) else ofDigits ds, rest)
    else none
  | [] => none

/-- Digits, a fraction, an exponent, and what follows; either of the last two may be missing. -/
def floatParts? (cs : List Char) : Option ((List Char × Int) × List Char) := do
  let (whole, cs) ← decimal? cs
  match fractionPart? cs with
  | some (fraction, cs) =>
    match exponentPart? cs with
    | some (exponent, cs) => return ((whole ++ fraction, exponent - fraction.length), cs)
    | none => return ((whole ++ fraction, -fraction.length), cs)
  | none =>
    let (exponent, cs) ← exponentPart? cs
    return ((whole, exponent), cs)

/-- A floating-point number. A number below the least one of double precision is taken, one above
the greatest is not. -/
def float? (cs : List Char) : Option (Value × List Char) := do
  let (negative, unsigned) := sign cs
  let rest ← match word? ['i', 'n', 'f'] unsigned <|> word? ['n', 'a', 'n'] unsigned with
    | some rest => some rest
    | none => do
      let ((ds, exponent), rest) ← floatParts? unsigned
      guard (negative || !exceedsDouble (ofDigits ds) exponent)
      some rest
  return (.float (String.ofList (cs.take (cs.length - rest.length))), rest)

end Courier.Toml
