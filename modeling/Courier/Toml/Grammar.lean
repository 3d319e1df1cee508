import Courier.Toml.Assembly
import Courier.Toml.Datetime
import Courier.Toml.Number
import Courier.Toml.Quotation

/-!
# Reading keys, values and lines

A document is read line by line. A line is blank, or a header, or a key with its value; lists may go
on over several lines. Brackets and braces nest to a fixed depth and keys have a greatest number of
parts.
-/

namespace Courier.Toml

/-- The number of brackets and braces that may be open at once. -/
def maxDepth : Nat := 79

/-- The number of parts a dotted key may have. -/
def maxKeyParts : Nat := 79

/-- Characters of a key without quotes. -/
def isBareKeyChar (c : Char) : Bool :=
  c.isAlphanum || c == '-' || c == '_'

/-- One part of a key. -/
def keyPart : Reader String
  | '"' :: rest => (basicLine rest).map fun (cs, rest) => (String.ofList cs, rest)
  | '\'' :: rest => (literalLine rest).map fun (cs, rest) => (String.ofList cs, rest)
  | cs =>
    let name := cs.takeWhile isBareKeyChar
    if name.isEmpty then none else some (String.ofList name, cs.dropWhile isBareKeyChar)

/-- The parts of a key, separated by points. Blanks may stand around every part. -/
def keyParts (cs : List Char) : Option (List String × List Char) :=
  match keyPart (skipSpaces cs) with
  | none => none
  | some (part, rest) =>
    match skipSpaces rest with
    | '.' :: more =>
      if more.length < cs.length then
        (keyParts more).map fun (parts, rest) => (part :: parts, rest)
      else none
    | rest => some ([part], rest)
termination_by cs.length

/-- A key, with blanks around it. -/
def keyPath (cs : List Char) : Option (KeyPath × List Char) := do
  let (parts, rest) ← keyParts cs
  guard (parts.length ≤ maxKeyParts)
  let key ← parts.getLast?
  return (⟨parts.dropLast, key⟩, rest)

/-- A key and its value, with `value` to read the latter. -/
def pair (value : Reader Value) (cs : List Char) : Option (Pair × List Char) := do
  let (path, cs) ← keyPath cs
  let (v, cs) ← value (skipSpaces (← char? '=' cs))
  return (⟨path, v⟩, cs)

/-- The rest of a list after its opening bracket or a comma. -/
def listItems (value : Reader Value) (cs : List Char) : Option (List Value × List Char) :=
  match skipVoid false cs with
  | none => none
  | some (']' :: rest) => some ([], rest)
  | some start =>
    match value start with
    | none => none
    | some (v, rest) =>
      match skipVoid false rest with
      | some (']' :: rest) => some ([v], rest)
      | some (',' :: rest) =>
        if rest.length < cs.length then
          (listItems value rest).map fun (vs, rest) => (v :: vs, rest)
        else none
      | _ => none
termination_by cs.length

/-- The rest of a table between braces, from one of its keys on. -/
def inlinePairs (value : Reader Value) (cs : List Char) : Option (List Pair × List Char) :=
  match pair value cs with
  | none => none
  | some (p, rest) =>
    match skipSpaces rest with
    | '}' :: rest => some ([p], rest)
    | ',' :: rest =>
      if rest.length < cs.length then
        (inlinePairs value rest).map fun (ps, rest) => (p :: ps, rest)
      else none
    | _ => none
termination_by cs.length

/-- A table after its opening brace. -/
def inlineTable (value : Reader Value) (cs : List Char) : Option (Value × List Char) :=
  match skipSpaces cs with
  | '}' :: rest => some (.table .braces [], rest)
  | cs => do
    let (pairs, rest) ← inlinePairs value cs
    return (.table .braces (← Table.insertAll .braces [] pairs), rest)

/-- A value that starts with neither a quote nor a bracket nor a brace. -/
def plainValue (cs : List Char) : Option (Value × List Char) :=
  match cs with
  | [] => none
  | 't' :: rest => (word? ['r', 'u', 'e'] rest).map fun rest => (.boolean true, rest)
  | 'f' :: rest => (word? ['a', 'l', 's', 'e'] rest).map fun rest => (.boolean false, rest)
  | cs => (datetime? cs).or ((float? cs).or (integer? cs))

/-- A value in which at most `depth` brackets and braces are open at once. -/
def value (depth : Nat) (cs : List Char) : Option (Value × List Char) :=
  match cs with
  | '"' :: _ | '\'' :: _ => (quotation cs).map fun (s, rest) => (.string (String.ofList s), rest)
  | '[' :: rest =>
    match depth with
    | 0 => none
    | depth + 1 => (listItems (value depth) rest).map fun (vs, rest) => (.array false vs, rest)
  | '{' :: rest =>
    match depth with
    | 0 => none
    | depth + 1 => inlineTable (value depth) rest
  | cs => plainValue cs

/-- What a line says. -/
inductive Line
  | blank
  /-- Opens a table. -/
  | table (path : KeyPath)
  /-- Opens an element of a list of tables. -/
  | element (path : KeyPath)
  | pair (p : Pair)

/-- What a line says, without the blanks, the comment and the line end that close it. -/
def lineContent (cs : List Char) : Option (Line × List Char) :=
  match cs with
  | '[' :: '[' :: rest => do
    let (path, rest) ← keyPath rest
    return (.element path, ← word? [']', ']'] rest)
  | '[' :: rest => do
    let (path, rest) ← keyPath rest
    return (.table path, ← char? ']' rest)
  | [] => some (.blank, [])
  | c :: _ =>
    if c = '#' || c = '\n' || c = '\r' then some (.blank, cs)
    else (pair (value maxDepth) cs).map fun (p, rest) => (.pair p, rest)

/-- A whole line. -/
def line (cs : List Char) : Option (Line × List Char) := do
  let (content, rest) ← lineContent (skipSpaces cs)
  return (content, ← finishLine? rest)

end Courier.Toml
