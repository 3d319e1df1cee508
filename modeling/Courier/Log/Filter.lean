import Courier.Log.Event
import Courier.Text.Blank
import Courier.Text.Numeral

/-!
# Log filters

A filter is a list of directives separated by commas. A directive gives a level to the events of a
part of the program, perhaps only to events with certain details, or within a named span of work. Of
the directives that concern an event the most specific one decides: the one with the longest part,
then the one with the most details. There are no spans in this program, so directives for spans let
nothing through.
-/

namespace Courier.Log

open Text

/-- A detail that a directive asks for, and whether it asks for a value as well. -/
structure Wanted where
  name : String
  hasValue : Bool
  deriving DecidableEq

/-- A directive of a filter. -/
structure Directive where
  /-- How the part of the program begins that the directive is for. -/
  target : Option String := none
  /-- Whether the directive is for a named span. -/
  inSpan : Bool := false
  wanted : List Wanted := []
  /-- The greatest verbosity that is let through. -/
  verbosity : Nat := Level.trace.verbosity
  deriving DecidableEq

namespace Directive

/-- Whether a directive can let an event through on its own, without a span around it. -/
def isForEvents (d : Directive) : Bool :=
  !d.inSpan && d.wanted.all fun wanted => !wanted.hasValue

/-- Whether a directive is for an event. -/
def concerns (d : Directive) (event : Event) : Bool :=
  d.isForEvents &&
    (match d.target with
      | none => true
      | some target => target.toList.isPrefixOf event.origin.toList) &&
    d.wanted.all fun wanted =>
      wanted.name = "message" || event.details.any fun detail => detail.1 = wanted.name

/-- Whether a directive is at least as specific as another. Details are compared by name in the
end. -/
def isAsSpecific (d e : Directive) : Bool :=
  let reach (d : Directive) : Nat := match d.target with
    | none => 0
    | some target => target.utf8ByteSize + 1
  let names (d : Directive) := d.wanted.map (·.name)
  reach e < reach d || (reach e = reach d &&
    (e.wanted.length < d.wanted.length || (e.wanted.length = d.wanted.length &&
      !(names d < names e))))

end Directive

/-! ## Reading directives -/

/-- The verbosity that a word or a number stands for; nothing stands for errors. -/
def verbosity? (cs : List Char) : Option Nat :=
  match natOfDigits? cs with
  | some n => if n ≤ 5 then some n else none
  | none =>
    [("", 1), ("off", 0), ("error", 1), ("warn", 2), ("info", 3), ("debug", 4), ("trace", 5)].lookup
      (String.ofList (cs.map Char.toLower))

/-- Where the reader stands within a directive. Places are counted from the start of the text. -/
inductive DirectivePlace
  | start
  /-- In a level or the beginning of a part's name. -/
  | levelOrTarget (start : Nat)
  | span (start : Nat)
  | wanted (start : Nat)
  | afterWanted
  | afterSpan
  | level (start : Nat)

/-- Characters that a directive may begin with. Characters outside ASCII count as letters. -/
def isDirectiveStart (c : Char) : Bool :=
  c.isAlphanum || c == '-' || c == ':' || c == '_' || 0x80 ≤ c.toNat

/-- A detail that is asked for, with a value after an equals sign. -/
def wanted? (cs : List Char) : Option Wanted :=
  if cs.isEmpty then none
  else some ⟨String.ofList (cs.takeWhile (· ≠ '=')), cs.contains '='⟩

/-- The text between two places. -/
def between (cs : List Char) (start stop : Nat) : List Char :=
  (cs.take stop).drop start

/-- Takes one character of a directive. -/
def directiveStep (cs : List Char) (d : Directive) (i : Nat) (c : Char) :
    DirectivePlace → Option (Directive × DirectivePlace)
  | .start =>
    if c = '[' then some (d, .span (i + 1))
    else if isDirectiveStart c then some (d, .levelOrTarget i)
    else none
  | .levelOrTarget start =>
    if c = '=' then
      some ({ d with target := some (String.ofList (between cs start i)) }, .level (i + 1))
    else if c = '[' then
      some ({ d with target := some (String.ofList (between cs start i)) }, .span (i + 1))
    else some (d, .levelOrTarget start)
  | .span start =>
    if c = ']' then some ({ d with inSpan := true }, .afterSpan)
    else if c = '\x7b' then
      some ({ d with inSpan := !(between cs start i).isEmpty }, .wanted (i + 1))
    else some (d, .span start)
  | .wanted start =>
    if c = '\x7d' then
      (wanted? (between cs start i)).map fun wanted =>
        ({ d with wanted := d.wanted ++ [wanted] }, .afterWanted)
    else some (d, .wanted start)
  | .afterWanted => if c = ']' then some (d, .afterSpan) else none
  | .afterSpan => if c = '=' then some (d, .level (i + 1)) else none
  | .level start => some (d, .level start)

/-- Takes the characters of a directive, counting them. -/
def directiveSteps (cs : List Char) (d : Directive) (place : DirectivePlace) (i : Nat) :
    List Char → Option (Directive × DirectivePlace)
  | [] => some (d, place)
  | c :: rest => do
    let (d, place) ← directiveStep cs d i c place
    directiveSteps cs d place (i + 1) rest

/-- Reads a directive. The text is read without the white space around it, while names and levels
are cut from the text as it is, at the same places. A name without a level lets everything through.
-/
def directive? (cs : List Char) : Option Directive := do
  let (d, place) ← directiveSteps cs {} .start 0 (trimRight (trimLeft cs))
  match place with
  | .levelOrTarget start =>
    match verbosity? (cs.drop start) with
    | some verbosity => return { d with target := none, verbosity }
    | none => return { d with target := some (String.ofList (cs.drop start)) }
  | .level start =>
    if (cs.drop start).isEmpty then return d
    else return { d with verbosity := ← verbosity? (cs.drop start) }
  | .afterSpan => return d
  | _ => none

/-! ## Filters -/

/-- The texts of the directives of a filter. -/
def directiveTexts (s : String) : List (List Char) :=
  ((s.toList.splitOn ',').filter fun cs => !cs.isEmpty)

/-- The directives of a filter. -/
structure Filter where
  directives : List Directive

namespace Filter

/-- The directive that decides on an event: the most specific, and of equals the last. -/
def deciding? (filter : Filter) (event : Event) : Option Directive :=
  (filter.directives.filter fun d => d.concerns event).foldl (fun best d =>
    match best with
    | none => some d
    | some e => if d.isAsSpecific e then some d else some e) none

/-- Whether a filter lets an event through. -/
def allows (filter : Filter) (event : Event) : Bool :=
  match filter.deciding? event with
  | some d => event.level.verbosity ≤ d.verbosity
  | none => false

/-- The filter of the surroundings: every directive must be readable. An empty one lets nothing
through. -/
def strict? (s : String) : Option Filter :=
  ((directiveTexts s).mapM directive?).map Filter.mk

/-- The filter of a configured level: directives that cannot be read are left out. Where none is
left, errors are let through. -/
def lenient (s : String) : Filter :=
  match (directiveTexts s).filterMap directive? with
  | [] => ⟨[{ verbosity := Level.error.verbosity }]⟩
  | directives => ⟨directives⟩

/-- The filter to use: the surroundings' own if there is one and it can be read, else the
configured one. -/
def choose (surroundings : Option String) (configured : String) : Filter :=
  match surroundings.bind strict? with
  | some filter => filter
  | none => lenient configured

end Filter

end Courier.Log
