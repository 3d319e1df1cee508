import Courier.Command.Arguments
import Courier.Command.Parameter

/-!
# Reading the command line

A command line is read word by word, first for the program itself and then, from the name of a
command on, for that command. A value that is attached to its parameter is checked at once. A value
in a word of its own is checked when the next parameter comes or the words end, so another fault
may be told before it. What must be there, and what excludes what, is checked last.
-/

namespace Courier.Command

/-- A parameter that may still be in want of its value. -/
structure Pending where
  parameter : Parameter
  value : Option String

/-- The words read so far, at the level of the program or of a command. -/
structure Reading where
  /-- The parameters given so far, with values they can take. -/
  given : List (Parameter × String) := []
  pending : Option Pending := none
  /-- Whether all further words are values, after a word of two hyphens. -/
  onlyValues : Bool := false
  /-- Whether the parameter without a name has had its word. -/
  placed : Bool := false

namespace Reading

/-- Whether the next word is the value of a parameter. -/
def awaits (reading : Reading) : Bool :=
  match reading.pending with
  | some ⟨_, none⟩ => true
  | _ => false

/-- Gives a parameter a value. It may be given once, and the value must be one it can take. -/
def give (reading : Reading) (parameter : Parameter) (value : String) :
    Except LineError Reading := do
  if reading.given.any fun entry => entry.1 = parameter then throw .argumentConflict
  parameter.taking.check value
  return { reading with given := reading.given ++ [(parameter, value)] }

/-- Gives the pending parameter its value, which must have come. -/
def settle (reading : Reading) : Except LineError Reading :=
  match reading.pending with
  | none => .ok reading
  | some ⟨_, none⟩ => .error .invalidValue
  | some ⟨parameter, some value⟩ => { reading with pending := none }.give parameter value

/-- The value of a parameter. -/
def value? (reading : Reading) (parameter : Parameter) : Option String :=
  reading.given.lookup parameter

end Reading

/-- What a word looks like. -/
inductive Shape
  /-- Two hyphens. -/
  | separator
  /-- A name after two hyphens, and what follows an equals sign. -/
  | long (name : String) (attached : Option String)
  /-- A letter after one hyphen, and what follows it. -/
  | short (letter : Char) (rest : List Char)
  | plain
  deriving DecidableEq

/-- The shape of a word. One hyphen alone is plain. -/
def Shape.of (word : String) : Shape :=
  match word.toList with
  | ['-', '-'] => .separator
  | '-' :: '-' :: cs =>
    let name := cs.takeWhile (· ≠ '=')
    match cs.dropWhile (· ≠ '=') with
    | _ :: attached => .long (String.ofList name) (some (String.ofList attached))
    | [] => .long (String.ofList name) none
  | '-' :: letter :: rest => .short letter rest
  | _ => .plain

/-- What follows the letter of a parameter, less an equals sign. -/
def attachedToLetter : List Char → Option String
  | [] => none
  | '=' :: rest => some (String.ofList rest)
  | rest => some (String.ofList rest)

/-- Takes a parameter, with the value attached to it if there is one. -/
def takeParameter (reading : Reading) (parameter : Parameter) (attached : Option String) :
    Except LineError Reading := do
  match parameter.taking, attached with
  | .nothing, some _ => throw .tooManyValues
  | .nothing, none => (← reading.settle).give parameter "true"
  | _, some value => (← reading.settle).give parameter value
  | _, none => return { (← reading.settle) with pending := some ⟨parameter, none⟩ }

/-- Takes the request for help. Faults of the words before it come first. -/
def takeHelp (reading : Reading) (attached : Option String) : Except LineError Reading := do
  if attached.isSome then throw .tooManyValues
  discard reading.settle
  throw .displayHelp

/-- Takes a word of a shape that names a parameter, at a level with these parameters. -/
def takeNamed (parameters : List Parameter) (reading : Reading) :
    Shape → Except LineError Reading
  | .long name attached =>
    match parameters.find? fun parameter => parameter.long = name with
    | some parameter => takeParameter reading parameter attached
    | none => if name = "help" then takeHelp reading attached else .error .unknownArgument
  | .short letter rest =>
    if letter = 'c' then takeParameter reading .config (attachedToLetter rest)
    else if letter = 'h' then takeHelp reading none
    else .error .unknownArgument
  | .separator => .ok { reading with onlyValues := true }
  | .plain => .ok reading

/-- Takes a word that is a value: of the parameter that awaits one, else of the parameter without a
name. -/
def takeValue (hasPath : Bool) (reading : Reading) (word : String) : Except LineError Reading :=
  match reading.pending, reading.onlyValues with
  | some ⟨parameter, none⟩, false =>
    .ok { reading with pending := some ⟨parameter, some word⟩ }
  | _, _ =>
    if hasPath && !reading.placed then do
      return { (← reading.settle) with pending := some ⟨.path, some word⟩, placed := true }
    else .error .unknownArgument

/-- Takes a word of a command. -/
def takeWord (verb : Verb) (reading : Reading) (word : String) : Except LineError Reading :=
  if reading.onlyValues || Shape.of word = .plain then takeValue (verb = .receive) reading word
  else takeNamed verb.parameters reading (Shape.of word)

/-! ## Commands -/

/-- The parameters that say what to send. -/
def contentParameters : List Parameter :=
  [.text, .link, .image, .video, .file, .voice, .contact]

/-- Refuses a message with two contents, without a chat or a content, or a recording without its
length. -/
def checkSend (reading : Reading) : Except LineError Unit := do
  let isGiven parameter := (reading.value? parameter).isSome
  let contents := contentParameters.filter isGiven
  if contents.length > 1 then throw .argumentConflict
  unless isGiven .chat && !contents.isEmpty do throw .missingRequiredArgument
  if isGiven .voice && !isGiven .durationMs then throw .missingRequiredArgument

/-- A parameter that must be given. -/
def need (reading : Reading) (parameter : Parameter) : Except LineError String :=
  match reading.value? parameter with
  | some value => .ok value
  | none => .error .missingRequiredArgument

/-- The command that the parameters make up. -/
def ofReading (reading : Reading) : Verb → Except LineError Command
  | .send => do
    checkSend reading
    let path parameter := (reading.value? parameter).map Path.mk
    return .send {
      chat := ← need reading .chat
      text := reading.value? .text
      link := reading.value? .link
      image := path .image
      video := path .video
      file := path .file
      voice := path .voice
      durationMs := ((reading.value? .durationMs).bind number?).map UInt64.ofNat
      contact := reading.value? .contact
      caption := reading.value? .caption
      replyTo := reading.value? .replyTo
      messageId := reading.value? .messageId
      recipient := reading.value? .recipient }
  | .retry => do return .retry (← need reading .messageId)
  | .receive => do return .receive ⟨← need reading .path⟩
  | .chats => .ok (.chats (((reading.value? .limit).bind number?).getD Listing.defaultLimit))
  | .addChat => do
    return .addChat {
      chat := ← need reading .chat
      name := ← need reading .name
      group := (reading.value? .group).isSome
      muted := (reading.value? .muted).isSome
      disconnected := (reading.value? .disconnected).isSome }

/-- Reads the words of a command; the configuration file may be among them. -/
def readCommand (verb : Verb) (words : List String) : Except LineError Invocation := do
  let reading ← (← words.foldlM (takeWord verb) {}).settle
  return { config := (reading.value? .config).map Path.mk
           command := some (← ofReading reading verb) }

/-! ## The program -/

/-- What the words after a request for help ask about: nothing, one command, or help itself. -/
def readHelp : List String → LineError
  | [] => .displayHelp
  | [word] => if word = "help" || (Verb.ofWord? word).isSome then .displayHelp
    else .invalidSubcommand
  | _ => .invalidSubcommand

/-- A word that is neither a parameter nor a command. After two hyphens the name of a command is
told apart from other words. -/
def strayWord (reading : Reading) (word : String) : LineError :=
  if reading.onlyValues && (word = "help" || (Verb.ofWord? word).isSome) then .unknownArgument
  else .invalidSubcommand

/-- The configuration file named nearest to the command counts. -/
def finish (reading : Reading) (invocation : Invocation) : Except LineError Invocation := do
  let config := ((← reading.settle).value? .config).map Path.mk
  return { invocation with config := invocation.config.or config }

/-- Reads the words of the program, up to the name of a command. -/
def readWords (reading : Reading) : List String → Except LineError Invocation
  | [] => finish reading {}
  | word :: words =>
    if !reading.onlyValues && !reading.awaits && word = "help" then .error (readHelp words)
    else
      match if !reading.onlyValues && !reading.awaits then Verb.ofWord? word else none with
      | some verb => do finish reading (← readCommand verb words)
      | none =>
        if reading.onlyValues then .error (strayWord reading word)
        else if Shape.of word ≠ .plain then do
          readWords (← takeNamed [.config] reading (Shape.of word)) words
        else if reading.awaits then do
          readWords (← takeValue false reading word) words
        else .error (strayWord reading word)

/-- Reads a command line, without the name of the program. -/
def readLine (words : List String) : Except LineError Invocation :=
  readWords {} words

end Courier.Command
