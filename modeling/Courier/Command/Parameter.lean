import Courier.Files.Path
import Courier.Text.Numeral

/-!
# Parameters

The parameters of the program and of its commands: the name after two hyphens, what values they
take, and which of them belong to which command.
-/

namespace Courier.Command

/-- What a command line was refused for. -/
inductive LineError
  | unknownArgument
  | invalidSubcommand
  | missingRequiredArgument
  | argumentConflict
  | invalidValue
  | valueValidation
  | tooManyValues
  /-- Not a refusal: help was asked for. -/
  | displayHelp
  deriving DecidableEq

/-- The words for a refused command line. -/
def LineError.message : LineError → String
  | unknownArgument => "unexpected argument"
  | invalidSubcommand => "unknown command"
  | missingRequiredArgument => "a required argument is missing"
  | argumentConflict => "an argument excludes another or is given twice"
  | invalidValue => "an argument lacks its value"
  | valueValidation => "a value is not a number"
  | tooManyValues => "an argument takes no value"
  | displayHelp => "commands: send, retry, receive, chats, add-chat"

/-- What a parameter takes. -/
inductive Taking
  /-- Any text. -/
  | text
  /-- A text that is not empty. -/
  | path
  /-- A number of 64 bits. -/
  | number
  /-- Nothing. -/
  | nothing
  deriving DecidableEq

/-- The parameters of all commands. -/
inductive Parameter
  | config
  | chat
  | text
  | link
  | image
  | video
  | file
  | voice
  | durationMs
  | contact
  | caption
  | replyTo
  | messageId
  | recipient
  | limit
  | name
  | group
  | muted
  | disconnected
  /-- The one parameter without a name of its own. -/
  | path
  deriving DecidableEq

namespace Parameter

/-- The name of a parameter after two hyphens. -/
def long : Parameter → String
  | config => "config"
  | chat => "chat"
  | text => "text"
  | link => "link"
  | image => "image"
  | video => "video"
  | file => "file"
  | voice => "voice"
  | durationMs => "duration-ms"
  | contact => "contact"
  | caption => "caption"
  | replyTo => "reply-to"
  | messageId => "message-id"
  | recipient => "recipient"
  | limit => "limit"
  | name => "name"
  | group => "group"
  | muted => "muted"
  | disconnected => "disconnected"
  | path => "path"

/-- What a parameter takes. -/
def taking : Parameter → Taking
  | config | image | video | file | voice | path => .path
  | durationMs | limit => .number
  | group | muted | disconnected => .nothing
  | _ => .text

end Parameter

/-- A number of 64 bits, written in digits after at most one plus sign. -/
def number? (s : String) : Option Nat :=
  (Text.natOfDigits? s.toList).bind fun n => if n < UInt64.size then some n else none

/-- Refuses a value that a parameter cannot take. -/
def Taking.check (value : String) : Taking → Except LineError Unit
  | .path => if value.isEmpty then .error .invalidValue else .ok ()
  | .number => if (number? value).isSome then .ok () else .error .valueValidation
  | .text | .nothing => .ok ()

/-- The words that name commands. -/
inductive Verb
  | send
  | retry
  | receive
  | chats
  | addChat
  deriving DecidableEq

namespace Verb

/-- The word for a command. -/
def word : Verb → String
  | send => "send"
  | retry => "retry"
  | receive => "receive"
  | chats => "chats"
  | addChat => "add-chat"

/-- The command a word stands for. -/
def ofWord? (word : String) : Option Verb :=
  [send, retry, receive, chats, addChat].find? fun verb => verb.word = word

/-- The parameters of a command that are named after hyphens. The configuration file may be named
with any command. -/
def parameters : Verb → List Parameter
  | send => [.config, .chat, .text, .link, .image, .video, .file, .voice, .durationMs, .contact,
      .caption, .replyTo, .messageId, .recipient]
  | retry => [.config, .messageId]
  | receive => [.config]
  | chats => [.config, .limit]
  | addChat => [.config, .chat, .name, .group, .muted, .disconnected]

end Verb

end Courier.Command
