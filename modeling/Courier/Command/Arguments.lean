import Courier.Chat.Listing
import Courier.Files.Path

/-!
# Commands

What the program can be asked to do.
-/

namespace Courier

/-- What to send, and to which chat. -/
structure SendArguments where
  chat : String
  text : Option String := none
  link : Option String := none
  image : Option Path := none
  video : Option Path := none
  file : Option Path := none
  voice : Option Path := none
  durationMs : Option UInt64 := none
  contact : Option String := none
  caption : Option String := none
  replyTo : Option String := none
  messageId : Option String := none
  recipient : Option String := none
  deriving DecidableEq

/-- A chat to be registered. -/
structure AddChatArguments where
  chat : String
  name : String
  group : Bool := false
  muted : Bool := false
  disconnected : Bool := false
  deriving DecidableEq

/-- The commands of the program. -/
inductive Command
  | send (arguments : SendArguments)
  | retry (messageId : String)
  | receive (path : Path)
  | chats (limit : Nat)
  | addChat (arguments : AddChatArguments)
  deriving DecidableEq

/-- A command with the configuration file to use; either may be left out. -/
structure Invocation where
  config : Option Path := none
  command : Option Command := none
  deriving DecidableEq

/-- The command of an invocation; without one, chats are listed. -/
def Invocation.commandOrDefault (invocation : Invocation) : Command :=
  invocation.command.getD (.chats Listing.defaultLimit)

end Courier
