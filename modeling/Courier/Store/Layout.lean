import Courier.Chat.Basic
import Courier.Files.Disk

/-!
# Where data is kept

Everything lies below one data folder: the registry of chats, the lock, a folder of received
messages for each chat, and an outbox for each kind of chat.
-/

namespace Courier

/-- The data folder that all other places are in. -/
structure Layout where
  dataFolder : Path
  deriving DecidableEq

namespace Layout

/-- The folder of received messages. -/
def messages (layout : Layout) : Path :=
  layout.dataFolder.child "messages"

/-- The folder of the outboxes. -/
def outboxes (layout : Layout) : Path :=
  layout.dataFolder.child "outbox"

/-- The registry of chats. -/
def registry (layout : Layout) : Path :=
  layout.dataFolder.child "connections.toml"

/-- The file that is locked while something is written. -/
def lock (layout : Layout) : Path :=
  layout.dataFolder.child "store.lock"

/-- The folder of the received messages of a chat. -/
def chatMessages (layout : Layout) (chatId : String) : Path :=
  layout.messages.child chatId

/-- The outbox of a kind of chat. -/
def outbox (layout : Layout) (kind : ChatKind) : Path :=
  layout.outboxes.child kind.word

/-- The file of a message within a folder. -/
def messageFile (folder : Path) (messageId : String) : Path :=
  folder.child (messageId ++ ".toml")

/-- The folders that must exist, in the order in which they are made. -/
def folders (layout : Layout) : List Path :=
  [layout.dataFolder, layout.messages, layout.outbox .direct, layout.outbox .group]

/-- Makes some folders, up to the first that cannot be made. -/
def makeAll (d : Disk) : List Path → Disk × Except (Path × FileError) Unit
  | [] => (d, .ok ())
  | folder :: rest =>
    match d.makeFolders folder with
    | (d, .ok ()) => makeAll d rest
    | (d, .error error) => (d, .error (folder, error))

/-- Makes the folders that are missing. -/
def prepare (layout : Layout) (d : Disk) : Disk × Except (Path × FileError) Unit :=
  makeAll d layout.folders

/-- What the surroundings say about where data belongs. -/
structure Surroundings where
  /-- The folder for the data of all programs. -/
  xdgDataHome : Option String := none
  /-- The user's own folder. -/
  home : Option String := none
  /-- The user's own folder as the system's accounts have it. -/
  accountHome : Option String := none

/-- The name of the program's folder among those of other programs. -/
def programFolder : String := "portmsg"

/-- The folder for the data of all programs: the one that is named, else the usual place below the
user's own folder. -/
def Surroundings.dataHome? (s : Surroundings) : Option Path :=
  match s.xdgDataHome with
  | some folder => some ⟨folder⟩
  | none =>
    let home := match s.home with
      | some home => if home.isEmpty then s.accountHome else some home
      | none => s.accountHome
    home.map fun home => (Path.mk home).child ".local/share"

/-- The layout below a configured folder, else below the program's folder for data. -/
def locate? (configured : Option Path) (s : Surroundings) : Option Layout :=
  match configured with
  | some folder => some ⟨folder⟩
  | none => s.dataHome?.map fun home => ⟨home.child programFolder⟩

end Layout

end Courier
