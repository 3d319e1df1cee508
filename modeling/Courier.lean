import Courier.Command.Program
import Courier.Main
import Courier.Proofs.Time.Timestamp
import Courier.Proofs.Toml.Quotation
import Courier.Proofs.Toml.Line
import Courier.Proofs.Toml.Section
import Courier.Proofs.Toml.Assembly
import Courier.Proofs.Toml.RoundTrip
import Courier.Proofs.Stored.Field
import Courier.Proofs.Stored.Message
import Courier.Proofs.Stored.Chat
import Courier.Proofs.Stored.RoundTrip
import Courier.Proofs.Files.Path
import Courier.Proofs.Files.View
import Courier.Proofs.Files.Walk
import Courier.Proofs.Files.Disk
import Courier.Proofs.Files.Document
import Courier.Proofs.Files.Folder
import Courier.Proofs.Files.Agreement
import Courier.Proofs.Store.Place
import Courier.Proofs.Store.Local
import Courier.Proofs.Store.Message
import Courier.Proofs.Inbox.Receive
import Courier.Proofs.Chat.Registry
import Courier.Proofs.Inbox.Failure
import Courier.Proofs.Command.Execute
import Courier.Proofs.Inbox.History
import Courier.Proofs.Command.DataFolder
import Courier.Proofs.Command.Route
import Courier.Proofs.Store.Attempts
import Courier.Proofs.Chat.Exchange
import Courier.Proofs.Command.Confinement
import Courier.Proofs.Command.Ready
import Courier.Proofs.Command.Session
import Courier.Proofs.Command.Retry
import Courier.Proofs.Inbox.Protocol
import Courier.Proofs.Command.Lookup
import Courier.Proofs.Store.Lock
import Courier.Proofs.Command.Lock
import Courier.Proofs.Command.Damage
import Courier.Proofs.Delivery.Observation
import Courier.Proofs.Command.Line
import Courier.Proofs.Command.Words
import Courier.Proofs.Command.Compose
import Courier.Proofs.Files.Answer
import Courier.Proofs.Store.Undisturbed
import Courier.Proofs.Inbox.Answer
import Courier.Proofs.Inbox.Commutation
import Courier.Proofs.Text.Bytes
import Courier.Proofs.Time.Instant
import Courier.Proofs.Chat.Listing
import Courier.Proofs.Store.Refusal
import Courier.Proofs.Store.Requests
import Courier.Proofs.Store.Registration
import Courier.Proofs.Toml.Proper
import Courier.Proofs.Stored.Document
import Courier.Proofs.Stored.Shape
import Courier.Proofs.Stored.KeyOrder
import Courier.Proofs.Inbox.Refusal
import Courier.Proofs.Text.Blank
import Courier.Proofs.Text.Lines
import Courier.Proofs.Message.Preview
import Courier.Proofs.Message.Recording
import Courier.Proofs.Chat.Line
import Courier.Proofs.Files.LastName
import Courier.Proofs.Command.Media
import Courier.Proofs.Store.Paths
import Courier.Proofs.Command.Origin
import Courier.Proofs.Command.ChatList
