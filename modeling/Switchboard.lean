import Switchboard.Desk
import Switchboard.Main
import Switchboard.Proofs.Bus.Acts
import Switchboard.Proofs.Bus.Arrivals
import Switchboard.Proofs.Bus.Binary
import Switchboard.Proofs.Bus.Closing
import Switchboard.Proofs.Bus.Delivery
import Switchboard.Proofs.Bus.Limits
import Switchboard.Proofs.Bus.Ownership
import Switchboard.Proofs.Bus.Panics
import Switchboard.Proofs.Bus.Scene
import Switchboard.Proofs.Bus.Station
import Switchboard.Proofs.Bus.Tame
import Switchboard.Proofs.Command.Streaming
import Switchboard.Proofs.Connection.Abandonment
import Switchboard.Proofs.Connection.Lifecycle
import Switchboard.Proofs.Connection.Outbound
import Switchboard.Proofs.Connection.Settling
import Switchboard.Proofs.Connection.Stride
import Switchboard.Proofs.Connection.Waiters
import Switchboard.Proofs.Conversation.Books
import Switchboard.Proofs.Conversation.Boxes
import Switchboard.Proofs.Conversation.CallOutcome
import Switchboard.Proofs.Conversation.Calm
import Switchboard.Proofs.Conversation.Counters
import Switchboard.Proofs.Conversation.Course
import Switchboard.Proofs.Conversation.DeskRun
import Switchboard.Proofs.Conversation.Hearing
import Switchboard.Proofs.Conversation.Ledger
import Switchboard.Proofs.Conversation.Moves
import Switchboard.Proofs.Conversation.Topics
import Switchboard.Proofs.Decimal.Digits
import Switchboard.Proofs.Exchange.Account
import Switchboard.Proofs.Exchange.Calm
import Switchboard.Proofs.Exchange.Fate
import Switchboard.Proofs.Exchange.Offers
import Switchboard.Proofs.Exchange.Pass
import Switchboard.Proofs.Exchange.Routing
import Switchboard.Proofs.Exchange.SingleFire
import Switchboard.Proofs.Exchange.Tally
import Switchboard.Proofs.Exchange.Twins
import Switchboard.Proofs.Frame.Decoders
import Switchboard.Proofs.Frame.Envelope
import Switchboard.Proofs.Frame.RoundTrip
import Switchboard.Proofs.Journal.Excerpt
import Switchboard.Proofs.Json.Plain
import Switchboard.Proofs.Json.Reading
import Switchboard.Proofs.Json.Shape
import Switchboard.Proofs.Json.Spelling
import Switchboard.Proofs.Registry.Counting
import Switchboard.Proofs.Registry.Map
import Switchboard.Proofs.Service.Inquiry
import Switchboard.Proofs.Service.Table
import Switchboard.Proofs.Settings.Saving
import Switchboard.Proofs.Storage
import Switchboard.Proofs.Text.Gaps
import Switchboard.Proofs.Text.Utf8
import Switchboard.Script
