import GameServer.Accounts
import GameServer.Commands
import GameServer.Framer.Pieces
import GameServer.Keystream.Diagnostic
import GameServer.Login.Credentials
import GameServer.Main
import GameServer.Player.Registry
import GameServer.Proofs.Commands.Replies
import GameServer.Proofs.Connection.Deadlines
import GameServer.Proofs.Connection.Handover
import GameServer.Proofs.Connection.Indifference
import GameServer.Proofs.Connection.Outcome
import GameServer.Proofs.Connection.Places
import GameServer.Proofs.Connection.Speaking
import GameServer.Proofs.Connection.Written
import GameServer.Proofs.Dispatch.Handlers
import GameServer.Proofs.Framer.Draining
import GameServer.Proofs.Framer.Duplex
import GameServer.Proofs.Framer.Hiding
import GameServer.Proofs.Framer.Limits
import GameServer.Proofs.Keystream.Reference
import GameServer.Proofs.Login.AccountNames
import GameServer.Proofs.Login.Keys
import GameServer.Proofs.Payload.Grammar
import GameServer.Proofs.Payload.RoundTrip
import GameServer.Proofs.Player.History
import GameServer.Proofs.Player.Registry
import GameServer.Proofs.Player.Spelling
import GameServer.Proofs.Session.Answers
import GameServer.Proofs.Session.Course
import GameServer.Proofs.Session.Ledger
import GameServer.Proofs.Session.Receipts
import GameServer.Proofs.Table.Bindings
import GameServer.Proofs.Text.Encoding
import GameServer.Proofs.World.Accounts
import GameServer.Proofs.World.Approval
import GameServer.Proofs.World.Deadlines
import GameServer.Proofs.World.Lives
import GameServer.Proofs.World.Occupancy
import GameServer.Proofs.World.Turns
import GameServer.Server.Bind
import GameServer.Session.Read
import GameServer.Settings.Read
import GameServer.Table.Diagnostic
import GameServer.World
