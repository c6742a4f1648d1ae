import SshServer.Bytes
import SshServer.Channel.Basic
import SshServer.Channel.Credit
import SshServer.Channel.Mailbox
import SshServer.Channel.Message
import SshServer.Channel.Opening
import SshServer.Channel.Outbox
import SshServer.Connection.Dispatcher
import SshServer.Connection.Handler
import SshServer.Connection.Transport
import SshServer.Failure
import SshServer.Fifo
import SshServer.Identity
import SshServer.Log
import SshServer.Net.Host
import SshServer.Rehearsal.Actor
import SshServer.Rehearsal.AuthScript
import SshServer.Rehearsal.ChannelScript
import SshServer.Rehearsal.ConnectionScript
import SshServer.Rehearsal.ServerScript
import SshServer.Rehearsal.SessionScript
import SshServer.Rehearsal.TunnelScript
import SshServer.Server.Basic
import SshServer.Session.Feed
import SshServer.Session.RequestLoop
import SshServer.Signal
import SshServer.Terminal
import SshServer.Text.Blank
import SshServer.Text.Duration
import SshServer.Text.Quoted
import SshServer.Text.Utf8
import SshServer.Tunnel.Opening
import SshServer.Wire.Payload
import SshServer.Proofs.Wire.RoundTrip
import SshServer.Proofs.Wire.Grammar
import SshServer.Proofs.Wire.Prefix
import SshServer.Proofs.Wire.Canonical
import SshServer.Proofs.Output.Credit
import SshServer.Proofs.Output.Run
import SshServer.Proofs.Output.Window
import SshServer.Proofs.Output.Line
import SshServer.Proofs.Output.Supply
import SshServer.Proofs.Session.Exit
import SshServer.Proofs.Session.Closing
import SshServer.Proofs.Session.Arrivals
import SshServer.Proofs.Session.LettingGo
import SshServer.Proofs.Session.Lifecycle
import SshServer.Proofs.Session.HandlerEnd
import SshServer.Proofs.Session.Answers
import SshServer.Proofs.Session.Release
import SshServer.Proofs.Session.Attention
import SshServer.Proofs.Session.History
import SshServer.Proofs.Session.Requests
import SshServer.Proofs.Input.Stream
import SshServer.Proofs.Input.Waking
import SshServer.Proofs.Input.Room
import SshServer.Proofs.Output.Delivery
import SshServer.Proofs.Output.Waiting
import SshServer.Proofs.Output.Rest
import SshServer.Proofs.Output.Results
import SshServer.Proofs.Output.Places
import SshServer.Proofs.Output.Turns
import SshServer.Proofs.Session.Writing
import SshServer.Proofs.Session.Backlog
import SshServer.Proofs.Session.Desk
import SshServer.Proofs.Session.Receipts
import SshServer.Proofs.Session.Handover
import SshServer.Proofs.Session.Windows
import SshServer.Proofs.Session.Signals
import SshServer.Proofs.Session.Numbering
import SshServer.Proofs.Session.SoleReceiver
import SshServer.Proofs.Session.SizesFirst
import SshServer.Proofs.Session.CurrentSize
import SshServer.Proofs.Tunnel.Run
import SshServer.Proofs.Tunnel.Fidelity
import SshServer.Proofs.Tunnel.Departure
import SshServer.Proofs.Tunnel.Passing
import SshServer.Proofs.Tunnel.Pressure
import SshServer.Proofs.Tunnel.Stages
import SshServer.Proofs.Tunnel.Decision
import SshServer.Proofs.Connection.Numbers
import SshServer.Proofs.Connection.Run
import SshServer.Proofs.Connection.Books
import SshServer.Proofs.Connection.Outcomes
import SshServer.Proofs.Connection.Own
import SshServer.Proofs.Connection.Actors
import SshServer.Proofs.Connection.Routing
import SshServer.Proofs.Connection.Lifetime
import SshServer.Proofs.Connection.Identity
import SshServer.Proofs.Transport.Run
import SshServer.Proofs.Transport.Channels
import SshServer.Proofs.Transport.Steps
import SshServer.Proofs.Transport.Slots
import SshServer.Proofs.Transport.Delivery
import SshServer.Proofs.Transport.Owing
import SshServer.Proofs.Transport.Answers
import SshServer.Proofs.Transport.Apart
