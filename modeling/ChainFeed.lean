import ChainFeed.Chain.Activity
import ChainFeed.Chain.Block
import ChainFeed.Chain.Mempool
import ChainFeed.Chain.Overview
import ChainFeed.Chain.Params
import ChainFeed.Feed.Error
import ChainFeed.Feed.Event
import ChainFeed.Feed.Kind
import ChainFeed.Feed.Message
import ChainFeed.Feed.SubscriptionRequest
import ChainFeed.Feed.Subscriptions
import ChainFeed.Feed.TxBuffer
import ChainFeed.Hub.Basic
import ChainFeed.Hub.Channel
import ChainFeed.Hub.Client
import ChainFeed.Hub.Config
import ChainFeed.Hub.Heartbeat
import ChainFeed.Hub.Loop
import ChainFeed.Hub.Relay
import ChainFeed.Hub.Ticker
import ChainFeed.Hub.Timers
import ChainFeed.Json.Codec
import ChainFeed.Json.Fault
import ChainFeed.Json.Record
import ChainFeed.Json.Scan
import ChainFeed.Json.Skip
import ChainFeed.Json.Text
import ChainFeed.Json.Value
import ChainFeed.Main
import ChainFeed.Node.ApiError
import ChainFeed.Node.CommandLine
import ChainFeed.Node.Health
import ChainFeed.Node.HostName
import ChainFeed.Node.Http
import ChainFeed.Node.Layers
import ChainFeed.Node.Logging
import ChainFeed.Node.Metrics
import ChainFeed.Node.Program
import ChainFeed.Node.RequestTarget
import ChainFeed.Node.Rpc
import ChainFeed.Node.Server
import ChainFeed.Node.Setting
import ChainFeed.Node.Settings
import ChainFeed.Node.Socket
import ChainFeed.Node.SocketAddress
import ChainFeed.Node.Url
import ChainFeed.Number.Binary64
import ChainFeed.Number.Checked
import ChainFeed.Number.Decimal
import ChainFeed.Number.Interval
import ChainFeed.Number.Power
import ChainFeed.Number.Reading
import ChainFeed.Number.Rounding
import ChainFeed.Number.Text
import ChainFeed.Proofs.Chain.Inventory
import ChainFeed.Proofs.Chain.Range
import ChainFeed.Proofs.Feed.Envelope
import ChainFeed.Proofs.Feed.Frames
import ChainFeed.Proofs.Feed.Grammar
import ChainFeed.Proofs.Feed.TargetSet
import ChainFeed.Proofs.Feed.Targets
import ChainFeed.Proofs.Hub.Accounting
import ChainFeed.Proofs.Hub.Admitted
import ChainFeed.Proofs.Hub.Backlog
import ChainFeed.Proofs.Hub.Beats.Attempts
import ChainFeed.Proofs.Hub.Beats.Steady
import ChainFeed.Proofs.Hub.Beats.Turn
import ChainFeed.Proofs.Hub.Clients
import ChainFeed.Proofs.Hub.FanOut
import ChainFeed.Proofs.Hub.FlushClock
import ChainFeed.Proofs.Hub.Flushing
import ChainFeed.Proofs.Hub.Handling
import ChainFeed.Proofs.Hub.Machinery
import ChainFeed.Proofs.Hub.Membership
import ChainFeed.Proofs.Hub.Op
import ChainFeed.Proofs.Hub.Order
import ChainFeed.Proofs.Hub.Round
import ChainFeed.Proofs.Hub.Settling
import ChainFeed.Proofs.Hub.Shutdown
import ChainFeed.Proofs.Hub.Signals
import ChainFeed.Proofs.Hub.Sound
import ChainFeed.Proofs.Hub.Tasks
import ChainFeed.Proofs.Hub.Trail
import ChainFeed.Proofs.Hub.Transactions
import ChainFeed.Proofs.Json.Layout
import ChainFeed.Proofs.Json.Legible
import ChainFeed.Proofs.Json.Numbers
import ChainFeed.Proofs.Json.Records
import ChainFeed.Proofs.Json.Strings
import ChainFeed.Proofs.Json.Values
import ChainFeed.Proofs.Node.Admission
import ChainFeed.Proofs.Node.Ingest
import ChainFeed.Proofs.Node.KeyOrder
import ChainFeed.Proofs.Node.Leaves
import ChainFeed.Proofs.Node.Overrides
import ChainFeed.Proofs.Node.Paths
import ChainFeed.Proofs.Node.Payloads
import ChainFeed.Proofs.Node.Scrapes
import ChainFeed.Proofs.Node.SocketAddress
import ChainFeed.Proofs.Node.Sources
import ChainFeed.Proofs.Node.Stacks
import ChainFeed.Proofs.Node.Transport
import ChainFeed.Proofs.Node.Verbatim
import ChainFeed.Proofs.Number.Digits
import ChainFeed.Proofs.Number.Whole
import ChainFeed.Proofs.Schedule
import ChainFeed.Proofs.Session.Answers
import ChainFeed.Proofs.Session.Moves
import ChainFeed.Proofs.Session.Pumps
import ChainFeed.Proofs.Text.Excerpt
import ChainFeed.Proofs.Trace
import ChainFeed.Proofs.World.Abandoned
import ChainFeed.Proofs.World.Announcements
import ChainFeed.Proofs.World.Blocks
import ChainFeed.Proofs.World.Frames
import ChainFeed.Proofs.World.Ghosts
import ChainFeed.Proofs.World.Moves
import ChainFeed.Proofs.World.Patience
import ChainFeed.Proofs.World.Publisher
import ChainFeed.Proofs.World.Publishing
import ChainFeed.Proofs.World.Replies
import ChainFeed.Proofs.World.Runs
import ChainFeed.Proofs.World.Shutdown
import ChainFeed.Proofs.World.Signals
import ChainFeed.Schedule
import ChainFeed.Service.Publisher
import ChainFeed.Service.Source
import ChainFeed.Session.Basic
import ChainFeed.Session.Sink
import ChainFeed.Text.Blank
import ChainFeed.Text.Excerpt
import ChainFeed.Text.Hidden
import ChainFeed.Text.Letter
import ChainFeed.Text.Mark
import ChainFeed.Text.Pattern
import ChainFeed.World.Basic
import ChainFeed.World.Command
import ChainFeed.Yaml.Basic
import ChainFeed.Yaml.Cursor
import ChainFeed.Yaml.Layout
import ChainFeed.Yaml.Literal
import ChainFeed.Yaml.Reader
import ChainFeed.Yaml.Scalar
import ChainFeed.Yaml.Tag
import ChainFeed.Yaml.Text
import ChainFeed.Yaml.Token
import ChainFeed.Yaml.Tokens
