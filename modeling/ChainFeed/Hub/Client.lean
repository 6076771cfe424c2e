/-
What the server holds for one connected client.
-/
import ChainFeed.Feed.Subscriptions
import ChainFeed.Feed.TxBuffer
import ChainFeed.Hub.Channel
import ChainFeed.Hub.Config

namespace ChainFeed

/-- a client is known by a number, from one on, in the order in which clients were made -/
abbrev ClientId := Nat

/-- one connected client -/
structure Client where
  subscriptions : Subscriptions := {}
  /-- the transactions that wait for the next push of `newtxs` -/
  buffer : TxBuffer
  /-- the events on their way to the client -/
  channel : Channel Event
deriving DecidableEq

namespace Client

/-- a client as it is made -/
def create (config : HubConfig) : Except Overflow Client := do
  let channel ← Channel.create config.clientQueue
  let buffer ← TxBuffer.create config.txBuffer
  .ok { buffer, channel }

/-- whether an event is for the client -/
def wants (c : Client) (e : Event) : Bool :=
  c.subscriptions.isSubscribed e

end Client

end ChainFeed
