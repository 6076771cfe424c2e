/-
Sizes and times of the hub and of its sessions. All times are in milliseconds.
-/
import ChainFeed.Feed.TxBuffer

namespace ChainFeed

/-- the tunables of the hub -/
structure HubConfig where
  /-- events that wait for one client at most; none counts as one -/
  clientQueue : Nat := 16
  /-- waiting transactions that cause a flush; none counts as one -/
  txBuffer : Nat := TxBuffer.defaultCapacity
  flushInterval : Nat := 3000
  pingInterval : Nat := 45000
  /-- how long a producer waits for the hub -/
  publishTimeout : Nat := 10000
  /-- events that wait for the hub at most; none counts as one -/
  relayCapacity : Nat := 256
deriving DecidableEq, Repr

/-- the tunables of a session -/
structure SessionConfig where
  /-- the longest accepted payload of a request, in bytes -/
  maxRequestBytes : Nat := 1048576
  /-- the idle time after which reading is started anew -/
  readTimeout : Nat := 20000
  writeTimeout : Nat := 10000
deriving DecidableEq, Repr

end ChainFeed
