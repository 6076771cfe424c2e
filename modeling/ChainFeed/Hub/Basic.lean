/-
The hub: the registry of clients, the relay that events come in by, and its timers.

Clients are made by `register` and wait until the hub takes them into the registry. All that happens from
outside is an operation here; what the hub does by itself is in `Hub.Loop`.
-/
import ChainFeed.Hub.Client
import ChainFeed.Hub.Heartbeat
import ChainFeed.Json.Record

namespace ChainFeed

/-- the life of the hub -/
inductive HubPhase where
  /-- made, and not set going -/
  | created
  | running
  /-- closing everything down -/
  | draining
  | stopped
deriving DecidableEq, Repr

/-- the phase as the outside sees it; a hub that was only made counts as running -/
def HubPhase.name : HubPhase → String
  | created | running => "running"
  | draining => "draining"
  | stopped => "stopped"

/-- what the hub counts from its start on -/
structure HubTotals where
  /-- clients taken into the registry -/
  connections : Nat := 0
  /-- rounds of delivery -/
  events : Nat := 0
  /-- clients put out for not keeping up -/
  evicted : Nat := 0
  /-- events that were malformed or not for broadcasting -/
  dropped : Nat := 0
deriving DecidableEq, Repr

/-- a background task that publishes events one after the other -/
structure Producer where
  /-- the events still to be put into the relay; the first may be waiting there -/
  remaining : List Event
  /-- what became of the events before them -/
  outcomes : List Outcome := []
deriving DecidableEq

/-- the hub with its clients -/
structure Hub where
  config : HubConfig
  phase : HubPhase := .created
  /-- whether the hub was told to stop -/
  shutdown : Bool := false
  /-- whether the explorer has finished its first synchronisation -/
  ready : Bool := false
  /-- whether anyone outside holds on to the hub -/
  held : Bool := true
  /-- all clients that were ever made; the client with number `i + 1` stands at place `i` -/
  clients : List Client := []
  /-- the clients that events go to -/
  registry : List ClientId := []
  /-- the number of registered clients as the outside sees it -/
  connections : Nat := 0
  /-- clients on their way into the registry -/
  registrations : List ClientId := []
  /-- clients on their way out -/
  unregistrations : List ClientId := []
  relay : Relay
  ticker : Ticker
  heartbeat : Heartbeat
  producers : List Producer := []
  totals : HubTotals := {}
deriving DecidableEq

namespace Hub

/-- a hub before it is set going; its timers start with it -/
def create (config : HubConfig) : Except Overflow Hub :=
  (Relay.create (max config.relayCapacity 1)).map fun relay =>
    { config, relay, ticker := .start 0 0, heartbeat := .start 0 0 0 }

/-! ## Clients -/

/-- the client with a number -/
def client? (h : Hub) (id : ClientId) : Option Client :=
  if id = 0 then none else h.clients[id - 1]?

/-- changes the client with a number, if there is one -/
def modifyClient (h : Hub) (id : ClientId) (f : Client → Client) : Hub :=
  if id = 0 then h else { h with clients := h.clients.modify (id - 1) f }

/-- the registrations that can wait for the hub -/
def maxRegistrations : Nat := 64

/-- whether the hub still takes clients in and out -/
def isOpen (h : Hub) : Bool :=
  h.phase = .created || h.phase = .running

/-- makes a client and hands it to the hub -/
def register (h : Hub) : Except Overflow (Except FeedError (Hub × ClientId)) :=
  if h.shutdown || !h.isOpen then .ok (.error .hubStopped)
  else
    let id := h.clients.length + 1
    (Client.create h.config).map fun client =>
      .ok ({ h with clients := h.clients ++ [client], registrations := h.registrations ++ [id] }, id)

/-- asks the hub to drop a client -/
def unregister (h : Hub) (id : ClientId) : Hub :=
  if h.isOpen then { h with unregistrations := h.unregistrations ++ [id] } else h

/-- adds to what a client is subscribed to: whether that was news -/
def subscribe (h : Hub) (id : ClientId) (r : SubscriptionRequest) : Except FeedError (Hub × Bool) :=
  match h.client? id with
  | none => .ok (h, false)
  | some c =>
    match c.subscriptions.subscribe r with
    | .error e => .error e
    | .ok (s, changed) => .ok (h.modifyClient id ({ · with subscriptions := s }), changed)

/-- takes away from what a client is subscribed to: whether it was there -/
def unsubscribe (h : Hub) (id : ClientId) (r : SubscriptionRequest) : Except FeedError (Hub × Bool) :=
  match h.client? id with
  | none => .ok (h, false)
  | some c =>
    match c.subscriptions.unsubscribe r with
    | .error e => .error e
    | .ok (s, changed) => .ok (h.modifyClient id ({ · with subscriptions := s }), changed)

/-- takes all subscriptions of a client away -/
def unsubscribeAll (h : Hub) (id : ClientId) : Hub :=
  h.modifyClient id fun c => { c with subscriptions := c.subscriptions.unsubscribeAll }

/-- the client takes the oldest event from its channel -/
def receive (h : Hub) (id : ClientId) : Option (Event × Hub) :=
  match (h.client? id).bind (·.channel.take?) with
  | none => none
  | some (e, channel) => some (e, h.modifyClient id ({ · with channel := channel }))

/-- the client closes its receiving end -/
def hangUp (h : Hub) (id : ClientId) : Hub :=
  h.modifyClient id fun c => { c with channel := c.channel.endReceiving }

/-- takes the waiting transactions of a client out -/
def drainTxs (h : Hub) (id : ClientId) : List Transaction × Hub :=
  match h.client? id with
  | none => ([], h)
  | some c => (c.buffer.drain.1, h.modifyClient id ({ · with buffer := c.buffer.drain.2 }))

/-- puts a transaction into the buffer of a client -/
def bufferTx (h : Hub) (id : ClientId) (tx : Transaction) : Hub :=
  h.modifyClient id fun c => { c with buffer := c.buffer.append tx }

/-! ## Producers -/

/-- starts a background task that publishes events in order: its number -/
def publish (h : Hub) (events : List Event) : Hub × Nat :=
  ({ h with producers := h.producers ++ [{ remaining := events }] }, h.producers.length)

/-- one move of a background task, `none` if it waits or is done -/
def producerStep (h : Hub) (id now : Nat) : Option Hub :=
  match h.producers[id]? with
  | none => none
  | some p =>
    match p.remaining with
    | [] => none
    | e :: rest =>
      match h.relay.attempt (.producer id) e now h.config.publishTimeout with
      | none => none
      | some (relay, none) => some { h with relay }
      | some (relay, some outcome) =>
        let p := { remaining := rest, outcomes := p.outcomes ++ [outcome] }
        some { h with relay, producers := h.producers.set id p }

/-- whether anyone but the heartbeat can still put events into the relay -/
def isHeld (h : Hub) : Bool :=
  h.held || h.producers.any fun p => !p.remaining.isEmpty

/-! ## Lifecycle and figures -/

/-- tells the hub to stop -/
def stop (h : Hub) : Hub :=
  { h with shutdown := true }

def setReady (h : Hub) (ready : Bool) : Hub :=
  { h with ready }

/-- the last holder outside lets go -/
def release (h : Hub) : Hub :=
  { h with held := false }

end Hub

/-- the figures of the hub as they are told -/
structure HubStats where
  connections : Nat
  totals : HubTotals
deriving DecidableEq, Repr

namespace HubStats

/-- the members of the object that tells the figures -/
def members (s : HubStats) : List (String × List Char) :=
  [("current_connections", natText s.connections),
   ("total_connections", natText s.totals.connections),
   ("total_events", natText s.totals.events),
   ("evicted_clients", natText s.totals.evicted),
   ("dropped_events", natText s.totals.dropped)]

def text (s : HubStats) : String :=
  Json.objectText s.members

end HubStats

/-- the figures of the hub at this moment -/
def Hub.stats (h : Hub) : HubStats :=
  ⟨h.connections, h.totals⟩

end ChainFeed
