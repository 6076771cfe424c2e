/-
What the hub does by itself: one message at a time, in the order shutdown, registrations, unregistrations,
events.

An event for nobody is discarded, one that is malformed or not for broadcasting is counted and dropped. A
transaction goes into the buffers of the clients that take `newtxs` and causes a round only if a buffer is
due or the flush timer's flag is up. Each other event is one round: it is offered to every client that
wants it, and those who cannot take it are put out.
-/
import ChainFeed.Hub.Basic

namespace ChainFeed.Hub

/-! ## Registry -/

/-- replaces the registry, and the figure that tells its size -/
def setRegistry (h : Hub) (registry : List ClientId) : Hub :=
  { h with registry, connections := registry.length }

/-- gives up the sending end to a client -/
def endSending (h : Hub) (id : ClientId) : Hub :=
  h.modifyClient id fun c => { c with channel := c.channel.endSending }

/-- takes a client into the registry -/
def enrol (h : Hub) (id : ClientId) : Hub :=
  { h.setRegistry (h.registry ++ [id]) with
    totals := { h.totals with connections := h.totals.connections + 1 } }

/-- takes a client out of the registry and closes its channel; unknown clients change nothing -/
def expel (h : Hub) (id : ClientId) : Hub :=
  if id ∈ h.registry then (h.endSending id).setRegistry (h.registry.erase id) else h

/-! ## Rounds -/

/-- offers an event to one client: whether it could not take it -/
def deliver (h : Hub) (e : Event) (id : ClientId) : Hub × Bool :=
  match h.client? id with
  | none => (h, false)
  | some c =>
    if c.wants e then
      match c.channel.offer? e with
      | some channel => (h.modifyClient id ({ · with channel := channel }), false)
      | none => (h, true)
    else (h, false)

/-- offers an event to clients one after the other: those who could not take it -/
def deliverAll (h : Hub) (e : Event) : List ClientId → Hub × List ClientId
  | [] => (h, [])
  | id :: rest =>
    let (h, refused) := h.deliver e id
    let (h, evicted) := h.deliverAll e rest
    (h, if refused then id :: evicted else evicted)

/-- one round of delivery -/
def broadcast (h : Hub) (e : Event) : Hub :=
  let (h, evicted) := h.deliverAll e h.registry
  let h := evicted.foldl expel h
  { h with
    totals :=
      { h.totals with events := h.totals.events + 1, evicted := h.totals.evicted + evicted.length } }

/-- a round that tells clients to push their buffered transactions; it lowers the timer's flag -/
def flush (h : Hub) : Hub :=
  let h := h.broadcast .newTxs
  { h with ticker := h.ticker.clear }

/-- puts a transaction into the buffer of one client if it takes `newtxs`: whether the buffer is due -/
def bufferFor (h : Hub) (tx : Transaction) (id : ClientId) : Hub × Bool :=
  match h.client? id with
  | none => (h, false)
  | some c =>
    if c.subscriptions.hasKind .newTxs then (h.bufferTx id tx, (c.buffer.append tx).isDue)
    else (h, false)

/-- puts a transaction into the buffers of clients: whether any of them is due -/
def bufferForAll (h : Hub) (tx : Transaction) : List ClientId → Hub × Bool
  | [] => (h, false)
  | id :: rest =>
    let (h, due) := h.bufferFor tx id
    let (h, others) := h.bufferForAll tx rest
    (h, due || others)

/-- handles a transaction -/
def handleTx (h : Hub) (tx : Transaction) : Hub :=
  let (h, due) := h.bufferForAll tx h.registry
  let h := if due then { h with ticker := h.ticker.reset } else h
  if due || h.ticker.due then h.flush else h

/-- counts an event that is not broadcast -/
def dropEvent (h : Hub) : Hub :=
  { h with totals := { h.totals with dropped := h.totals.dropped + 1 } }

/-- handles an event from the relay -/
def handle (h : Hub) (e : Event) : Hub :=
  if h.registry.isEmpty then h
  else if !e.isValid || e.isRequest then h.dropEvent
  else
    match e with
    | .newTx tx => h.handleTx tx
    | .newTxs => h.flush
    | e => h.broadcast e

/-! ## The loop -/

/-- sets the hub going, with its timers -/
def start (h : Hub) (now : Nat) : Hub :=
  { h with
    phase := .running
    ticker := .start h.config.flushInterval now
    heartbeat := .start h.config.pingInterval h.config.publishTimeout now }

/-- takes nothing more in, closes every client's channel and tells the timers to end -/
def drain (h : Hub) : Hub :=
  let h := (h.registry ++ h.registrations).foldl endSending h
  { h.setRegistry [] with
    phase := .draining
    shutdown := true
    registrations := []
    unregistrations := []
    relay := h.relay.close
    ticker := h.ticker.stop }

/-- one turn of the running loop, `none` if there is nothing to do -/
def loopStep (h : Hub) : Option Hub :=
  if h.shutdown then some h.drain
  else
    match h.registrations, h.unregistrations, h.relay.take? with
    | id :: rest, _, _ => some ({ h with registrations := rest }.enrol id)
    | [], id :: rest, _ => some ({ h with unregistrations := rest }.expel id)
    | [], [], some (e, relay) => some ({ h with relay }.handle e)
    | [], [], none =>
      if h.isHeld || h.heartbeat.waiting then none else some h.drain

/-- one move of the hub's own task, `none` if it has nothing to do -/
def step (h : Hub) (now : Nat) : Option Hub :=
  match h.phase with
  | .created => some (h.start now)
  | .running => h.loopStep
  | .draining =>
    if h.ticker.running || h.heartbeat.running then none else some { h with phase := .stopped }
  | .stopped => none

/-- one move of the flush timer -/
def tickerStep (h : Hub) (now : Nat) : Option Hub :=
  (h.ticker.step now).map fun ticker => { h with ticker }

/-- one move of the heartbeat -/
def heartbeatStep (h : Hub) (now : Nat) : Option Hub :=
  (h.heartbeat.step h.relay now h.isHeld h.shutdown).map fun (heartbeat, relay) =>
    { h with heartbeat, relay }

/-- the times at which something of the hub wakes up by itself -/
def deadlines (h : Hub) : List Nat :=
  h.ticker.deadlines ++ h.heartbeat.deadlines ++ h.relay.deadlines

end ChainFeed.Hub
