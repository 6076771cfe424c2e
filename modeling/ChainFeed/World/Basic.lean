/-
Everything that runs together: a publisher with its hub, and the sessions on it.

Each task makes one small move at a time (`World.act`), in any order; `World.settle` is the order in which
they are run here.
-/
import ChainFeed.Schedule
import ChainFeed.Session.Basic

namespace ChainFeed

/-- a running system -/
structure World where
  /-- milliseconds since the start -/
  now : Nat := 0
  publisher : Publisher
  /-- whether the hub's own task is run -/
  hubRuns : Bool := true
  sessions : List Session := []

/-- the tasks of a world -/
inductive Actor where
  /-- a background task that publishes -/
  | producer (id : Nat)
  | hub
  | ticker
  | heartbeat
  /-- a session on its way into the hub -/
  | connect (session : Nat)
  | receive (session : Nat)
  | send (session : Nat)
  /-- a session that closes its sink -/
  | close (session : Nat)
deriving DecidableEq, Repr

namespace World

/-- a world at its start -/
def create (config : HubConfig) (source : Source) (hubRuns : Bool := true) : Except Overflow World :=
  do
    let hub ← Hub.create config
    let publisher ← Publisher.create hub source
    .ok { publisher, hubRuns }

def hub (w : World) : Hub :=
  w.publisher.hub

/-- changes the hub -/
def setHub (w : World) (hub : Hub) : World :=
  { w with publisher := { w.publisher with hub } }

/-- a move of one session together with the publisher -/
def sessionStep (w : World) (i : Nat)
    (step : Session → Publisher → Option (Publisher × Session)) : Option World :=
  match w.sessions[i]? with
  | none => none
  | some s =>
    (step s w.publisher).map fun (publisher, s) =>
      { w with publisher, sessions := w.sessions.set i s }

/-- one move of a task, `none` while it waits -/
def act (w : World) : Actor → Option World
  | .producer id => (w.hub.producerStep id w.now).map w.setHub
  | .hub => if w.hubRuns then (w.hub.step w.now).map w.setHub else none
  | .ticker => (w.hub.tickerStep w.now).map w.setHub
  | .heartbeat => (w.hub.heartbeatStep w.now).map w.setHub
  | .connect i => w.sessionStep i fun s p => s.connectStep p
  | .receive i => w.sessionStep i fun s p => s.receiveStep p w.now
  | .send i => w.sessionStep i fun s p => s.sendStep p w.now
  | .close i => w.sessionStep i fun s p => (s.closeStep w.now).map fun s => (p, s)

/-! ## Running -/

/-- the tasks in the order in which they are run -/
def actors (w : World) : List Actor :=
  (List.range w.hub.producers.length).map .producer ++ [.hub, .ticker, .heartbeat] ++
    (List.range w.sessions.length).flatMap fun i => [.connect i, .receive i, .send i, .close i]

/-- the sum of a measure over a list -/
def total {α : Type} (size : α → Nat) (xs : List α) : Nat :=
  xs.foldr (fun x n => size x + n) 0

/-- a number of rounds after which nothing is left to do without time passing -/
def rounds (w : World) : Nat :=
  let events := total (·.remaining.length) w.hub.producers + w.hub.relay.queue.length + 1
  let delivered := total (·.channel.queue.length) w.hub.clients
  let frames := total (·.inbox.length) w.sessions
  let moves := w.hub.registrations.length + w.hub.unregistrations.length + 8 * w.sessions.length
  events * (8 + 4 * w.hub.clients.length) + 4 * delivered + 4 * frames + moves + 16

/-- runs everything that can run without time passing -/
def settle (w : World) : World :=
  Schedule.settle (fun w => w.actors.map fun a w => w.act a) w.rounds w

/-- the times at which something wakes up by itself -/
def deadlines (w : World) : List Nat :=
  w.hub.deadlines ++ w.sessions.flatMap (·.deadlines)

/-- a world as a system with a clock -/
def timed : Schedule.Timed World where
  now := now
  setNow w now := { w with now }
  settle := settle
  deadlines := deadlines

/-- lets time pass -/
def advance (w : World) (ms : Nat) : World :=
  timed.advance ms w

/-- waits until the hub has stopped, for `ms` milliseconds at most: whether it has -/
def waitStopped (w : World) (ms : Nat) : World × Bool :=
  let w := timed.advanceUntil (fun w => w.hub.phase = .stopped) ms w
  (w, w.hub.phase = .stopped)

/-- whether a background task has published all its events -/
def isPublished (w : World) (id : Nat) : Bool :=
  (w.hub.producers[id]?).all fun p => p.remaining.isEmpty

/-- publishes an event and waits for the outcome -/
def publish (w : World) (e : Event) : World × Except FeedError Unit :=
  let (hub, id) := w.hub.publish [e]
  let w := timed.advanceUntil (fun w => w.isPublished id) w.hub.config.publishTimeout (w.setHub hub)
  let outcome := ((w.hub.producers[id]?).bind (·.outcomes.head?)).getD .timedOut
  (w, outcome.result e)

/-- records a new block -/
def storeBlock (w : World) (r : BlockReport) : Except Overflow World :=
  (w.publisher.storeBlock r).map fun (publisher, _) => { w with publisher }

/-- replaces the inventory of the mempool -/
def setMempool (w : World) (mempool : Option Mempool) : Except Overflow World :=
  (w.publisher.setMempool mempool).map fun publisher => { w with publisher }

/-- a new connection -/
def connect (w : World) (s : Session) : World :=
  { w with sessions := w.sessions ++ [s] }

/-- changes a session from outside -/
def modifySession (w : World) (i : Nat) (f : Session → Session) : World :=
  { w with sessions := w.sessions.modify i f }

end World

end ChainFeed
