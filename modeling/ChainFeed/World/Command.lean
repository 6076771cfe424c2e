/-
What can be done to a running system from outside, and what is answered.

Besides sessions there are clients that are used directly, without a connection. After each command
everything runs that can run without time passing (`World.exec`).
-/
import ChainFeed.World.Basic

namespace ChainFeed

/-- a command from outside -/
inductive Command where
  /-- makes a client that is used directly -/
  | register
  | unregister (id : ClientId)
  | hangUp (id : ClientId)
  | subscribe (id : ClientId) (text : String)
  | unsubscribe (id : ClientId) (text : String)
  | unsubscribeAll (id : ClientId)
  /-- takes events from a client's channel, all or some number of them at most -/
  | receive (id : ClientId) (most : Option Nat)
  | drain (id : ClientId)
  | buffer (id : ClientId) (tx : Transaction)
  | request (id : ClientId) (request : Message)
  | render (id : ClientId) (event : Event)
  /-- publishes an event and waits for the outcome -/
  | publish (event : Event)
  /-- publishes events in the background -/
  | publishAll (events : List Event)
  | storeBlock (report : BlockReport)
  | setMempool (mempool : Option Mempool)
  | setReady (ready : Bool)
  | stop
  /-- the last holder of the hub lets go -/
  | release
  | waitStopped (ms : Nat)
  | advance (ms : Nat)
  /-- a new connection -/
  | connect (session : Session)
  | feed (session : Nat) (frame : Frame)
  | endInput (session : Nat)
  /-- the peer of a session reads frames, all or some number of them at most -/
  | read (session : Nat) (most : Option Nat)
  | failSink (session : Nat)

/-- what is answered to a command -/
inductive Reply where
  | done
  | refused (reason : FeedError)
  | registered (id : ClientId)
  /-- whether a change of subscriptions was news -/
  | changed (isNews : Bool)
  /-- events taken, and whether the channel was found at its end -/
  | events (events : List Event) (closed : Bool)
  | transactions (txs : List Transaction)
  /-- whether a buffer is due -/
  | due (isDue : Bool)
  | message (message : Option Message)
  | stopped (hasStopped : Bool)
  /-- whether a frame was still read -/
  | fed (wasRead : Bool)
  | frames (frames : List Message)

namespace Hub

/-- changes what a client is subscribed to, by the text of a request -/
def change (h : Hub) (text : String) (f : SubscriptionRequest → Except FeedError (Hub × Bool)) :
    Hub × Reply :=
  match (SubscriptionRequest.parse text).bind f with
  | .ok (h, isNews) => (h, .changed isNews)
  | .error e => (h, .refused e)

/-- takes some number of events at most from a client's channel -/
def receiveMost (h : Hub) (id : ClientId) : Nat → Hub × List Event × Bool
  | 0 => (h, [], false)
  | most + 1 =>
    match h.receive id with
    | some (e, h) =>
      let (h, events, closed) := h.receiveMost id most
      (h, e :: events, closed)
    | none => (h, [], (h.client? id).any (·.channel.isFinished))

/-- takes all events, or some number of them at most, from a client's channel -/
def receiveAll (h : Hub) (id : ClientId) (most : Option Nat) : Hub × Reply :=
  let waiting := ((h.client? id).map (·.channel.queue.length)).getD 0
  let (h, events, closed) := h.receiveMost id (most.getD (waiting + 1))
  (h, .events events closed)

/-- makes a client -/
def enter (h : Hub) : Except Overflow (Hub × Reply) :=
  h.register.map fun
    | .ok (h, id) => (h, .registered id)
    | .error e => (h, .refused e)

end Hub

namespace World

/-- a command that concerns the hub alone -/
def onHub (w : World) (r : Hub × Reply) : World × Reply :=
  (w.setHub r.1, r.2)

/-- a command that concerns the publisher -/
def onPublisher (w : World) (r : Publisher × Option Message) : World × Reply :=
  ({ w with publisher := r.1 }, .message r.2)

/-- carries out a command -/
def perform (w : World) : Command → Except Overflow (World × Reply)
  | .register => w.hub.enter.map w.onHub
  | .unregister id => .ok (w.setHub (w.hub.unregister id), .done)
  | .hangUp id => .ok (w.setHub (w.hub.hangUp id), .done)
  | .subscribe id text => .ok (w.onHub (w.hub.change text (w.hub.subscribe id)))
  | .unsubscribe id text => .ok (w.onHub (w.hub.change text (w.hub.unsubscribe id)))
  | .unsubscribeAll id => .ok (w.setHub (w.hub.unsubscribeAll id), .done)
  | .receive id most => .ok (w.onHub (w.hub.receiveAll id most))
  | .drain id => .ok (w.setHub (w.hub.drainTxs id).2, .transactions (w.hub.drainTxs id).1)
  | .buffer id tx =>
    let h := w.hub.bufferTx id tx
    .ok (w.setHub h, .due ((h.client? id).any (·.buffer.isDue)))
  | .request id request => .ok (w.onPublisher (w.publisher.answer id request))
  | .render id event => .ok (w.onPublisher (w.publisher.render id event))
  | .publish event =>
    match w.publish event with
    | (w, .ok _) => .ok (w, .done)
    | (w, .error e) => .ok (w, .refused e)
  | .publishAll events => .ok (w.setHub (w.hub.publish events).1, .done)
  | .storeBlock report => (w.storeBlock report).map fun w => (w, .done)
  | .setMempool mempool => (w.setMempool mempool).map fun w => (w, .done)
  | .setReady ready => .ok (w.setHub (w.hub.setReady ready), .done)
  | .stop => .ok (w.setHub w.hub.stop, .done)
  | .release => .ok (w.setHub w.hub.release, .done)
  | .waitStopped ms =>
    let (w, hasStopped) := w.waitStopped ms
    .ok (w, .stopped hasStopped)
  | .advance ms => .ok (w.advance ms, .done)
  | .connect session => .ok (w.connect session, .done)
  | .feed i frame =>
    .ok (w.modifySession i (·.feed frame), .fed ((w.sessions[i]?).any (·.isReading)))
  | .endInput i => .ok (w.modifySession i (·.endInput), .done)
  | .read i most =>
    .ok (w.modifySession i fun s => (s.read most).2,
      .frames (((w.sessions[i]?).map fun s => (s.read most).1).getD []))
  | .failSink i => .ok (w.modifySession i (·.failSink), .done)

/-- carries out a command and all that follows from it without time passing -/
def exec (w : World) (c : Command) : Except Overflow (World × Reply) :=
  (w.perform c).map fun (w, reply) => (w.settle, reply)

/-- takes the frames out of the sinks without a limit: those of each session -/
def collect (w : World) : List (List Message) × World :=
  (w.sessions.map fun s => if s.sink.capacity.isNone then s.sink.unread else [],
    { w with sessions := w.sessions.map fun s => if s.sink.capacity.isNone then (s.read none).2 else s })

/-- the sessions that have ended since an earlier state -/
def endedSince (w before : World) : List Nat :=
  (List.range w.sessions.length).filter fun i =>
    (w.sessions[i]?).any (·.isOver) && !(before.sessions[i]?).any (·.isOver)

end World

end ChainFeed
