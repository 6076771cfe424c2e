/-
Sessions: one connection of a client, from its registration to its end.

A session has two pumps over one sink. The receive pump answers the frames of the client, the send pump
writes the events that the hub delivers. A read of the client is given up after some idle time and started
anew, and a request that asks the data source waits for its answer. A frame that is ready to be written
stands in line for the sink; the time limit of a write starts when its turn comes. The session ends when
either pump does.
-/
import ChainFeed.Hub.Config
import ChainFeed.Service.Publisher
import ChainFeed.Session.Sink

namespace ChainFeed

/-- why a session ended -/
inductive SessionEnd where
  /-- the client closed the connection -/
  | disconnected
  | receiveFailed
  /-- a write failed or took too long -/
  | writeFailed
  /-- the hub closed the client's channel -/
  | channelClosed
  | shutdown
deriving DecidableEq, Repr

/-- whether the hub has to be told to drop the client -/
def SessionEnd.needsUnregister : SessionEnd → Bool
  | .disconnected | .receiveFailed | .writeFailed => true
  | .channelClosed | .shutdown => false

/-- what comes in from the client -/
inductive Frame where
  | text (s : String)
  | close
  /-- binary and control frames, which mean nothing here -/
  | control
  /-- reading failed -/
  | failure
deriving DecidableEq, Repr

/-- the two pumps of a session -/
inductive Pump where
  | receive
  | send
deriving DecidableEq, Repr

/-- a frame in line for the sink, with the pump that waits for it -/
structure Write where
  pump : Pump
  frame : Message
deriving DecidableEq

/-- how far a session has come -/
inductive Stage where
  /-- about to register -/
  | connecting
  /-- registered; `deadline` is the time limit of the first write in line, once it has its turn -/
  | open (client : ClientId) (line : List Write) (deadline : Option Nat)
  /-- closing the sink, for a limited time -/
  | closing (client : ClientId) (ending : SessionEnd) (deadline : Nat)
  | ended (client : ClientId) (ending : SessionEnd) (sinkClosed : Bool)
  /-- the hub took no client -/
  | refused (reason : FeedError)
  /-- no client could be made -/
  | broken (cause : Overflow)
deriving DecidableEq

/-- what the receive pump of an open session is at, while no reply is in line -/
inductive Intake where
  /-- about to read -/
  | ready
  /-- waits for the client; at the deadline the read is given up, to be started anew -/
  | reading (deadline : Nat)
  /-- waits for the data source, which the text of a request asks -/
  | asking (text : String)
deriving DecidableEq

/-- one connection -/
structure Session where
  config : SessionConfig := {}
  stage : Stage := .connecting
  intake : Intake := .ready
  /-- frames that have come in, oldest first -/
  inbox : List Frame := []
  /-- whether nothing comes in after the inbox -/
  inputEnded : Bool := false
  sink : Sink := {}
deriving DecidableEq

namespace Session

/-- whether the session still reads -/
def isReading (s : Session) : Bool :=
  match s.stage with
  | .connecting | .open .. => !s.inputEnded
  | _ => false

/-- whether the session has ended -/
def isOver (s : Session) : Bool :=
  match s.stage with
  | .ended .. | .refused _ | .broken _ => true
  | _ => false

/-- a frame comes in; a session that no longer reads does not see it -/
def feed (s : Session) (f : Frame) : Session :=
  if s.isReading then { s with inbox := s.inbox ++ [f] } else s

/-- no more frames come in -/
def endInput (s : Session) : Session :=
  { s with inputEnded := true }

/-- the peer reads what was written -/
def read (s : Session) (most : Option Nat) : List Message × Session :=
  let (frames, sink) := s.sink.read most
  (frames, { s with sink })

/-- from now on every write fails -/
def failSink (s : Session) : Session :=
  { s with sink := { s.sink with failing := true } }

/-- registers with the hub, as soon as it has a place for that -/
def connectStep (s : Session) (p : Publisher) : Option (Publisher × Session) :=
  match s.stage with
  | .connecting =>
    match p.hub.register with
    | .error cause => some (p, { s with stage := .broken cause, inbox := [] })
    | .ok (.error e) => some (p, { s with stage := .refused e, inbox := [] })
    | .ok (.ok (hub, id)) =>
      if p.hub.registrations.length < Hub.maxRegistrations then
        some ({ p with hub }, { s with stage := .open id [] none, intake := .ready })
      else none
  | _ => none

/-- ends an open session: both pumps stop, the client loses its subscriptions and its channel, and the
hub is told if it still holds the client -/
def finish (s : Session) (p : Publisher) (id : ClientId) (ending : SessionEnd) (now : Nat) :
    Publisher × Session :=
  let hub := (p.hub.hangUp id).unsubscribeAll id
  let hub := if ending.needsUnregister then hub.unregister id else hub
  ({ p with hub },
    { s with
      stage := .closing id ending (now + s.config.writeTimeout)
      intake := .ready
      inbox := [] })

/-- one move of the pump whose frame is in line -/
def writeStep (s : Session) (p : Publisher) (pump : Pump) (now : Nat) : Option (Publisher × Session) :=
  match s.stage with
  | .open id (w :: line) deadline =>
    if w.pump ≠ pump then none
    else if s.sink.failing then some (s.finish p id .writeFailed now)
    else if s.sink.hasRoom then
      some (p, { s with sink := s.sink.write w.frame, stage := .open id line none })
    else
      match deadline with
      | none => some (p, { s with stage := .open id (w :: line) (some (now + s.config.writeTimeout)) })
      | some t => if t ≤ now then some (s.finish p id .writeFailed now) else none
  | _ => none

/-- a pump puts a frame in line -/
def enqueue (s : Session) (pump : Pump) (frame : Option Message) : Session :=
  match s.stage, frame with
  | .open id line deadline, some frame => { s with stage := .open id (line ++ [⟨pump, frame⟩]) deadline }
  | _, _ => s

/-- the reply to a text gets in line -/
def answerText (s : Session) (p : Publisher) (id : ClientId) (text : String) : Publisher × Session :=
  let (p, reply) := p.answerFrame id s.config.maxRequestBytes text
  (p, s.enqueue .receive reply)

/-- the receive pump takes a frame -/
def takeFrame (s : Session) (p : Publisher) (id : ClientId) (f : Frame) (now : Nat) :
    Publisher × Session :=
  match f with
  | .close => s.finish p id .disconnected now
  | .failure => s.finish p id .receiveFailed now
  | .control => (p, s)
  | .text t =>
    if Message.asksSource s.config.maxRequestBytes t then (p, { s with intake := .asking t })
    else s.answerText p id t

/-- a read of the client starts, or is given up at its deadline; `none` while it goes on -/
def readStep (s : Session) (now : Nat) : Option Session :=
  match s.intake with
  | .reading deadline => if deadline ≤ now then some { s with intake := .ready } else none
  | _ => some { s with intake := .reading (now + s.config.readTimeout) }

/-- one move of the receive pump, `none` while it waits -/
def receiveStep (s : Session) (p : Publisher) (now : Nat) : Option (Publisher × Session) :=
  match s.stage with
  | .open id line _ =>
    if line.any (·.pump = .receive) then s.writeStep p .receive now
    else
      match s.intake, s.inbox with
      | .asking t, _ => some ({ s with intake := .ready }.answerText p id t)
      | _, f :: rest => some ({ s with inbox := rest, intake := .ready }.takeFrame p id f now)
      | _, [] =>
        if s.inputEnded then some (s.finish p id .disconnected now)
        else (s.readStep now).map fun s => (p, s)
  | _ => none

/-- the send pump takes an event: it is rendered if the client is still subscribed to it -/
def takeEvent (s : Session) (p : Publisher) (id : ClientId) (e : Event) : Publisher × Session :=
  if (p.hub.client? id).any (·.wants e) then
    let (p, push) := p.render id e
    (p, s.enqueue .send push)
  else (p, s)

/-- one move of the send pump, `none` while it waits -/
def sendStep (s : Session) (p : Publisher) (now : Nat) : Option (Publisher × Session) :=
  match s.stage with
  | .open id line _ =>
    if line.any (·.pump = .send) then s.writeStep p .send now
    else if p.hub.shutdown then some (s.finish p id .shutdown now)
    else
      match p.hub.receive id with
      | some (e, hub) => some (s.takeEvent { p with hub } id e)
      | none =>
        if (p.hub.client? id).any (·.channel.isFinished) then some (s.finish p id .channelClosed now)
        else none
  | _ => none

/-- one move of a session that closes its sink -/
def closeStep (s : Session) (now : Nat) : Option Session :=
  match s.stage with
  | .closing id ending deadline =>
    match s.sink.closing with
    | .completes => some { s with stage := .ended id ending true }
    | .fails => some { s with stage := .ended id ending false }
    | .hangs => if deadline ≤ now then some { s with stage := .ended id ending false } else none
  | _ => none

/-- the times at which the session wakes up by itself -/
def deadlines (s : Session) : List Nat :=
  match s.stage with
  | .open _ _ deadline =>
    match s.intake with
    | .reading t => t :: deadline.toList
    | _ => deadline.toList
  | .closing _ _ t => [t]
  | _ => []

end Session

end ChainFeed
