/-
Everything that one move of a session can do, to the session itself and to the hub.

- `Said`: what a pump comes to when it takes a frame or an event: operations on the hub, and a frame to write.
- `Did`: what a session comes to in one move.
- `connectStep_did`, `receiveStep_did`, `sendStep_did`, `closeStep_did`: there is nothing else.
-/
import ChainFeed.Proofs.Feed.Frames
import ChainFeed.Proofs.Hub.Membership
import ChainFeed.Session.Basic

namespace ChainFeed

/-! ## What is said to a client -/

/-- the operations on the hub and the frame, if any, that a pump of the client's session comes to -/
inductive Said (h : Hub) (id : ClientId) : List Hub.Op → Option Message → Prop
  | nothing : Said h id [] none
  | plain {m : Message} (neutral : m.Neutral) : Said h id [] (some m)
  | subscribed {text : String} {r : SubscriptionRequest} {k : Hub} {b : Bool}
      (parsed : SubscriptionRequest.parse text = .ok r) (granted : h.subscribe id r = .ok (k, b)) :
      Said h id [.subscribe id r] (some ⟨"subscribeResp", text ++ " subscribe ok"⟩)
  | unsubscribed {text : String} {r : SubscriptionRequest} {k : Hub} {b : Bool}
      (parsed : SubscriptionRequest.parse text = .ok r) (granted : h.unsubscribe id r = .ok (k, b)) :
      Said h id [.unsubscribe id r] (some ⟨"unsubscribeResp", text ++ " unsubscribe ok"⟩)
  /-- an event is taken out of the channel, and pushed at most if the client still wants it; a flush signal that it
  still wants empties its buffer -/
  | took {c : Client} {e : Event} {rest : List Event} {ops : List Hub.Op} {push : Option Message}
      (client : h.client? id = some c) (queue : c.channel.queue = e :: rest)
      (drains : ops = [] ∨ ops = [.drain id])
      (pushes : ∀ m, push = some m → c.wants e = true ∧ m.pushed? = some e.target ∧
        ∀ targets, Message.track targets m = targets)
      (emptied : e = .newTxs → c.wants e = true → ops = [.drain id]) :
      Said h id (.take id :: ops) push

namespace Publisher

/-- the reply to a request for a subscription or for its withdrawal -/
theorem subscriptionReply_cases (p : Publisher) (text done : String)
    (change : SubscriptionRequest → Except FeedError (Hub × Bool)) :
    p.subscriptionReply text done change = (p, Message.invalidSubscription) ∨
      ∃ r hub b, SubscriptionRequest.parse text = .ok r ∧ change r = .ok (hub, b) ∧
        p.subscriptionReply text done change = ({ p with hub }, text ++ done) := by
  unfold subscriptionReply
  cases hp : SubscriptionRequest.parse text with
  | error e => exact Or.inl rfl
  | ok r =>
    cases hc : change r with
    | error e =>
      left
      simp [Except.bind, hc]
    | ok hb =>
      right
      exact ⟨r, hb.1, hb.2, rfl, hc, by simp [Except.bind, hc]⟩

theorem answer_said (p : Publisher) (id : ClientId) (request : Message) :
    ∃ ops, Said p.hub id ops (p.answer id request).2 ∧
      (p.answer id request).1 = { p with hub := p.hub.run ops } := by
  unfold answer
  cases hk : request.request? with
  | none => exact ⟨[], .nothing, rfl⟩
  | some kind =>
    have hname : kind.name = request.eventId := by
      have hf := List.find?_some hk
      simpa using hf
    have hother : kind ≠ .subscribe → kind ≠ .unsubscribe → ∀ s, (request.reply s).Neutral := fun hs hu s => by
      refine Message.neutral_reply (fun he => ?_) fun he => ?_
      · rw [← hname] at he
        cases kind <;> simp [RequestKind.name] at he hs
      · rw [← hname] at he
        cases kind <;> simp [RequestKind.name] at he hu
    have hinvalid : (request.reply Message.invalidSubscription).Neutral :=
      Message.neutral_reply (fun _ => by decide) fun _ => by decide
    cases kind with
    | subscribe =>
      rcases p.subscriptionReply_cases request.message " subscribe ok" (p.hub.subscribe id) with
        hr | ⟨r, k, b, hp, hg, hr⟩
      · simp only [payload, hr, Option.map_some]
        exact ⟨[], .plain hinvalid, rfl⟩
      · simp only [payload, hr, Option.map_some, Message.reply, ← hname]
        refine ⟨_, .subscribed hp hg, ?_⟩
        simp [Hub.run, Trace.run, Hub.apply, hg]
    | unsubscribe =>
      rcases p.subscriptionReply_cases request.message " unsubscribe ok" (p.hub.unsubscribe id) with
        hr | ⟨r, k, b, hp, hg, hr⟩
      · simp only [payload, hr, Option.map_some]
        exact ⟨[], .plain hinvalid, rfl⟩
      · simp only [payload, hr, Option.map_some, Message.reply, ← hname]
        refine ⟨_, .unsubscribed hp hg, ?_⟩
        simp [Hub.run, Trace.run, Hub.apply, hg]
    | decodeTx =>
      have hn := hother (by decide) (by decide)
      cases hd : p.source.decode request.message <;> simp only [payload, hd, Option.map_some] <;>
        exact ⟨[], .plain (hn _), rfl⟩
    | sendTx =>
      have hn := hother (by decide) (by decide)
      cases hd : p.source.send request.message <;> simp only [payload, hd, Option.map_some] <;>
        exact ⟨[], .plain (hn _), rfl⟩
    | getMempoolTxs => exact ⟨[], .plain (hother (by decide) (by decide) _), rfl⟩
    | ping => exact ⟨[], .nothing, rfl⟩

theorem answerFrame_said (p : Publisher) (id : ClientId) (maxBytes : Nat) (text : String) :
    ∃ ops, Said p.hub id ops (p.answerFrame id maxBytes text).2 ∧
      (p.answerFrame id maxBytes text).1 = { p with hub := p.hub.run ops } := by
  unfold answerFrame
  cases Message.parse text with
  | error e => exact ⟨[], .plain (Message.neutral_unreadable e), rfl⟩
  | ok request =>
    by_cases hl : maxBytes < request.message.utf8ByteSize
    · simp only [hl, if_true]
      exact ⟨[], .plain (Message.neutral_reply (fun _ => by decide) fun _ => by decide), rfl⟩
    · simp only [hl, if_false]
      exact answer_said p id request

/-- what is pushed for an event is for the target of the event -/
theorem render_pushes (p : Publisher) (id : ClientId) (e : Event) :
    ∃ ops, (ops = [] ∨ ops = [.drain id]) ∧ (e = .newTxs → ops = [.drain id]) ∧
      (p.render id e).1 = { p with hub := p.hub.run ops } ∧
      ∀ m, (p.render id e).2 = some m →
        m.pushed? = some e.target ∧ ∀ targets, Message.track targets m = targets := by
  have hpush : ∀ (kind : EventKind) (s : String) (m : Message), kind ≠ .address →
      some (Message.push kind s) = some m →
        m.pushed? = some (.kind kind) ∧ ∀ targets, Message.track targets m = targets := by
    rintro kind s m hk hm
    cases hm
    exact ⟨Message.pushed?_push hk s, Message.track_push kind s⟩
  cases e with
  | newTxs =>
    refine ⟨[.drain id], Or.inr rfl, fun _ => rfl, ?_, fun m hm => ?_⟩
    · simp only [render]
      split <;> simp [Hub.run, Trace.run, Hub.apply, *]
    · simp only [render] at hm
      split at hm
      · cases hm
      · exact hpush .newTxs _ m (by decide) hm
  | address activity =>
    refine ⟨[], Or.inl rfl, by simp, rfl, fun m hm => ?_⟩
    cases hm
    exact ⟨Message.pushed?_address activity, Message.track_push _ _⟩
  | newBlock => exact ⟨[], Or.inl rfl, by simp, rfl, fun m hm => hpush .newBlock _ m (by decide) hm⟩
  | mempool => exact ⟨[], Or.inl rfl, by simp, rfl, fun m hm => hpush .mempool _ m (by decide) hm⟩
  | ping => exact ⟨[], Or.inl rfl, by simp, rfl, fun m hm => hpush .ping _ m (by decide) hm⟩
  | syncStatus stages => exact ⟨[], Or.inl rfl, by simp, rfl, fun m hm => hpush .syncStatus _ m (by decide) hm⟩
  | newTx tx => exact ⟨[], Or.inl rfl, by simp, rfl, fun m hm => by cases hm⟩
  | subscribe r => exact ⟨[], Or.inl rfl, by simp, rfl, fun m hm => by cases hm⟩
  | unsubscribe r => exact ⟨[], Or.inl rfl, by simp, rfl, fun m hm => by cases hm⟩

end Publisher

/-! ## One move -/

namespace Session

/-- the operations on the hub by which a session parts from its client -/
def partingOps (id : ClientId) (ending : SessionEnd) : List Hub.Op :=
  [.hangUp id, .unsubscribeAll id] ++ if ending.needsUnregister then [.unregister id] else []

/-- what a session comes to in one move, with the operations on the hub -/
inductive Did (s : Session) (h : Hub) : List Hub.Op → Session → Prop
  | broke {cause : Overflow} (stage : s.stage = .connecting) :
      Did s h [] { s with stage := .broken cause, inbox := [] }
  | refused {reason : FeedError} (stage : s.stage = .connecting) :
      Did s h [] { s with stage := .refused reason, inbox := [] }
  | opened {k : Hub} {id : ClientId} (stage : s.stage = .connecting)
      (registered : h.register = .ok (.ok (k, id))) :
      Did s h [.register] { s with stage := .open id [] none, intake := .ready }
  /-- the time limit of a write starts -/
  | timed {id : ClientId} {line : List Write} {d t : Option Nat} (stage : s.stage = .open id line d) :
      Did s h [] { s with stage := .open id line t }
  | wrote {id : ClientId} {w : Write} {line : List Write} {d : Option Nat}
      (stage : s.stage = .open id (w :: line) d) :
      Did s h [] { s with sink := s.sink.write w.frame, stage := .open id line none }
  /-- a pump takes something or turns to something else, and puts a frame in line at most -/
  | said {id : ClientId} {line : List Write} {d : Option Nat} {pump : Pump} {ops : List Hub.Op}
      {frame : Option Message} {inbox : List Frame} {intake : Intake} (stage : s.stage = .open id line d)
      (said : Said h id ops frame) :
      Did s h ops { s with inbox, intake, stage := .open id (line ++ frame.toList.map (⟨pump, ·⟩)) d }
  | parted {id : ClientId} {line : List Write} {d : Option Nat} {ending : SessionEnd} {t : Nat}
      (stage : s.stage = .open id line d)
      (closed : ending = .channelClosed →
        ∃ c, h.client? id = some c ∧ c.channel.isFinished = true)
      (shutdown : ending = .shutdown → h.shutdown = true) :
      Did s h (partingOps id ending) { s with stage := .closing id ending t, intake := .ready, inbox := [] }
  | ended {id : ClientId} {ending : SessionEnd} {t : Nat} {sinkClosed : Bool}
      (stage : s.stage = .closing id ending t) :
      Did s h [] { s with stage := .ended id ending sinkClosed }

variable {s s' : Session} {p p' : Publisher} {now : Nat}

/-- what a session did, together with the publisher after it -/
def DidWith (s : Session) (p p' : Publisher) (s' : Session) : Prop :=
  ∃ ops, s.Did p.hub ops s' ∧ p' = { p with hub := p.hub.run ops }

theorem connectStep_did (hs : s.connectStep p = some (p', s')) : s.DidWith p p' s' := by
  unfold connectStep at hs
  split at hs
  · rename_i hst
    split at hs
    · cases hs
      exact ⟨[], .broke hst, rfl⟩
    · cases hs
      exact ⟨[], .refused hst, rfl⟩
    · rename_i k id hr
      split_ifs at hs
      cases hs
      exact ⟨_, .opened hst hr, by simp [Hub.run, Trace.run, Hub.apply, hr]⟩
  · cases hs

theorem finish_did {id : ClientId} {line : List Write} {d : Option Nat} {ending : SessionEnd} {inbox : List Frame}
    {intake : Intake} (hst : s.stage = .open id line d)
    (hclosed : ending = .channelClosed → ∃ c, p.hub.client? id = some c ∧ c.channel.isFinished = true)
    (hshut : ending = .shutdown → p.hub.shutdown = true)
    (hs : { s with inbox, intake }.finish p id ending now = (p', s')) : s.DidWith p p' s' := by
  cases hs
  refine ⟨_, .parted hst hclosed hshut, ?_⟩
  unfold partingOps
  cases ending.needsUnregister <;> rfl

theorem writeStep_did {pump : Pump} (hs : s.writeStep p pump now = some (p', s')) : s.DidWith p p' s' := by
  unfold writeStep at hs
  split at hs
  · rename_i id w line d hst
    have hfinish : s.finish p id .writeFailed now = (p', s') → s.DidWith p p' s' :=
      finish_did hst (by simp) (by simp)
    by_cases hp : w.pump ≠ pump
    · simp [hp] at hs
    rw [if_neg hp] at hs
    by_cases hf : s.sink.failing = true
    · rw [if_pos hf] at hs
      exact hfinish (Option.some.inj hs)
    rw [if_neg hf] at hs
    by_cases hr : s.sink.hasRoom = true
    · rw [if_pos hr] at hs
      cases hs
      exact ⟨[], .wrote hst, rfl⟩
    rw [if_neg hr] at hs
    split at hs
    · cases hs
      exact ⟨[], .timed hst, rfl⟩
    · split_ifs at hs
      exact hfinish (Option.some.inj hs)
  · cases hs

/-- a frame that is put in line, or none -/
theorem enqueue_eq {id : ClientId} {line : List Write} {d : Option Nat} (hst : s.stage = .open id line d)
    (pump : Pump) (frame : Option Message) :
    s.enqueue pump frame = { s with stage := .open id (line ++ frame.toList.map (⟨pump, ·⟩)) d } := by
  unfold enqueue
  rw [hst]
  cases frame with
  | none =>
    simp only [Option.toList_none, List.map_nil, List.append_nil]
    rw [← hst]
  | some m => rfl

theorem said_did {id : ClientId} {line : List Write} {d : Option Nat} {ops : List Hub.Op}
    {frame : Option Message} (hst : s.stage = .open id line d) (hsaid : Said p.hub id ops frame)
    (pump : Pump) (inbox : List Frame) (intake : Intake) :
    s.DidWith p { p with hub := p.hub.run ops } ({ s with inbox, intake }.enqueue pump frame) := by
  rw [enqueue_eq (s := { s with inbox, intake }) hst]
  exact ⟨ops, .said hst hsaid, rfl⟩

@[simp] theorem enqueue_none (s : Session) (pump : Pump) : s.enqueue pump none = s := by
  unfold enqueue
  split <;> simp_all

/-- a pump turns to something else, and nothing is said -/
theorem turned_did {id : ClientId} {line : List Write} {d : Option Nat} (hst : s.stage = .open id line d)
    (inbox : List Frame) (intake : Intake) : s.DidWith p p { s with inbox, intake } := by
  simpa [Hub.run] using said_did (p := p) hst .nothing .receive inbox intake

theorem answerText_did {id : ClientId} {line : List Write} {d : Option Nat} {t : String} {inbox : List Frame}
    {intake : Intake} (hst : s.stage = .open id line d)
    (hs : { s with inbox, intake }.answerText p id t = (p', s')) : s.DidWith p p' s' := by
  obtain ⟨ops, hsaid, hp⟩ := p.answerFrame_said id s.config.maxRequestBytes t
  have hdid := said_did hst hsaid .receive inbox intake
  rw [← hp] at hdid
  cases hs
  exact hdid

theorem takeFrame_did {id : ClientId} {line : List Write} {d : Option Nat} {f : Frame} {inbox : List Frame}
    {intake : Intake} (hst : s.stage = .open id line d)
    (hs : { s with inbox, intake }.takeFrame p id f now = (p', s')) : s.DidWith p p' s' := by
  cases f with
  | close => exact finish_did hst (by simp) (by simp) hs
  | failure => exact finish_did hst (by simp) (by simp) hs
  | control =>
    cases hs
    exact turned_did hst inbox intake
  | text t =>
    unfold takeFrame at hs
    dsimp only at hs
    split_ifs at hs
    · cases hs
      exact turned_did hst inbox (.asking t)
    · exact answerText_did hst hs

theorem readStep_did {id : ClientId} {line : List Write} {d : Option Nat} (hst : s.stage = .open id line d)
    (hs : s.readStep now = some s') : s.DidWith p p s' := by
  unfold readStep at hs
  split at hs
  · split_ifs at hs
    cases hs
    exact turned_did hst s.inbox .ready
  · cases hs
    exact turned_did hst s.inbox _

theorem receiveStep_did (hs : s.receiveStep p now = some (p', s')) : s.DidWith p p' s' := by
  unfold receiveStep at hs
  split at hs
  · rename_i id line d hst
    by_cases hw : line.any (·.pump = .receive) = true
    · rw [if_pos hw] at hs
      exact writeStep_did hs
    rw [if_neg hw] at hs
    split at hs
    · exact answerText_did hst (Option.some.inj hs)
    · exact takeFrame_did hst (Option.some.inj hs)
    · split_ifs at hs
      · exact finish_did hst (by simp) (by simp) (Option.some.inj hs)
      · obtain ⟨t, ht, he⟩ := Option.map_eq_some_iff.1 hs
        cases he
        exact readStep_did hst ht
  · cases hs

theorem takeEvent_did {id : ClientId} {line : List Write} {d : Option Nat} {e : Event} {hub : Hub}
    (hst : s.stage = .open id line d) (hr : p.hub.receive id = some (e, hub))
    (hs : s.takeEvent { p with hub } id e = (p', s')) : s.DidWith p p' s' := by
  obtain ⟨c, rest, hc, hq, hk⟩ := Hub.receive_eq_some hr
  have htake : p.hub.run [.take id] = hub := by simp [Hub.run, Trace.run, Hub.apply, hr]
  have hwants : (hub.client? id).any (·.wants e) = c.wants e := by
    rw [hk, Hub.client?_modifyClient, if_pos rfl, hc]
    rfl
  unfold takeEvent at hs
  simp only [hwants] at hs
  by_cases hw : c.wants e = true
  · rw [if_pos hw] at hs
    obtain ⟨ops, hdrains, hemptied, hp, hpush⟩ := Publisher.render_pushes { p with hub } id e
    have hdid := said_did hst (.took hc hq hdrains (fun m hm => ⟨hw, hpush m hm⟩) fun he _ => hemptied he) .send
      s.inbox s.intake
    have hrun : p.hub.run (.take id :: ops) = hub.run ops := by
      rw [← htake]
      rfl
    cases hs
    rw [hp, ← hrun]
    exact hdid
  · rw [if_neg hw] at hs
    have hsaid : Said p.hub id [.take id] none := .took hc hq (Or.inl rfl) (by simp) fun _ hwe => absurd hwe hw
    have hdid := said_did (p := p) hst hsaid .send s.inbox s.intake
    cases hs
    rw [← htake]
    simpa using hdid

theorem sendStep_did (hs : s.sendStep p now = some (p', s')) : s.DidWith p p' s' := by
  unfold sendStep at hs
  split at hs
  · rename_i id line d hst
    by_cases hw : line.any (·.pump = .send) = true
    · rw [if_pos hw] at hs
      exact writeStep_did hs
    rw [if_neg hw] at hs
    by_cases hsd : p.hub.shutdown = true
    · rw [if_pos hsd] at hs
      exact finish_did hst (by simp) (fun _ => hsd) (Option.some.inj hs)
    rw [if_neg hsd] at hs
    split at hs
    · rename_i e hub hr
      exact takeEvent_did hst hr (Option.some.inj hs)
    · split_ifs at hs with hf
      obtain ⟨c, hc, hf⟩ := (Option.any_eq_true _ _).1 hf
      exact finish_did hst (fun _ => ⟨c, hc, hf⟩) (by simp) (Option.some.inj hs)
  · cases hs

theorem closeStep_did {h : Hub} (hs : s.closeStep now = some s') : s.Did h [] s' := by
  unfold closeStep at hs
  split at hs
  · rename_i id ending t hst
    split at hs
    · cases hs
      exact .ended hst
    · cases hs
      exact .ended hst
    · split_ifs at hs
      cases hs
      exact .ended hst
  · cases hs

/-! ## The client of a session -/

/-- the client that a session has, or has had -/
def client? (s : Session) : Option ClientId :=
  match s.stage with
  | .open id _ _ | .closing id _ _ | .ended id _ _ => some id
  | _ => none

theorem client?_congr {s t : Session} (h : s.stage = t.stage) : s.client? = t.client? := by
  simp [client?, h]

/-- what a pump does is private to its client, which does not hang up -/
theorem said_private {h : Hub} {id : ClientId} {ops : List Hub.Op} {frame : Option Message}
    (hs : Said h id ops frame) :
    ∀ op ∈ ops, op.isPrivate = true ∧ op.client? = some id ∧ ∀ j, op ≠ .hangUp j := by
  cases hs with
  | took _ _ hd => rcases hd with rfl | rfl <;> simp [Hub.Op.isPrivate, Hub.Op.client?]
  | _ => simp [Hub.Op.isPrivate, Hub.Op.client?]

/-- a session changes no other client than its own -/
theorem did_ops {h : Hub} {ops : List Hub.Op} (hd : s.Did h ops s') :
    ∀ op ∈ ops, op.isTurn = false ∧ ∀ id, op.client? = some id → s.client? = some id := by
  cases hd with
  | opened => simp [Hub.Op.isTurn, Hub.Op.client?]
  | said hst hsaid =>
    intro op hop
    obtain ⟨hp, hc, -⟩ := said_private hsaid op hop
    refine ⟨(by cases op <;> first | rfl | cases hp), fun id hid => ?_⟩
    simpa [client?, hst] using hc.symm.trans hid
  | @parted id line d ending t hst =>
    have hc : s.client? = some id := by simp [client?, hst]
    simp only [partingOps]
    cases ending.needsUnregister <;> simp [Hub.Op.isTurn, Hub.Op.client?, hc]
  | _ => simp

/-- a session keeps its client, and gets a new one when it registers -/
theorem did_client {h : Hub} (hs : h.Sound) {ops : List Hub.Op} (hd : s.Did h ops s') :
    s'.client? = s.client? ∧ (h.run ops).clients.length = h.clients.length ∨
      s.client? = none ∧ s'.client? = some (h.clients.length + 1) ∧
        (h.run ops).clients.length = h.clients.length + 1 := by
  cases hd with
  | @opened k id hst hr =>
    obtain ⟨-, hid, c, -, hk⟩ := Hub.register_ok hr
    refine Or.inr ⟨by simp [client?, hst], by simp [client?, hid], ?_⟩
    simp [Hub.run, Trace.run, Hub.apply, hr, hk]
  | said hst hsaid =>
    refine Or.inl ⟨by simp [client?, hst], Hub.clients_run hs fun op hop => ?_⟩
    obtain ⟨hp, -⟩ := said_private hsaid op hop
    rintro rfl
    cases hp
  | @parted id line d ending t hst =>
    refine Or.inl ⟨by simp [client?, hst], Hub.clients_run hs ?_⟩
    simp only [partingOps]
    cases ending.needsUnregister <;> simp
  | broke hst | refused hst | timed hst | wrote hst | ended hst => exact Or.inl ⟨by simp [client?, hst], rfl⟩

/-- **What a session tells the hub**: its registration when it opens, and at most its unregistration when it parts
from its client. -/
theorem did_notices {h : Hub} {ops : List Hub.Op} (hd : s.Did h ops s') :
    Hub.notices h (h.run ops) =
      match s.stage, s'.stage with
      | .connecting, .open id _ _ => [.registration id]
      | .open id _ _, .closing _ ending _ =>
        if ending.needsUnregister = true ∧ h.isOpen = true then [.unregistration id] else []
      | _, _ => [] := by
  have hnone : Hub.notices h (h.run []) = [] := Hub.notices_eq_nil (Nat.le_refl _) (Nat.le_refl _)
  cases hd with
  | @opened k id hst hr =>
    obtain ⟨-, hid, c, -, hk⟩ := Hub.register_ok hr
    simp [Hub.run, Trace.run, Hub.apply, hr, hst, hk, hid, Hub.notices]
  | said hst hsaid =>
    obtain ⟨-, h1, h2⟩ := Hub.private_run (h := h) fun op hop => (said_private hsaid op hop).1
    simp [hst, Hub.notices_eq_nil (Nat.le_of_eq (congrArg List.length h1)) (Nat.le_of_eq (congrArg List.length h2))]
  | @parted id line d ending t hst =>
    simp only [hst, partingOps]
    cases hn : ending.needsUnregister with
    | false => simp [Hub.run, Trace.run, Hub.apply, Hub.hangUp, Hub.unsubscribeAll, Hub.notices]
    | true =>
      cases ho : h.isOpen <;>
        simp [Hub.run, Trace.run, Hub.apply, Hub.hangUp, Hub.unsubscribeAll, Hub.unregister, Hub.notices, ho]
  | broke hst | refused hst | timed hst | wrote hst | ended hst => simpa [hst] using hnone

/-- a session tells the hub about its own client only -/
theorem did_notices_client {h : Hub} {ops : List Hub.Op} (hd : s.Did h ops s') {n : Hub.Notice}
    (hn : n ∈ Hub.notices h (h.run ops)) : s'.client? = some n.client := by
  rw [did_notices hd] at hn
  split at hn
  · rename_i hst
    rw [List.mem_singleton.1 hn]
    simp [client?, hst, Hub.Notice.client]
  · rename_i hst hst'
    split_ifs at hn
    · rw [List.mem_singleton.1 hn]
      cases hd <;> simp_all [client?, Hub.Notice.client]
    · cases hn
  · cases hn

end Session

end ChainFeed
