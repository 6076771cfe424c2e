/-
The frames that a session writes agree with its replies about subscriptions.

- `InStep`: the frames written and those still in line open exactly the targets that the client is subscribed to.
- `InStep.said`: what a pump puts in line keeps this.
- `frames_consistent`: read in order, each push is for a target that is open at its place.
-/
import ChainFeed.Proofs.World.Moves

namespace ChainFeed

open Message

namespace World

/-- the frames that a session writes in a move -/
def written (i : Nat) (w : World) (m : Move) : List Message :=
  match w.sessions[i]?, (w.move m).sessions[i]? with
  | some s, some s' => s'.sink.unread.drop s.sink.unread.length
  | _, _ => []

/-! ## Frames and subscriptions -/

/-- frames are consistent, and leave those targets open that the client is subscribed to -/
structure InStep (h : Hub) (id : ClientId) (frames : List Message) : Prop where
  consistent : Consistent [] frames
  tracked : ∃ s, (h.client? id).map (·.subscriptions) = some s ∧
    ∀ t, t ∈ frames.foldl track [] ↔ s.has t = true

section

variable {h : Hub} {id : ClientId} {frames : List Message}

theorem inStep_nil (hs : (h.client? id).map (·.subscriptions) = some {}) : InStep h id [] := by
  refine ⟨trivial, {}, hs, fun t => ?_⟩
  cases t <;> simp [Subscriptions.has, Subscriptions.hasKind]

/-- another frame, with a change of subscriptions that it tells -/
theorem InStep.concat {k : Hub} {m : Message} {s : Subscriptions} (hi : InStep h id frames)
    (hpush : m.isPush = true → ∃ t ∈ frames.foldl track [], m.pushed? = some t)
    (hs : (k.client? id).map (·.subscriptions) = some s)
    (ht : ∀ t, t ∈ track (frames.foldl track []) m ↔ s.has t = true) : InStep k id (frames ++ [m]) := by
  refine ⟨consistent_concat.2 ⟨hi.consistent, hpush⟩, s, hs, fun t => ?_⟩
  rw [List.foldl_append]
  exact ht t

theorem InStep.congr {k : Hub} (hi : InStep h id frames)
    (hk : (k.client? id).map (·.subscriptions) = (h.client? id).map (·.subscriptions)) : InStep k id frames := by
  obtain ⟨s, hs, ht⟩ := hi.tracked
  exact ⟨hi.consistent, s, hk.trans hs, ht⟩

theorem InStep.subscribed {k : Hub} {text : String} {r : SubscriptionRequest} {b : Bool}
    (hi : InStep h id frames) (hr : SubscriptionRequest.parse text = .ok r)
    (hk : h.subscribe id r = .ok (k, b)) :
    InStep k id (frames ++ [⟨"subscribeResp", text ++ " subscribe ok"⟩]) := by
  obtain ⟨s, hs, ht⟩ := hi.tracked
  obtain ⟨c, hc, rfl⟩ := Option.map_eq_some_iff.1 hs
  rcases Hub.subscribe_ok hk with ⟨-, hnone⟩ | ⟨d, s', hd, hsub, rfl⟩
  · simp [hc] at hnone
  · cases hc.symm.trans hd
    refine hi.concat (s := s') (fun hp => by cases hp) ?_ fun t => ?_
    · simp [Hub.client?_modifyClient, hc]
    · rw [track_subscribed hr, List.mem_cons, ht, Subscriptions.subscribe_has hsub]

theorem InStep.unsubscribed {k : Hub} {text : String} {r : SubscriptionRequest} {b : Bool} (hs : h.Sound)
    (hi : InStep h id frames) (hr : SubscriptionRequest.parse text = .ok r)
    (hk : h.unsubscribe id r = .ok (k, b)) :
    InStep k id (frames ++ [⟨"unsubscribeResp", text ++ " unsubscribe ok"⟩]) := by
  obtain ⟨s, hsub, ht⟩ := hi.tracked
  obtain ⟨c, hc, rfl⟩ := Option.map_eq_some_iff.1 hsub
  rcases Hub.unsubscribe_ok hk with ⟨-, hnone⟩ | ⟨d, s', hd, hsub, rfl⟩
  · simp [hc] at hnone
  · cases hc.symm.trans hd
    refine hi.concat (s := s') (fun hp => by cases hp) ?_ fun t => ?_
    · simp [Hub.client?_modifyClient, hc]
    · rw [track_unsubscribed hr, Subscriptions.unsubscribe_has (hs.tidy id c hc).subscriptions hsub, ← ht]
      simp [and_comm]

/-- what is pushed is for a target that is open when it gets in line, so that no reply can close it before -/
theorem InStep.pushed {k : Hub} {c : Client} {e : Event} {rest : List Event} {m : Message} (hs : h.Sound)
    (hi : InStep h id frames) (hc : h.client? id = some c) (hq : c.channel.queue = e :: rest)
    (hwants : c.wants e = true) (hm : m.pushed? = some e.target) (htrack : ∀ targets, track targets m = targets)
    (hk : (k.client? id).map (·.subscriptions) = (h.client? id).map (·.subscriptions)) :
    InStep k id (frames ++ [m]) := by
  obtain ⟨s, hsub, ht⟩ := hi.tracked
  obtain rfl : c.subscriptions = s := by simpa [hc] using hsub
  have hd := (hs.tidy id c hc).queue e (by simp [hq])
  have hv : e.isValid = true := by
    simp only [Event.isDeliverable, Bool.and_eq_true] at hd
    exact hd.1.1
  have hhas : c.subscriptions.has e.target = true :=
    Subscriptions.isSubscribed_eq (hs.tidy id c hc).subscriptions hv ▸ hwants
  refine hi.concat (fun _ => ⟨e.target, (ht _).2 hhas, hm⟩) (hk.trans hsub) fun t => ?_
  rw [htrack, ht]

/-- what a pump puts in line -/
theorem InStep.said {ops : List Hub.Op} {frame : Option Message} (hs : h.Sound) (hi : InStep h id frames)
    (hsaid : Said h id ops frame) : InStep (h.run ops) id (frames ++ frame.toList) := by
  cases hsaid with
  | nothing => simpa using hi
  | plain neutral =>
    obtain ⟨s, hsub, ht⟩ := hi.tracked
    refine hi.concat (fun hp => by simp [neutral.push] at hp) hsub fun t => ?_
    rw [neutral.track, ht]
  | subscribed parsed granted =>
    simpa [Hub.run, Trace.run, Hub.apply, granted] using hi.subscribed parsed granted
  | unsubscribed parsed granted =>
    simpa [Hub.run, Trace.run, Hub.apply, granted] using hi.unsubscribed hs parsed granted
  | @took c e rest ops _ client queue drains pushes =>
    have hk : ((h.run (.take id :: ops)).client? id).map (·.subscriptions) =
        (h.client? id).map (·.subscriptions) := by
      rcases drains with rfl | rfl
      · exact Hub.subscriptions_take h id
      · calc ((h.run [.take id, .drain id]).client? id).map (·.subscriptions)
            = ((h.apply (.take id)).client? id).map (·.subscriptions) := Hub.subscriptions_drain _ id
          _ = (h.client? id).map (·.subscriptions) := Hub.subscriptions_take h id
    cases frame with
    | none => simpa using hi.congr hk
    | some m =>
      obtain ⟨hwants, hm, htrack⟩ := pushes m rfl
      exact hi.pushed hs client queue hwants hm htrack hk

end

/-! ## Every session -/

/-- how the frames that a session has written stand to its stage -/
def Framed (h : Hub) (frames : List Message) (s : Session) : Prop :=
  match s.stage with
  | .connecting => frames = []
  | .open id line _ => InStep h id (frames ++ line.map (·.frame))
  | _ => Consistent [] frames

theorem Framed.consistent {h : Hub} {frames : List Message} {s : Session} (hf : Framed h frames s) :
    Consistent [] frames := by
  unfold Framed at hf
  split at hf
  · exact hf ▸ trivial
  · exact (consistent_append.1 hf.consistent).1
  · exact hf

section

variable {w : World} {m : Move} {i : Nat} {s s' : Session} {frames : List Message}

theorem written_eq (hi : w.sessions[i]? = some s) (hi' : (w.move m).sessions[i]? = some s') :
    written i w m = s'.sink.unread.drop s.sink.unread.length := by
  simp [written, hi, hi']

theorem framed_own {h : Hub} {ops : List Hub.Op} (hs : h.Sound) (hf : Framed h frames s)
    (hd : s.Did h ops s') : Framed (h.run ops) (frames ++ s'.sink.unread.drop s.sink.unread.length) s' := by
  have hcons := hf.consistent
  cases hd with
  | broke | refused | parted | ended => simpa [Framed] using hcons
  | @opened k id hstage hr =>
    obtain ⟨-, rfl, c, hc, rfl⟩ := Hub.register_ok hr
    obtain ⟨-, -, -, -, hnew⟩ := Hub.client_create_ok hc
    have hsub : ((h.run [.register]).client? (h.clients.length + 1)).map (·.subscriptions) = some {} := by
      simp only [Hub.run, Trace.run, List.foldl_cons, List.foldl_nil, Hub.apply, hr]
      rw [Hub.client?_entered, if_pos rfl, Option.map_some, hnew]
    simp only [Framed, hstage] at hf
    simpa [Framed, hf] using inStep_nil hsub
  | timed hstage =>
    simp only [Framed, hstage] at hf
    simpa [Framed] using hf
  | wrote hstage =>
    simp only [Framed, hstage] at hf
    simpa [Framed, Sink.write] using hf
  | @said id line d pump ops frame inbox _ hstage hsaid =>
    simp only [Framed, hstage] at hf
    simpa [Framed, Function.comp_def] using hf.said hs hsaid

theorem framed_move (hw : Wired w) (hi : w.sessions[i]? = some s) (hi' : (w.move m).sessions[i]? = some s')
    (hf : Framed w.hub frames s) : Framed (w.move m).hub (frames ++ written i w m) s' := by
  obtain ⟨t, ht, hseen⟩ := seen hw hi m
  cases hi'.symm.trans ht
  rw [written_eq hi hi']
  cases hseen with
  | own did hub => exact hub ▸ framed_own hw.sound hf did
  | @other ops _ stage unread hub apart =>
    rw [List.drop_eq_nil_of_le unread.length_le, List.append_nil]
    unfold Framed at hf ⊢
    rw [stage]
    cases hstage : s.stage with
    | «open» id line d =>
      have hc : s.client? = some id := by simp [Session.client?, hstage]
      simp only [hstage, hub] at hf ⊢
      exact hf.congr (Hub.view_run Hub.subscriptions_private hw.sound (hw.known i s id hi hc) (apart id hc))
    | _ =>
      simp only [hstage] at hf ⊢
      exact hf

end

/-! ## Every run -/

/-- the frames that a session has written so far stand to its stage as they should -/
theorem framed_run {w₀ : World} (hw : Wired w₀) (hs : w₀.sessions = []) {moves : List Move} {i : Nat}
    {s : Session} (hi : (w₀.run moves).sessions[i]? = some s) :
    Framed (w₀.run moves).hub (w₀.record (written i) moves) s := by
  induction moves using List.reverseRecOn generalizing s with
  | nil => simp [run, hs] at hi
  | append_singleton moves m ih =>
    rw [run_concat] at hi
    rw [run_concat, record_concat]
    cases ht : (w₀.run moves).sessions[i]? with
    | none =>
      have hpast : w₀.record (written i) moves = [] :=
        record_absent (fun w m hi => by simp [written, hi]) hw ht
      simp [Framed, (appeared ht hi).1, hpast, written, ht]
    | some t => exact framed_move (wired_run hw moves) ht hi (ih ht)

/-- **Frames agree with replies.** Over every run of a new world, the frames that a session writes are consistent:
each push is for a target that a reply has opened and none has closed since. -/
theorem frames_consistent {config : HubConfig} {source : Source} {runs : Bool} {w₀ : World}
    (hw : World.create config source runs = .ok w₀) (moves : List Move) (i : Nat) :
    Consistent [] (w₀.record (written i) moves) := by
  have hwired := wired_create hw
  cases hi : (w₀.run moves).sessions[i]? with
  | none =>
    rw [record_absent (fun w m hi => by simp [written, hi]) hwired hi]
    trivial
  | some s => exact (framed_run hwired (create_ok hw).2 hi).consistent

/-- a session writes the push that was in line before its peer withdrew the subscription, and no other -/
theorem frames_consistent_three :
    ∃ w₀, World.create {} .idle true = .ok w₀ ∧ ∃ moves,
      (w₀.record (written 0) moves).map (·.eventId) = ["subscribeResp", "newblock", "unsubscribeResp"] ∧
      Consistent [] (w₀.record (written 0) moves) := by
  refine ⟨_, rfl, [.ask (.connect {}), .act .hub, .act (.connect 0), .act .hub,
    .ask (.feed 0 (.text "\x7b\"event_id\":\"subscribe\",\"message\":\"newblock\"\x7d")), .act (.receive 0),
    .act (.receive 0), .ask (.publishAll [.newBlock, .newBlock]), .act (.producer 0), .act (.producer 0),
    .act .hub, .act .hub, .act (.send 0),
    .ask (.feed 0 (.text "\x7b\"event_id\":\"unsubscribe\",\"message\":\"newblock\"\x7d")), .act (.receive 0),
    .act (.send 0), .act (.receive 0), .act (.send 0), .act (.send 0)], ?_, ?_⟩
  · rfl
  · exact frames_consistent (show World.create {} .idle true = .ok _ from rfl) _ 0

end World

end ChainFeed
