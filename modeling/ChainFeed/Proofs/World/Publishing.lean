/-
Publishing an event: what the background task that is started for it puts into the relay, and what is known of it when
the wait for it is over.

- `goesOn_run`: over a list of moves a background task goes on, and its events that have entered the relay are the
  accepted ones.
- `same_own`: by itself the system changes neither what it tells of the chain nor the ready flag.
- `advanceTo_told`: the wait for an event ends with its outcome, since the event is not in line beyond its time limit.
- `publish_delivers`: an event that is accepted has entered the relay once, and one that is not never enters it.
-/
import ChainFeed.Proofs.Hub.Signals
import ChainFeed.Proofs.Hub.Tasks
import ChainFeed.Proofs.World.Publisher
import ChainFeed.Proofs.World.Shutdown

namespace ChainFeed

namespace Hub.GoesOn

variable {h : Hub} {task : Nat} {events entered later : List Event} {outcomes : List Outcome}

/-- the task goes on from wherever it was after the first step -/
theorem trans (hg : GoesOn task events outcomes entered h) {k : Hub}
    (hk : ∀ after, Underway task events after h → GoesOn task events after later k) :
    GoesOn task events outcomes (entered ++ later) k := by
  obtain ⟨after, hbegun, hunderway, hentered⟩ := hg
  obtain ⟨last, hgone, hunderway', hlater⟩ := hk after hunderway
  refine ⟨last, hbegun.trans hgone, hunderway', ?_⟩
  rw [hlater, hentered, List.append_assoc]

/-- a task that is done with its events puts nothing in any more -/
theorem eq_nil (hg : GoesOn task events outcomes entered h) (hd : outcomes.length = events.length) : entered = [] := by
  obtain ⟨after, hbegun, hunderway, hentered⟩ := hg
  have hsame : after = outcomes := by
    refine (hbegun.eq_of_length_le ?_).symm
    rw [hd]
    exact hunderway.behind
  rw [hsame] at hentered
  exact List.self_eq_append_right.1 hentered

end Hub.GoesOn

namespace World

open Hub (Underway GoesOn putIn Told Trying)

/-! ## What a background task puts in -/

/-- the events of a background task that enter the relay in a move -/
def entering (task : Nat) (w : World) (m : Move) : List Event :=
  if m.origin = .producer task then (w.move m).hub.relay.queue.drop w.hub.relay.queue.length else []

section

variable {w : World} {task : Nat} {events : List Event} {outcomes : List Outcome}

/-- in a move that leaves the relay alone nothing enters it -/
theorem entering_of_relay {m : Move} (hr : (w.move m).hub.relay = w.hub.relay) : w.entering task m = [] := by
  unfold entering
  split_ifs
  · rw [hr, List.drop_length]
  · rfl

/-- **A background task goes on in every move.** -/
theorem goesOn_move (hw : Wired w) (hu : Underway task events outcomes w.hub) (m : Move) :
    GoesOn task events outcomes (w.entering task m) (w.move m).hub := by
  have hp := progress w m
  have hnothing : (w.move m).hub.relay = w.hub.relay → w.entering task m = [] := entering_of_relay
  unfold entering hub at hnothing ⊢
  generalize stored w m = stores, (w.move m).publisher = p at hp hnothing ⊢
  cases hp with
  | quiet ops _ quiet =>
    have hstill := Hub.still_run w.hub quiet
    rw [hnothing hstill.relay]
    exact hu.goesOn hstill.producers hstill.relay
  | hub op origin =>
    rw [← origin]
    exact Hub.underway_apply hw.sound hu op
  | @stored r =>
    rw [hnothing rfl]
    have hmore := Hub.underway_apply hw.sound hu (.publish (Publisher.blockEvents r))
    exact hmore

/-- **A background task goes on over a list of moves**, and its events that have entered the relay are the accepted
ones. -/
theorem goesOn_run (hw : Wired w) (hu : Underway task events outcomes w.hub) (moves : List Move) :
    GoesOn task events outcomes (w.record (entering task) moves) (w.run moves).hub := by
  induction moves generalizing w outcomes with
  | nil => exact hu.goesOn rfl rfl
  | cons m moves ih => exact (goesOn_move hw hu m).trans fun after hafter => ih (wired_move hw m) hafter

end

/-! ## What the system changes by itself -/

/-- what is told of the chain, and the ready flag, are the same -/
structure Same (w w' : World) : Prop where
  block : w'.publisher.block = w.publisher.block
  overview : w'.publisher.overview = w.publisher.overview
  source : w'.publisher.source = w.publisher.source
  ready : w'.hub.ready = w.hub.ready

theorem Same.refl (w : World) : Same w w := ⟨rfl, rfl, rfl, rfl⟩

theorem Same.trans {w w' w'' : World} (h : Same w w') (h' : Same w' w'') : Same w w'' :=
  ⟨h'.block.trans h.block, h'.overview.trans h.overview, h'.source.trans h.source, h'.ready.trans h.ready⟩

theorem same_hub {w w' : World} {k : Hub} (hp : w'.publisher = { w.publisher with hub := k })
    (hk : k.ready = w.hub.ready) : Same w w' := by
  refine ⟨?_, ?_, ?_, ?_⟩
  · rw [hp]
  · rw [hp]
  · rw [hp]
  · rw [hub, hp, hk]

section

variable {w : World}

theorem same_setHub (hw : Wired w) (op : Hub.Op) (ho : ∀ ready, op ≠ .setReady ready) {k? : Option Hub}
    (hk : k?.getD w.hub = w.hub.apply op) : Same w ((k?.map w.setHub).getD w) := by
  have hready := Hub.ready_apply hw.sound ho
  rw [← hk] at hready
  cases k? with
  | none => exact .refl w
  | some k => exact same_hub rfl hready

/-- sessions leave the ready flag alone -/
theorem did_apart {s s' : Session} {h : Hub} {ops : List Hub.Op} (hd : s.Did h ops s') :
    ∀ op ∈ ops, ∀ ready, op ≠ .setReady ready := by
  rintro _ hop ready rfl
  rcases Session.did_personal hd _ hop with hregister | hclient
  · cases hregister
  · cases hclient

theorem same_session (hw : Wired w) {i : Nat} {step : Session → Publisher → Option (Publisher × Session)}
    (hstep : ∀ s p p' s', step s p = some (p', s') → s.DidWith p p' s') : Same w ((w.sessionStep i step).getD w) := by
  unfold sessionStep
  cases hs : w.sessions[i]? with
  | none => exact .refl w
  | some s =>
    cases hst : step s w.publisher with
    | none => simpa [hst] using Same.refl w
    | some ps =>
      obtain ⟨ops, hdid, hp⟩ := hstep s w.publisher ps.1 ps.2 hst
      simp only [hst, Option.map_some, Option.getD_some]
      exact same_hub hp (Trace.run_unchanged (f := Hub.ready) (P := Hub.Sound)
        (C := fun op => ∀ ready, op ≠ .setReady ready) (fun _ op hs => Hub.sound_apply hs op)
        (fun _ _ hs ho => Hub.ready_apply hs ho) hw.sound (did_apart hdid))

theorem same_act (hw : Wired w) (a : Actor) : Same w (w.move (.act a)) := by
  cases a with
  | producer task => exact same_setHub hw (.produce task w.now) (by simp) rfl
  | hub =>
    simp only [move, act]
    split_ifs
    · exact same_setHub hw (.turn w.now) (by simp) rfl
    · exact .refl w
  | ticker => exact same_setHub hw (.tick w.now) (by simp) rfl
  | heartbeat => exact same_setHub hw (.beat w.now) (by simp) rfl
  | connect i => exact same_session hw fun s p p' s' => Session.connectStep_did
  | receive i => exact same_session hw fun s p p' s' => Session.receiveStep_did
  | send i => exact same_session hw fun s p p' s' => Session.sendStep_did
  | close i =>
    have hmove : w.move (.act (.close i)) =
        (w.sessionStep i fun s p => (s.closeStep w.now).map fun s => (p, s)).getD w := rfl
    rw [hmove]
    refine same_session hw ?_
    intro s p p' s' hs
    obtain ⟨t, ht, he⟩ := Option.map_eq_some_iff.1 hs
    cases he
    exact ⟨[], Session.closeStep_did ht, rfl⟩

/-- **By itself the system changes neither what it tells of the chain nor the ready flag.** -/
theorem same_own (hw : Wired w) {moves : List Move} (hm : ∀ m ∈ moves, m.isOwn = true) : Same w (w.run moves) := by
  induction moves generalizing w with
  | nil => exact .refl w
  | cons m moves ih =>
    obtain ⟨hown, hrest⟩ := List.forall_mem_cons.1 hm
    have hone : Same w (w.move m) := by
      cases m with
      | act a => exact same_act hw a
      | wait ms => exact ⟨rfl, rfl, rfl, rfl⟩
      | ask c => cases hown
    exact hone.trans (ih (wired_move hw m) hrest)

end

/-! ## The wait for an outcome -/

section

variable {w w' : World} {task : Nat} {e : Event} {limit : Nat}

/-- what a task has to put in, and what it has in line, changes by its own moves only -/
theorem apart_move (hw : Wired w) {m : Move} (ho : m.origin ≠ .producer task) {p : Producer}
    (hp : w.hub.producers[task]? = some p) : (w.move m).hub.producers[task]? = some p ∧
      (w.move m).hub.relay.line (.producer task) = w.hub.relay.line (.producer task) := by
  have hprogress := progress w m
  unfold hub
  generalize stored w m = stores, (w.move m).publisher = k at hprogress
  cases hprogress with
  | quiet ops _ quiet =>
    have hstill := Hub.still_run w.hub quiet
    exact ⟨hstill.producers ▸ hp, congrArg (·.line (.producer task)) hstill.relay⟩
  | hub op origin => exact Hub.apart_apply hw.sound (origin ▸ ho) hp
  | @stored r =>
    have hother : (Hub.Op.publish (Publisher.blockEvents r)).origin ≠ .producer task := by simp [Hub.Op.origin]
    exact Hub.apart_apply hw.sound hother hp

/-- what a task tries to put in changes by its own moves only -/
theorem trying_move (hw : Wired w) {m : Move} (ho : m.origin ≠ .producer task) {line : List Offer}
    (ht : Trying task e line w.hub) : Trying task e line (w.move m).hub := by
  obtain ⟨hproducer, hline⟩ := apart_move hw ho ht.producer
  exact ⟨hproducer, hline.trans ht.line⟩

theorem told_move (hw : Wired w) (ht : Told task w.hub) (m : Move) : Told task (w.move m).hub := by
  obtain ⟨ops, hops⟩ := hub_move w m
  rw [hops]
  exact Hub.kept_run (fun k op hs hk => Hub.told_apply hs hk op) hw.sound ht ops

theorem config_move (hw : Wired w) (m : Move) : (w.move m).hub.config = w.hub.config := by
  obtain ⟨ops, hops⟩ := hub_move w m
  rw [hops]
  exact Hub.config_run hw.sound ops

/-- the task is told the outcome of its event, or has it in line, for some more time -/
def Waits (task : Nat) (e : Event) (limit : Nat) (w : World) : Prop :=
  Told task w.hub ∨ Trying task e [⟨.producer task, e, limit⟩] w.hub ∧ w.now < limit

/-- the task waits for the outcome of its event, or has yet to begin with it; where it is in line it may be at the end
of its time -/
def Hopes (task : Nat) (e : Event) (limit : Nat) (w : World) : Prop :=
  Told task w.hub ∨ Trying task e [⟨.producer task, e, limit⟩] w.hub ∨
    Trying task e [] w.hub ∧ limit = w.now + w.hub.config.publishTimeout

/-- the first attempt of a task puts its event in line, unless the outcome is known at once -/
theorem act_begin (ht : Trying task e [] w.hub) : ∃ v, w.act (.producer task) = some v ∧
    (Told task v.hub ∨ Trying task e [⟨.producer task, e, w.now + w.hub.config.publishTimeout⟩] v.hub) := by
  rcases Hub.trying_produce ht (Or.inl rfl) w.now with ⟨-, offer, hnone, -⟩ | ⟨k, hk, hnext⟩
  · cases hnone
  · exact ⟨w.setHub k, by simp [act, hk], hnext.imp_right And.right⟩

/-- a task that is in line waits, and not beyond its time, or is told the outcome -/
theorem act_go_on (ht : Trying task e [⟨.producer task, e, limit⟩] w.hub) :
    (w.act (.producer task) = none ∧ w.now < limit) ∨ ∃ v, w.act (.producer task) = some v ∧ Told task v.hub := by
  rcases Hub.trying_produce ht (Or.inr ⟨limit, rfl⟩) w.now with ⟨hnone, offer, hline, hlate⟩ | ⟨k, hk, hnext⟩
  · cases hline
    exact Or.inl ⟨by simp [act, hnone], hlate⟩
  · refine Or.inr ⟨w.setHub k, by simp [act, hk], ?_⟩
    rcases hnext with htold | ⟨hnone, -⟩
    · exact htold
    · cases hnone

/-- a move of another task -/
theorem act_apart {a : Actor} (hw : Wired w) (hne : a ≠ .producer task) (ha : w.act a = some w') {line : List Offer}
    (ht : Trying task e line w.hub) : Trying task e line w'.hub := by
  have hm := trying_move (m := .act a) hw ?_ ht
  · rwa [show w.move (.act a) = w' by simp [move, ha]] at hm
  · cases a with
    | producer other =>
      intro ho
      exact hne (congrArg Actor.producer (Origin.producer.inj ho))
    | _ => simp [Move.origin]

theorem wired_act {a : Actor} (hw : Wired w) (ha : w.act a = some w') : Wired w' := by
  have hm := wired_move hw (.act a)
  rwa [show w.move (.act a) = w' by simp [move, ha]] at hm

theorem told_act {a : Actor} (hw : Wired w) (ha : w.act a = some w') (ht : Told task w.hub) : Told task w'.hub := by
  have hm := told_move hw ht (.act a)
  rwa [show w.move (.act a) = w' by simp [move, ha]] at hm

/-- an event stays in line until its task is told the outcome -/
theorem inLine_act {a : Actor} (hw : Wired w) (ha : w.act a = some w')
    (ht : Trying task e [⟨.producer task, e, limit⟩] w.hub) :
    Told task w'.hub ∨ Trying task e [⟨.producer task, e, limit⟩] w'.hub := by
  by_cases hown : a = .producer task
  · subst hown
    rcases act_go_on ht with ⟨hnone, -⟩ | ⟨v, hv, htold⟩
    · simp [hnone] at ha
    · cases hv.symm.trans ha
      exact Or.inl htold
  · exact Or.inr (act_apart hw hown ha ht)

theorem waits_act {a : Actor} (hw : Wired w ∧ Waits task e limit w) (ha : w.act a = some w') :
    Wired w' ∧ Waits task e limit w' := by
  obtain ⟨hwired, hwaits⟩ := hw
  refine ⟨wired_act hwired ha, ?_⟩
  rcases hwaits with htold | ⟨htrying, hlate⟩
  · exact Or.inl (told_act hwired ha htold)
  · refine (inLine_act hwired ha htrying).imp_right fun hline => ⟨hline, ?_⟩
    rwa [now_act ha]

theorem hopes_act {a : Actor} (hw : Wired w ∧ Hopes task e limit w) (ha : w.act a = some w') :
    Wired w' ∧ Hopes task e limit w' := by
  obtain ⟨hwired, hhopes⟩ := hw
  refine ⟨wired_act hwired ha, ?_⟩
  rcases hhopes with htold | hline | ⟨htrying, hlimit⟩
  · exact Or.inl (told_act hwired ha htold)
  · exact (inLine_act hwired ha hline).imp_right Or.inl
  · by_cases hown : a = .producer task
    · subst hown
      obtain ⟨v, hv, hnext⟩ := act_begin htrying
      cases hv.symm.trans ha
      rw [← hlimit] at hnext
      exact hnext.imp_right Or.inl
    · have hconfig := config_move hwired (.act a)
      rw [show w.move (.act a) = w' by simp [move, ha]] at hconfig
      exact Or.inr (Or.inr ⟨act_apart hwired hown ha htrying, by rw [hconfig, now_act ha, hlimit]⟩)

/-- at its turn a task puts its event in line, or takes it out when its time is up -/
theorem turn_waits (hw : Wired w ∧ Hopes task e limit w) :
    Wired (Schedule.run (fun v => World.act v (.producer task)) Schedule.burst w).1 ∧
      Waits task e limit (Schedule.run (fun v => World.act v (.producer task)) Schedule.burst w).1 := by
  have hkept : ∀ v v' : World, Wired v ∧ Waits task e limit v → v.act (.producer task) = some v' →
      Wired v' ∧ Waits task e limit v' := fun v v' => waits_act
  have hmove : ∀ v : World, Wired v ∧ (Told task v.hub ∨ Trying task e [⟨.producer task, e, limit⟩] v.hub) →
      (Wired v ∧ Waits task e limit v) ∨
        ∃ v', v.act (.producer task) = some v' ∧ Wired v' ∧ Waits task e limit v' := by
    rintro v ⟨hwired, htold | hline⟩
    · exact Or.inl ⟨hwired, Or.inl htold⟩
    · rcases act_go_on hline with ⟨-, hlate⟩ | ⟨v', hv, htold⟩
      · exact Or.inl ⟨hwired, Or.inr ⟨hline, hlate⟩⟩
      · exact Or.inr ⟨v', hv, wired_act hwired hv, Or.inl htold⟩
  obtain ⟨hwired, htold | hline | ⟨htrying, hlimit⟩⟩ := hw
  · exact Schedule.run_reaches hkept hmove 127 ⟨hwired, Or.inl htold⟩
  · exact Schedule.run_reaches hkept hmove 127 ⟨hwired, Or.inr hline⟩
  · -- the first move puts the event in line, where its time may be up at once
    obtain ⟨v, hv, hnext⟩ := act_begin htrying
    rw [show Schedule.burst = 127 + 1 from rfl, Schedule.run_move hv]
    exact Schedule.run_reaches hkept hmove 126 ⟨wired_act hwired hv, hlimit ▸ hnext⟩

theorem settle_waits (hw : Wired w ∧ Hopes task e limit w) : Wired w.settle ∧ Waits task e limit w.settle := by
  have htask : task < w.hub.producers.length := by
    obtain ⟨-, ⟨outcome, hp⟩ | ht | ⟨ht, -⟩⟩ := hw
    · exact (List.getElem?_eq_some_iff.1 hp).1
    · exact (List.getElem?_eq_some_iff.1 ht.producer).1
    · exact (List.getElem?_eq_some_iff.1 ht.producer).1
  have hin : .producer task ∈ w.actors := by simp [actors, htask]
  exact settle_reaches (P := fun v => Wired v ∧ Hopes task e limit v) (Q := fun v => Wired v ∧ Waits task e limit v) hin
    (fun _ _ _ => hopes_act) (fun _ _ _ => waits_act) (fun _ => turn_waits) hw

theorem isPublished_of_told (ht : Told task w.hub) : w.isPublished task = true := by
  obtain ⟨outcome, hp⟩ := ht
  simp [isPublished, hp]

theorem not_isPublished {line : List Offer} (ht : Trying task e line w.hub) : w.isPublished task = false := by
  simp [isPublished, ht.producer]

/-- the time limit of an event in line is a timer -/
theorem deadline_of_trying (ht : Trying task e [⟨.producer task, e, limit⟩] w.hub) : limit ∈ timed.deadlines w := by
  have hoffer : (⟨.producer task, e, limit⟩ : Offer) ∈ w.hub.relay.line (.producer task) := by
    rw [ht.line]
    exact List.mem_singleton_self _
  have hdeadline : limit ∈ w.hub.relay.deadlines := List.mem_map_of_mem (List.mem_of_mem_filter hoffer)
  exact List.mem_append_left _ (List.mem_append_right _ hdeadline)

/-- **The wait for an event ends with its outcome.** The event is not in line beyond its time limit, and the clock does
not pass over that. -/
theorem advanceTo_told (timers : Nat) (hw : Wired w ∧ Hopes task e limit w) (hn : w.now ≤ limit)
    (ht : limit ≤ w.now + timers) :
    Told task (timed.advanceTo (fun v => v.isPublished task) limit (timers + 1) w).hub := by
  induction timers generalizing w with
  | zero =>
    obtain ⟨-, htold | ⟨-, hlate⟩⟩ := settle_waits hw
    · rw [Schedule.advanceTo_done (m := timed) (fun v => v.isPublished task) (isPublished_of_told htold)]
      exact htold
    · rw [now_settle] at hlate
      omega
  | succ n ih =>
    obtain ⟨hwired, htold | ⟨hline, hlate⟩⟩ := settle_waits hw
    · rw [Schedule.advanceTo_done (m := timed) (fun v => v.isPublished task) (isPublished_of_told htold)]
      exact htold
    · obtain ⟨next, hnext, (hlater : w.settle.now < next), hle⟩ :=
        Schedule.nextTimer_le (m := timed) (deadline_of_trying hline) hlate
      rw [Schedule.advanceTo_next (m := timed) (fun v => v.isPublished task) (not_isPublished hline) hnext hle]
      have hpassed : w.now < next := by
        rw [← now_settle w]
        exact hlater
      have hset : Wired { w.settle with now := next } := ⟨hwired.sound, hwired.known, hwired.distinct, hwired.asked⟩
      refine ih (w := { w.settle with now := next }) ⟨hset, Or.inr (Or.inl hline)⟩ hle ?_
      show limit ≤ next + n
      omega

/-! ## What is published -/

/-- a system that has published an event, from a new background task, and knows what became of it -/
structure Delivered (w : World) (e : Event) (outcome : Outcome) (own : List Move) (w' : World) : Prop where
  /-- nothing else was done from outside -/
  unattended : ∀ m ∈ own, m.isOwn = true
  run : w' = w.run (.ask (.publishAll [e]) :: own)
  /-- nothing of it is left in line -/
  line : w'.hub.relay.line (.producer w.hub.producers.length) = []
  /-- if it was accepted it has entered the relay, once and for all; else it never does, whatever happens later -/
  entered : ∀ more, w.record (entering w.hub.producers.length) (.ask (.publishAll [e]) :: own ++ more) =
    if outcome = .accepted then [e] else []

theorem publish_fst (w : World) (e : Event) : (w.publish e).1 =
    timed.advanceUntil (fun v => v.isPublished w.hub.producers.length) w.hub.config.publishTimeout (w.offered e) := by
  simp only [publish, offered, Hub.publish, setHub, hub]

theorem publish_snd (w : World) (e : Event) : (w.publish e).2 =
    ((((w.publish e).1.hub.producers[w.hub.producers.length]?).bind (·.outcomes.head?)).getD .timedOut).result e := by
  simp only [publish, Hub.publish, setHub, hub]

/-- the wait for an event that was just offered ends with its outcome -/
theorem told_publish (hw : Wired w) (hn : w.hub.relay.line (.producer w.hub.producers.length) = []) (e : Event) :
    Told w.hub.producers.length (w.publish e).1.hub := by
  have hunderway := Hub.underway_publish hn [e]
  have hwired : Wired (w.offered e) := wired_move hw (.ask (.publishAll [e]))
  have hopes : Hopes w.hub.producers.length e (w.now + w.hub.config.publishTimeout) (w.offered e) :=
    Or.inr (Or.inr ⟨⟨hunderway.producer, hn⟩, rfl⟩)
  rw [publish_fst]
  exact advanceTo_told w.hub.config.publishTimeout ⟨hwired, hopes⟩ (Nat.le_add_right _ _) (Nat.le_refl _)

/-- **An event that is published enters the relay once if it is said to be accepted, and never if it is not.** -/
theorem publish_delivers (hw : Wired w) (hn : w.hub.relay.line (.producer w.hub.producers.length) = []) (e : Event) :
    ∃ outcome own, (w.publish e).2 = outcome.result e ∧ Delivered w e outcome own (w.publish e).1 := by
  obtain ⟨outcome, hp⟩ := told_publish hw hn e
  obtain ⟨own, hown, hrun⟩ := becomes_advanceUntil (w.offered e) (fun v => v.isPublished w.hub.producers.length)
    w.hub.config.publishTimeout
  rw [← publish_fst] at hrun
  have hwired : Wired (w.offered e) := wired_move hw (.ask (.publishAll [e]))
  -- the task has gone on to the outcome of its event, and goes on no further
  obtain ⟨after, -, hunderway, hentered⟩ := goesOn_run hwired (Hub.underway_publish hn [e]) own
  have hafter : after = [outcome] := by
    have hboth := hunderway.producer.symm.trans (hrun ▸ hp)
    exact (Producer.mk.inj (Option.some.inj hboth)).2
  subst hafter
  refine ⟨outcome, own, ?_, hown, hrun, ?_, ?_⟩
  · rw [publish_snd, hp]
    rfl
  · rw [hrun]
    rcases hunderway.line with hline | ⟨e', d, hnext, -⟩
    · exact hline
    · cases hnext
  · intro more
    have hlater := (goesOn_run (wired_run hwired own) hunderway more).eq_nil rfl
    calc w.record (entering w.hub.producers.length) (.ask (.publishAll [e]) :: own ++ more)
        = (w.offered e).record (entering w.hub.producers.length) (own ++ more) := rfl
      _ = (w.offered e).record (entering w.hub.producers.length) own := by
          rw [record_append, hlater, List.append_nil]
      _ = putIn [e] [outcome] := hentered.symm
      _ = if outcome = .accepted then [e] else [] := by cases outcome <;> rfl

end

end World

end ChainFeed
