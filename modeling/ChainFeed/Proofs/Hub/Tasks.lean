/-
How far a background task is with the events that it was given to publish.

A task offers its events one after the other. The outcomes of those behind it tell how far it is; of the others at most
the next one is in line for the relay.

- `Relay.attempted`: what one attempt to put an event in comes to.
- `line_apply`: what an origin has in line changes by its own moves only.
- `Underway`, `underway_apply`: after every operation the task has told the outcome of an event for each that is behind
  it, and those that entered the relay are the accepted ones, in order.
-/
import ChainFeed.Proofs.Hub.Trail

namespace ChainFeed

/-! ## Offers in line -/

namespace Relay

variable {r r' : Relay} {o o' : Origin} {e : Event} {now patience : Nat} {outcome : Option Outcome}

/-- the offers of an origin that are in line -/
def line (r : Relay) (o : Origin) : List Offer :=
  r.waiting.filter fun x => x.origin = o

theorem line_congr (hw : r'.waiting = r.waiting) : r'.line o = r.line o := by
  unfold line
  rw [hw]

theorem offer?_eq_head? (r : Relay) (o : Origin) : r.offer? o = (r.line o).head? := by
  rw [line, List.head?_filter]
  rfl

@[simp] theorem line_withdraw (r : Relay) (o : Origin) : (r.withdraw o).line o = [] := by
  simp [line, withdraw, List.filter_filter]

theorem line_withdraw_of_ne (hne : o' ≠ o) (r : Relay) : (r.withdraw o').line o = r.line o := by
  simp only [line, withdraw, List.filter_filter]
  refine List.filter_congr ?_
  intro x _
  by_cases hx : x.origin = o
  · simp [hx, Ne.symm hne]
  · simp [hx]

/-- what an attempt to put an event in, with a time limit for waiting, comes to -/
inductive Attempted (r : Relay) (o : Origin) (e : Event) (limit : Nat) : Relay → Option Outcome → Prop
  | lined {r' : Relay} (free : r.line o = []) (line : r'.line o = [⟨o, e, limit⟩]) (queue : r'.queue = r.queue) :
      Attempted r o e limit r' none
  | entered {r' : Relay} (line : r'.line o = []) (queue : r'.queue = r.queue ++ [e]) :
      Attempted r o e limit r' (some .accepted)
  | failed {r' : Relay} {outcome : Outcome} (other : outcome ≠ .accepted) (line : r'.line o = [])
      (queue : r'.queue = r.queue) : Attempted r o e limit r' (some outcome)

/-- **What an attempt comes to**, for an origin that has nothing but this event in line. -/
theorem attempted (hl : r.line o = [] ∨ ∃ d, r.line o = [⟨o, e, d⟩])
    (hr : r.attempt o e now patience = some (r', outcome)) : r.Attempted o e (now + patience) r' outcome := by
  unfold attempt at hr
  rw [offer?_eq_head?] at hr
  by_cases hclosed : (!r.receiving) = true
  · rw [if_pos hclosed] at hr
    cases hr
    exact .failed (by simp) (line_withdraw r o) rfl
  rw [if_neg hclosed] at hr
  rcases hl with hfree | ⟨d, hline⟩
  · simp only [hfree, List.head?_nil] at hr
    split_ifs at hr <;> cases hr
    · exact .entered hfree rfl
    · refine .lined hfree ?_ rfl
      have hnone : r.waiting.filter (fun x => x.origin = o) = [] := hfree
      simp [line, hnone]
  · simp only [hline, List.head?_cons] at hr
    split_ifs at hr <;> cases hr
    · exact .entered (line_withdraw r o) rfl
    · exact .failed (by simp) (line_withdraw r o) rfl

/-- an origin whose attempt changes nothing waits in line, and not beyond its time -/
theorem attempt_eq_none (hr : r.attempt o e now patience = none) :
    ∃ offer, (r.line o).head? = some offer ∧ now < offer.deadline := by
  unfold attempt at hr
  rw [offer?_eq_head?] at hr
  by_cases hclosed : (!r.receiving) = true
  · rw [if_pos hclosed] at hr
    cases hr
  rw [if_neg hclosed] at hr
  cases ho : (r.line o).head? with
  | none =>
    simp only [ho] at hr
    split_ifs at hr
  | some offer =>
    simp only [ho] at hr
    split_ifs at hr with _ hlate
    exact ⟨offer, rfl, Nat.lt_of_not_le hlate⟩

theorem line_attempt_of_ne (hne : o' ≠ o) (hr : r.attempt o' e now patience = some (r', outcome)) :
    r'.line o = r.line o := by
  unfold attempt at hr
  by_cases hclosed : (!r.receiving) = true
  · rw [if_pos hclosed] at hr
    cases hr
    exact line_withdraw_of_ne hne r
  rw [if_neg hclosed] at hr
  cases ho : r.offer? o' with
  | none =>
    simp only [ho] at hr
    split_ifs at hr <;> cases hr
    · rfl
    · simp [line, hne]
  | some offer =>
    simp only [ho] at hr
    split_ifs at hr <;> cases hr <;> exact line_withdraw_of_ne hne r

end Relay

theorem Heartbeat.line_step {b b' : Heartbeat} {r r' : Relay} {o : Origin} {now : Nat} {held shutdown : Bool}
    (hne : .heartbeat ≠ o) (hb : b.step r now held shutdown = some (b', r')) : r'.line o = r.line o := by
  have hbeat : ∀ {b b' : Heartbeat}, b.beat r now = some (b', r') → r'.line o = r.line o := by
    intro b b' hb
    unfold beat at hb
    split at hb <;> cases hb <;> exact Relay.line_attempt_of_ne hne ‹_›
  unfold step at hb
  split_ifs at hb
  · cases hb
    exact Relay.line_withdraw_of_ne hne r
  · exact hbeat hb
  · exact hbeat hb
  · cases hb
    rfl

namespace Hub

variable {h k : Hub} {task : Nat} {events : List Event} {outcomes : List Outcome}

theorem Op.eq_produce {op : Op} (ho : op.origin = .producer task) : ∃ now, op = .produce task now := by
  cases op with
  | produce other now =>
    cases ho
    exact ⟨now, rfl⟩
  | _ => cases ho

/-- **What an origin has in line changes by its own moves only.** -/
theorem line_apply {o : Origin} (hs : Sound h) {op : Op} (ho : op.origin ≠ o) :
    (h.apply op).relay.line o = h.relay.line o := by
  cases hq : op.isQuiet with
  | true => rw [(still_apply h hq).relay]
  | false =>
    cases op with
    | publish events => rfl
    | produce other now =>
      simp only [apply, producerStep]
      split
      · rfl
      · split
        · rfl
        · split
          · rfl
          · exact Relay.line_attempt_of_ne ho ‹_›
          · exact Relay.line_attempt_of_ne ho ‹_›
    | turn now => exact Relay.line_congr (relay_turn hs now).1
    | tick now =>
      simp only [apply, tickerStep]
      cases h.ticker.step now <;> rfl
    | beat now =>
      simp only [apply, heartbeatStep]
      cases hb : h.heartbeat.step h.relay now h.isHeld h.shutdown with
      | none => rfl
      | some p => exact Heartbeat.line_step ho hb
    | _ => cases hq

/-- what a background task has to put in, and what it has in line, changes by its own moves only -/
theorem apart_apply (hs : Sound h) {op : Op} (ho : op.origin ≠ .producer task) {p : Producer}
    (hp : h.producers[task]? = some p) : (h.apply op).producers[task]? = some p ∧
      (h.apply op).relay.line (.producer task) = h.relay.line (.producer task) := by
  refine ⟨producer_apply hs hp ?_, line_apply hs ho⟩
  rintro now rfl
  exact ho rfl

/-! ## Tasks on their way -/

/-- the events that were accepted, of those whose outcome is known -/
def putIn (events : List Event) (outcomes : List Outcome) : List Event :=
  ((events.zip outcomes).filter fun x => x.2 = .accepted).map (·.1)

/-- the events of a background task that enter the relay in an operation -/
def entering (task : Nat) (h : Hub) (op : Op) : List Event :=
  if op.origin = .producer task then (h.apply op).relay.queue.drop h.relay.queue.length else []

/-- a background task that was given `events` has come so far that these are the outcomes of the first of them; of the
others at most the next one is in line -/
structure Underway (task : Nat) (events : List Event) (outcomes : List Outcome) (h : Hub) : Prop where
  producer : h.producers[task]? = some ⟨events.drop outcomes.length, outcomes⟩
  behind : outcomes.length ≤ events.length
  line : h.relay.line (.producer task) = [] ∨
    ∃ e d, events[outcomes.length]? = some e ∧ h.relay.line (.producer task) = [⟨.producer task, e, d⟩]

/-- what a step makes of a background task: it goes on, and the events that are now behind it and accepted are those
that have entered the relay -/
def GoesOn (task : Nat) (events : List Event) (outcomes : List Outcome) (entered : List Event) (k : Hub) : Prop :=
  ∃ after, outcomes <+: after ∧ Underway task events after k ∧ putIn events after = putIn events outcomes ++ entered

theorem putIn_cons (e : Event) (events : List Event) (outcome : Outcome) (outcomes : List Outcome) :
    putIn (e :: events) (outcome :: outcomes) =
      (if outcome = .accepted then [e] else []) ++ putIn events outcomes := by
  simp only [putIn, List.zip_cons_cons, List.filter_cons]
  split_ifs <;> simp_all

/-- the events that are put in after some of the outcomes are those that follow theirs -/
theorem putIn_append (events : List Event) (a b : List Outcome) :
    putIn events (a ++ b) = putIn events a ++ putIn (events.drop a.length) b := by
  induction a generalizing events with
  | nil => simp [putIn]
  | cons outcome a ih =>
    rcases events with _ | ⟨e, events⟩
    · simp [putIn]
    · rw [List.cons_append, putIn_cons, putIn_cons, ih, List.append_assoc]
      rfl

theorem putIn_concat {e : Event} (he : events[outcomes.length]? = some e) (outcome : Outcome) :
    putIn events (outcomes ++ [outcome]) = putIn events outcomes ++ if outcome = .accepted then [e] else [] := by
  obtain ⟨hlt, rfl⟩ := List.getElem?_eq_some_iff.1 he
  rw [putIn_append, List.drop_eq_getElem_cons hlt, putIn_cons]
  simp [putIn]

/-- the accepted ones keep their order, and none is there twice -/
theorem putIn_sublist (events : List Event) (outcomes : List Outcome) : (putIn events outcomes).Sublist events := by
  induction events generalizing outcomes with
  | nil => simp [putIn]
  | cons e events ih =>
    rcases outcomes with _ | ⟨outcome, outcomes⟩
    · simp [putIn]
    · rw [putIn_cons]
      split_ifs
      · exact (ih outcomes).cons_cons e
      · exact (ih outcomes).cons e

/-- if all outcomes are favourable, no event is missing -/
theorem putIn_accepted (events : List Event) (ho : ∀ outcome ∈ outcomes, outcome = .accepted) :
    putIn events outcomes = events.take outcomes.length := by
  induction outcomes generalizing events with
  | nil => simp [putIn]
  | cons outcome outcomes ih =>
    obtain ⟨rfl, hrest⟩ := List.forall_mem_cons.1 ho
    rcases events with _ | ⟨e, events⟩
    · simp [putIn]
    · rw [putIn_cons, ih events hrest]
      rfl

theorem Underway.goesOn (hu : Underway task events outcomes h) (producers : k.producers = h.producers)
    (relay : k.relay = h.relay) : GoesOn task events outcomes [] k :=
  ⟨outcomes, List.prefix_refl _, ⟨producers ▸ hu.producer, hu.behind, relay ▸ hu.line⟩, (List.append_nil _).symm⟩

/-- the background tasks after one of them has made an attempt to put an event in: it goes on to the `rest` of them once
it is told an outcome -/
def told (h : Hub) (task : Nat) (rest : List Event) (outcomes : List Outcome) : Option Outcome → List Producer
  | none => h.producers
  | some outcome => h.producers.set task ⟨rest, outcomes ++ [outcome]⟩

/-- a move of a background task that has events left is an attempt to put the next one in -/
theorem producerStep_next {e : Event} {rest : List Event} (hp : h.producers[task]? = some ⟨e :: rest, outcomes⟩)
    (now : Nat) : h.producerStep task now =
      (h.relay.attempt (.producer task) e now h.config.publishTimeout).map fun x =>
        { h with relay := x.1, producers := h.told task rest outcomes x.2 } := by
  simp only [producerStep, hp]
  cases h.relay.attempt (.producer task) e now h.config.publishTimeout with
  | none => rfl
  | some x =>
    obtain ⟨relay, outcome⟩ := x
    cases outcome <;> rfl

/-- the task has made an attempt to put its next event in -/
theorem Underway.attempted {e : Event} {rest : List Event} {limit : Nat} {r' : Relay} {outcome : Option Outcome}
    (hu : Underway task events outcomes h) (he : events.drop outcomes.length = e :: rest)
    (ha : h.relay.Attempted (.producer task) e limit r' outcome) (relay : k.relay = r')
    (producers : k.producers = h.told task rest outcomes outcome) :
    GoesOn task events outcomes (k.relay.queue.drop h.relay.queue.length) k := by
  subst relay
  have hnext : events[outcomes.length]? = some e := by
    rw [← List.head?_drop, he]
    rfl
  have hlt := (List.getElem?_eq_some_iff.1 hnext).1
  have htask := (List.getElem?_eq_some_iff.1 hu.producer).1
  have hrest : rest = events.drop (outcomes.length + 1) := by
    rw [← List.drop_drop, he]
    rfl
  -- an event whose outcome is known is behind the task, which has nothing in line then
  have hdecided : ∀ outcome, k.producers = h.producers.set task ⟨rest, outcomes ++ [outcome]⟩ →
      k.relay.line (.producer task) = [] → Underway task events (outcomes ++ [outcome]) k := by
    intro outcome hproducers hline
    refine ⟨?_, ?_, Or.inl hline⟩
    · rw [hproducers, List.getElem?_set_self htask, hrest, List.length_append]
      rfl
    · rw [List.length_append]
      exact hlt
  cases ha with
  | lined free line queue =>
    rw [queue, List.drop_length]
    exact ⟨outcomes, List.prefix_refl _, ⟨producers ▸ hu.producer, hu.behind, Or.inr ⟨e, limit, hnext, line⟩⟩,
      (List.append_nil _).symm⟩
  | entered line queue =>
    rw [queue, List.drop_left]
    exact ⟨_, List.prefix_append _ _, hdecided _ producers line, putIn_concat hnext .accepted⟩
  | failed other line queue =>
    rw [queue, List.drop_length]
    refine ⟨_, List.prefix_append _ _, hdecided _ producers line, ?_⟩
    rw [putIn_concat hnext, if_neg other]

theorem underway_produce (hu : Underway task events outcomes h) (now : Nat) :
    GoesOn task events outcomes (h.entering task (.produce task now)) (h.apply (.produce task now)) := by
  have hwait : GoesOn task events outcomes (h.relay.queue.drop h.relay.queue.length) h := by
    rw [List.drop_length]
    exact hu.goesOn rfl rfl
  rw [entering, if_pos (show (Op.produce task now).origin = .producer task from rfl)]
  cases he : events.drop outcomes.length with
  | nil =>
    have hdone : h.producerStep task now = none := by simp [producerStep, hu.producer, he]
    simp only [apply, hdone]
    exact hwait
  | cons e rest =>
    have hline : h.relay.line (.producer task) = [] ∨
        ∃ d, h.relay.line (.producer task) = [⟨.producer task, e, d⟩] := by
      refine hu.line.imp_right ?_
      rintro ⟨e', d, hnext, hline⟩
      rw [← List.head?_drop, he] at hnext
      cases hnext
      exact ⟨d, hline⟩
    simp only [apply, producerStep_next (he ▸ hu.producer) now]
    cases ha : h.relay.attempt (.producer task) e now h.config.publishTimeout with
    | none => exact hwait
    | some x => exact hu.attempted he (Relay.attempted hline ha) rfl rfl

/-- **A background task goes on in every operation.** -/
theorem underway_apply (hs : Sound h) (hu : Underway task events outcomes h) (op : Op) :
    GoesOn task events outcomes (h.entering task op) (h.apply op) := by
  by_cases ho : op.origin = .producer task
  · obtain ⟨now, rfl⟩ := Op.eq_produce ho
    exact underway_produce hu now
  · obtain ⟨hproducer, hline⟩ := apart_apply hs ho hu.producer
    rw [entering, if_neg ho]
    exact ⟨outcomes, List.prefix_refl _, ⟨hproducer, hu.behind, hline.symm ▸ hu.line⟩, (List.append_nil _).symm⟩

/-- a task that was just started -/
theorem underway_publish (hn : h.relay.line (.producer h.producers.length) = []) (events : List Event) :
    Underway h.producers.length events [] (h.publish events).1 :=
  ⟨by simp [publish], Nat.zero_le _, Or.inl hn⟩

/-- a task that has not been started yet has nothing in line -/
theorem Trail.Fits.line_new {t : Trail} (hf : t.Fits h) : h.relay.line (.producer h.producers.length) = [] := by
  refine List.filter_eq_nil_iff.2 ?_
  intro x hx ho
  have horigin : x.origin = .producer h.producers.length := of_decide_eq_true ho
  have hpublished := hf.offers x hx
  rw [horigin] at hpublished
  exact absurd hpublished.lt (by rw [hf.tasks]; exact Nat.lt_irrefl _)

/-! ## One event and its time limit -/

/-- the outcome of the one event of a background task is known -/
def Told (task : Nat) (h : Hub) : Prop :=
  ∃ outcome, h.producers[task]? = some ⟨[], [outcome]⟩

/-- the one event of a background task is still to be put in, and this is what the task has in line -/
structure Trying (task : Nat) (e : Event) (line : List Offer) (h : Hub) : Prop where
  producer : h.producers[task]? = some ⟨[e], []⟩
  line : h.relay.line (.producer task) = line

variable {e : Event} {line : List Offer}

theorem told_apply (hs : Sound h) (ht : Told task h) (op : Op) : Told task (h.apply op) := by
  obtain ⟨outcome, hp⟩ := ht
  refine ⟨outcome, ?_⟩
  by_cases ho : op.origin = .producer task
  · obtain ⟨now, rfl⟩ := Op.eq_produce ho
    have hdone : h.producerStep task now = none := by simp [producerStep, hp]
    simp only [apply, hdone]
    exact hp
  · refine producer_apply hs hp ?_
    rintro now rfl
    exact ho rfl

/-- **A task waits with its event until its time is up at most.** Its first attempt puts the event in line, where it is
given a time limit, unless the outcome is known at once. -/
theorem trying_produce (ht : Trying task e line h) (hl : line = [] ∨ ∃ d, line = [⟨.producer task, e, d⟩]) (now : Nat) :
    (h.producerStep task now = none ∧ ∃ offer, line = [offer] ∧ now < offer.deadline) ∨
      ∃ k, h.producerStep task now = some k ∧ (Told task k ∨
        line = [] ∧ Trying task e [⟨.producer task, e, now + h.config.publishTimeout⟩] k) := by
  have htask := (List.getElem?_eq_some_iff.1 ht.producer).1
  rw [producerStep_next ht.producer now]
  cases ha : h.relay.attempt (.producer task) e now h.config.publishTimeout with
  | none =>
    obtain ⟨offer, hoffer, hlate⟩ := Relay.attempt_eq_none ha
    rw [ht.line] at hoffer
    rcases hl with rfl | ⟨d, rfl⟩ <;> cases hoffer
    exact Or.inl ⟨rfl, _, rfl, hlate⟩
  | some x =>
    obtain ⟨r', outcome⟩ := x
    have htold : ∀ (outcome : Outcome) (k : Hub),
        k.producers = h.producers.set task ⟨[], ([] : List Outcome) ++ [outcome]⟩ → Told task k := by
      intro outcome k hk
      exact ⟨outcome, by rw [hk, List.getElem?_set_self htask]; rfl⟩
    refine Or.inr ⟨_, rfl, ?_⟩
    cases Relay.attempted (ht.line ▸ hl) ha with
    | lined free line => exact Or.inr ⟨ht.line.symm.trans free, ht.producer, line⟩
    | entered => exact Or.inl (htold _ _ rfl)
    | failed => exact Or.inl (htold _ _ rfl)

end Hub

end ChainFeed
