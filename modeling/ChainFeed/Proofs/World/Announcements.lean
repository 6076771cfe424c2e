/-
The signals of one stored block, from the background task that was started for it into the relay.

The task offers its events one after the other. It shares the relay with other tasks and with the heartbeat, so an event
may go in at once, wait in line and go in later, or be given up; in any case the next one is offered after it.

- `Relay.attempt_givesUp`: an origin gives an event up for a reason of its own.
- `tried_produce`: what a move of a task with its next event comes to.
- `announcing_run`: after every list of moves each event that is missing was given up at a move of the task.
- `storeBlock_announced`: the events that enter the relay are the accepted ones, in order and once each.
-/
import ChainFeed.Proofs.World.Blocks
import ChainFeed.Proofs.World.Publishing

namespace ChainFeed

/-! ## Events that are given up -/

/-- why an origin gives its event up -/
inductive Relay.GivesUp (r : Relay) (o : Origin) (now : Nat) : Outcome → Prop
  /-- its time in line is over, and there is still no place for it -/
  | timedOut {offer : Offer} (line : (r.line o).head? = some offer) (late : offer.deadline ≤ now)
      (full : r.hasPlace o = false) : GivesUp r o now .timedOut
  /-- the hub takes no more events -/
  | refused (closed : r.receiving = false) : GivesUp r o now .refused

/-- **An origin gives an event up for a reason of its own.** -/
theorem Relay.attempt_givesUp {r r' : Relay} {o : Origin} {e : Event} {now patience : Nat} {outcome : Outcome}
    (hr : r.attempt o e now patience = some (r', some outcome)) (ho : outcome ≠ .accepted) :
    r.GivesUp o now outcome := by
  unfold attempt at hr
  rw [offer?_eq_head?] at hr
  by_cases hclosed : r.receiving = false
  · rw [if_pos (by simp [hclosed])] at hr
    cases hr
    exact .refused hclosed
  rw [if_neg (by simpa using hclosed)] at hr
  cases hoffer : (r.line o).head? with
  | none =>
    simp only [hoffer] at hr
    split_ifs at hr <;> cases hr
    exact absurd rfl ho
  | some offer =>
    simp only [hoffer] at hr
    split_ifs at hr with hplace hlate <;> cases hr
    · exact absurd rfl ho
    · exact .timedOut hoffer hlate (by simpa using hplace)

namespace Hub

variable {h k : Hub} {task now : Nat} {events : List Event} {outcomes known : List Outcome} {e : Event}

/-- a background task has `e` to put in next, knows the outcomes of the events before it, and has this in line -/
structure Facing (task : Nat) (e : Event) (known : List Outcome) (line : List Offer) (h : Hub) : Prop where
  producer : ∃ rest, h.producers[task]? = some ⟨e :: rest, known⟩
  line : h.relay.line (.producer task) = line

theorem Underway.facing (hu : Underway task events outcomes h) (he : events[outcomes.length]? = some e) :
    Facing task e outcomes (h.relay.line (.producer task)) h := by
  obtain ⟨hlt, rfl⟩ := List.getElem?_eq_some_iff.1 he
  exact ⟨⟨events.drop (outcomes.length + 1), by rw [hu.producer, List.drop_eq_getElem_cons hlt]⟩, rfl⟩

/-- the outcomes that are known tell how far a task is -/
theorem Underway.outcomes_eq (hu : Underway task events outcomes h) {p : Producer}
    (hp : h.producers[task]? = some p) : outcomes = p.outcomes := by
  have hboth := hu.producer.symm.trans hp
  rw [← Option.some.inj hboth]

/-- what a move of a background task comes to, and the outcomes that are known after it -/
inductive Tried (task : Nat) (events : List Event) (outcomes : List Outcome) (now : Nat) (h k : Hub) :
    List Outcome → Prop
  /-- it has nothing to do, or waits -/
  | waits (line : k.relay.line (.producer task) = h.relay.line (.producer task)) :
      Tried task events outcomes now h k outcomes
  /-- its next event gets in line, with a time limit -/
  | lined {e : Event} (next : events[outcomes.length]? = some e) (free : h.relay.line (.producer task) = [])
      (line : k.relay.line (.producer task) = [⟨.producer task, e, now + h.config.publishTimeout⟩]) :
      Tried task events outcomes now h k outcomes
  /-- it is told what became of its next event -/
  | told {e : Event} {outcome : Outcome} (next : events[outcomes.length]? = some e)
      (free : k.relay.line (.producer task) = [])
      (reason : outcome ≠ .accepted → h.relay.GivesUp (.producer task) now outcome) :
      Tried task events outcomes now h k (outcomes ++ [outcome])

/-- **What a move of a background task with its next event comes to.** -/
theorem tried_produce (hu : Underway task events outcomes h) (now : Nat) :
    ∃ after, Underway task events after (h.apply (.produce task now)) ∧
      putIn events after = putIn events outcomes ++ h.entering task (.produce task now) ∧
      Tried task events outcomes now h (h.apply (.produce task now)) after := by
  obtain ⟨after, -, hunderway, hentered⟩ := underway_produce hu now
  refine ⟨after, hunderway, hentered, ?_⟩
  have htask := (List.getElem?_eq_some_iff.1 hu.producer).1
  -- a task that learns nothing new knows what it knew
  have hsame : h.producerStep task now = none →
      Tried task events outcomes now h (h.apply (.produce task now)) after := by
    intro hnone
    have hk : h.apply (.produce task now) = h := by simp [apply, hnone]
    rw [hk] at hunderway ⊢
    rw [hunderway.outcomes_eq hu.producer]
    exact .waits rfl
  rcases hrest : events.drop outcomes.length with _ | ⟨e, rest⟩
  · exact hsame (by simp [producerStep, hu.producer, hrest])
  have hnext : events[outcomes.length]? = some e := by
    rw [← List.head?_drop, hrest]
    rfl
  have hstep := producerStep_next (hrest ▸ hu.producer) now
  rcases hattempt : h.relay.attempt (.producer task) e now h.config.publishTimeout with _ | ⟨r', outcome⟩
  · exact hsame (by rw [hstep, hattempt]; rfl)
  have hk : h.apply (.produce task now) = { h with relay := r', producers := h.told task rest outcomes outcome } := by
    simp [apply, hstep, hattempt]
  have hline : h.relay.line (.producer task) = [] ∨
      ∃ d, h.relay.line (.producer task) = [⟨.producer task, e, d⟩] := by
    refine hu.line.imp_right ?_
    rintro ⟨e', d, he', hline⟩
    cases hnext.symm.trans he'
    exact ⟨d, hline⟩
  rw [hk] at hunderway ⊢
  rcases outcome with _ | outcome
  · rw [hunderway.outcomes_eq (p := ⟨e :: rest, outcomes⟩) (hrest ▸ hu.producer)]
    rcases Relay.attempted hline hattempt with ⟨free, line, -⟩
    exact .lined hnext free line
  · have hafter : after = outcomes ++ [outcome] :=
      hunderway.outcomes_eq (p := ⟨rest, outcomes ++ [outcome]⟩) (List.getElem?_set_self htask)
    have hfree : r'.line (.producer task) = [] := by
      rcases Relay.attempted hline hattempt with _ | hfree | ⟨-, hfree, -⟩
      · exact hfree
      · exact hfree
    rw [hafter]
    exact .told hnext hfree (Relay.attempt_givesUp hattempt)

end Hub

theorem Move.eq_produce {m : Move} {task : Nat} (hm : m.origin = .producer task) : m = .act (.producer task) := by
  rcases m with (_ | _) | _ | _ <;> cases hm
  rfl

namespace World

open Hub (Underway Facing Tried putIn)

variable {w : World} {task : Nat} {events : List Event} {outcomes known : List Outcome} {e : Event} {moves : List Move}

/-! ## One move -/

theorem hub_produce (w : World) (task : Nat) :
    (w.move (.act (.producer task))).hub = w.hub.apply (.produce task w.now) := by
  simp only [move, act, Hub.apply]
  cases w.hub.producerStep task w.now <;> rfl

/-- **What a move comes to for a background task.** -/
theorem tried_move (hw : Wired w) (hu : Underway task events outcomes w.hub) (m : Move) :
    ∃ after, Underway task events after (w.move m).hub ∧
      putIn events after = putIn events outcomes ++ w.entering task m ∧
      (m = .act (.producer task) ∧ Tried task events outcomes w.now w.hub (w.move m).hub after ∨
        after = outcomes ∧ (w.move m).hub.relay.line (.producer task) = w.hub.relay.line (.producer task)) := by
  by_cases ho : m.origin = .producer task
  · obtain rfl := Move.eq_produce ho
    obtain ⟨after, hunderway, hentered, htried⟩ := Hub.tried_produce hu w.now
    rw [← hub_produce] at hunderway htried
    refine ⟨after, hunderway, ?_, Or.inl ⟨rfl, htried⟩⟩
    have hown : (Hub.Op.produce task w.now).origin = .producer task := rfl
    rw [hentered, entering, if_pos ho, Hub.entering, if_pos hown, hub_produce]
  · obtain ⟨hproducer, hline⟩ := apart_move hw ho hu.producer
    refine ⟨outcomes, ⟨hproducer, hu.behind, hline.symm ▸ hu.line⟩, ?_, Or.inr ⟨rfl, hline⟩⟩
    rw [entering, if_neg ho, List.append_nil]

/-! ## Every run -/

/-- why an event of a background task is missing: what became of it at a move of the task in the course of `moves`,
when it was next and the outcomes of those before it were known -/
inductive Missing (w : World) (task : Nat) (e : Event) (known : List Outcome) (moves : List Move) : Outcome → Prop
  /-- it had been in line for as long as a publication waits, and there was still no place for it -/
  | timedOut {start wait rest : List Move} {limit : Nat}
      (course : moves = (start ++ .act (.producer task) :: wait) ++ .act (.producer task) :: rest)
      (offered : Facing task e known [] (w.run start).hub)
      (within : limit = (w.run start).now + w.hub.config.publishTimeout)
      (waited : Facing task e known [⟨.producer task, e, limit⟩] (w.run (start ++ .act (.producer task) :: wait)).hub)
      (late : limit ≤ (w.run (start ++ .act (.producer task) :: wait)).now)
      (full : (w.run (start ++ .act (.producer task) :: wait)).hub.relay.hasPlace (.producer task) = false) :
      Missing w task e known moves .timedOut
  /-- the hub took no more events -/
  | refused {start rest : List Move} {line : List Offer} (course : moves = start ++ .act (.producer task) :: rest)
      (facing : Facing task e known line (w.run start).hub)
      (closed : (w.run start).hub.relay.receiving = false) : Missing w task e known moves .refused

theorem Missing.mono {outcome : Outcome} (hm : w.Missing task e known moves outcome) (more : List Move) :
    w.Missing task e known (moves ++ more) outcome := by
  rcases hm with ⟨course, offered, within, waited, late, full⟩ | ⟨course, facing, closed⟩
  · exact .timedOut (by rw [course, List.append_assoc, List.cons_append]) offered within waited late full
  · exact .refused (by rw [course, List.append_assoc, List.cons_append]) facing closed

/-- how far a background task has come after a list of moves, and why -/
structure Announcing (w : World) (task : Nat) (events : List Event) (moves : List Move) (outcomes : List Outcome) :
    Prop where
  underway : Underway task events outcomes (w.run moves).hub
  entered : w.record (entering task) moves = putIn events outcomes
  /-- what is in line got there at a move of the task -/
  waiting : ∀ e limit, (w.run moves).hub.relay.line (.producer task) = [⟨.producer task, e, limit⟩] →
    ∃ start wait, moves = start ++ .act (.producer task) :: wait ∧ Facing task e outcomes [] (w.run start).hub ∧
      limit = (w.run start).now + w.hub.config.publishTimeout
  missing : ∀ i outcome, outcomes[i]? = some outcome → outcome ≠ .accepted →
    ∃ e, events[i]? = some e ∧ w.Missing task e (outcomes.take i) moves outcome

/-- an event is given up when the task has come to it -/
theorem Announcing.missing_next (ha : w.Announcing task events moves outcomes) (he : events[outcomes.length]? = some e)
    {outcome : Outcome} (hg : (w.run moves).hub.relay.GivesUp (.producer task) (w.run moves).now outcome) :
    w.Missing task e outcomes (moves ++ [.act (.producer task)]) outcome := by
  have hfacing := ha.underway.facing he
  rcases hg with ⟨hhead, hlate, hfull⟩ | hclosed
  · rcases ha.underway.line with hfree | ⟨e', limit, he', hline⟩
    · rw [hfree] at hhead
      cases hhead
    · cases he.symm.trans he'
      rw [hline] at hhead hfacing
      cases hhead
      obtain ⟨start, wait, rfl, hoffered, hlimit⟩ := ha.waiting e limit hline
      exact .timedOut rfl hoffered hlimit hfacing hlate hfull
  · exact .refused rfl hfacing hclosed

theorem config_eq_run (hw : Wired w) (moves : List Move) : (w.run moves).hub.config = w.hub.config := by
  obtain ⟨ops, hops⟩ := hub_run w moves
  rw [hops]
  exact Hub.config_run hw.sound ops

/-- **A move of the system keeps the account of a background task.** -/
theorem announcing_concat (hw : Wired w) (ha : w.Announcing task events moves outcomes) (m : Move) :
    ∃ after, w.Announcing task events (moves ++ [m]) after := by
  obtain ⟨after, hunderway, hentered, hmove⟩ := tried_move (wired_run hw moves) ha.underway m
  rw [← run_concat] at hunderway hmove
  have hrecord : w.record (entering task) (moves ++ [m]) = putIn events after := by
    rw [record_concat, ha.entered, hentered]
  have hmissing : ∀ i outcome, outcomes[i]? = some outcome → outcome ≠ .accepted →
      ∃ e, events[i]? = some e ∧ w.Missing task e (outcomes.take i) (moves ++ [m]) outcome := by
    intro i outcome hi hne
    obtain ⟨e, he, hmissing⟩ := ha.missing i outcome hi hne
    exact ⟨e, he, hmissing.mono [m]⟩
  -- a task whose line stays what it was waits as it did
  have hwaiting : (w.run (moves ++ [m])).hub.relay.line (.producer task) =
      (w.run moves).hub.relay.line (.producer task) → after = outcomes →
        w.Announcing task events (moves ++ [m]) after := by
    rintro hline rfl
    refine ⟨hunderway, hrecord, ?_, hmissing⟩
    intro e limit hoffer
    obtain ⟨start, wait, rfl, hstart⟩ := ha.waiting e limit (hline ▸ hoffer)
    exact ⟨start, wait ++ [m], by simp, hstart⟩
  refine ⟨after, ?_⟩
  rcases hmove with ⟨rfl, hline | ⟨next, free, line⟩ | ⟨next, free, reason⟩⟩ | ⟨hafter, hline⟩
  · exact hwaiting hline rfl
  · refine ⟨hunderway, hrecord, ?_, hmissing⟩
    intro e limit hoffer
    have hfacing := ha.underway.facing next
    rw [free] at hfacing
    rw [line] at hoffer
    cases hoffer
    exact ⟨moves, [], rfl, hfacing, by rw [config_eq_run hw]⟩
  · refine ⟨hunderway, hrecord, ?_, ?_⟩
    · intro e limit hoffer
      rw [free] at hoffer
      cases hoffer
    · intro i outcome hi hne
      rcases Nat.lt_or_ge i outcomes.length with hlt | hge
      · rw [List.getElem?_append_left hlt] at hi
        rw [List.take_append_of_le_length (Nat.le_of_lt hlt)]
        exact hmissing i outcome hi hne
      · obtain rfl : i = outcomes.length := by
          have hlt := (List.getElem?_eq_some_iff.1 hi).1
          rw [List.length_append, List.length_singleton] at hlt
          omega
        rw [List.getElem?_concat_length] at hi
        cases hi
        rw [List.take_left]
        exact ⟨_, next, ha.missing_next next (reason hne)⟩
  · exact hwaiting hline hafter

/-- **So does every list of moves**, from a state in which the task has just been started. -/
theorem announcing_run (hw : Wired w) (hu : Underway task events [] w.hub)
    (hn : w.hub.relay.line (.producer task) = []) (moves : List Move) :
    ∃ outcomes, w.Announcing task events moves outcomes := by
  induction moves using List.reverseRecOn with
  | nil =>
    refine ⟨[], hu, by simp [record, putIn], ?_, by simp⟩
    intro e limit hoffer
    rw [show (w.run []).hub.relay.line (.producer task) = [] from hn] at hoffer
    cases hoffer
  | append_singleton moves m ih =>
    obtain ⟨outcomes, ha⟩ := ih
    exact announcing_concat hw ha m

/-! ## The signals of a block -/

/-- how the events of a background task have fared after a list of moves -/
structure Announced (w : World) (task : Nat) (events : List Event) (moves : List Move) (outcomes : List Outcome) :
    Prop where
  /-- the outcomes are those of the first events; the others are still to be put in -/
  producer : (w.run moves).hub.producers[task]? = some ⟨events.drop outcomes.length, outcomes⟩
  behind : outcomes.length ≤ events.length
  /-- those that have entered the relay are the accepted ones, once each -/
  entered : w.record (entering task) moves = putIn events outcomes
  /-- they have kept their order -/
  ordered : (w.record (entering task) moves).Sublist events
  /-- one that is missing was given up when it was next -/
  missing : ∀ i outcome, outcomes[i]? = some outcome → outcome ≠ .accepted →
    ∃ e, events[i]? = some e ∧ w.Missing task e (outcomes.take i) moves outcome
  /-- outcomes are final: whatever enters the relay later is from the events after these -/
  final : ∀ more, ∃ later,
    (w.run (moves ++ more)).hub.producers[task]? = some ⟨events.drop (outcomes ++ later).length, outcomes ++ later⟩ ∧
      w.record (entering task) (moves ++ more) =
        w.record (entering task) moves ++ putIn (events.drop outcomes.length) later
  /-- if none was given up, then none is missing -/
  complete : (∀ outcome ∈ outcomes, outcome = .accepted) →
    w.record (entering task) moves = events.take outcomes.length
  /-- a task that cannot move is done with its events, or waits in line within its time -/
  idle : (w.run moves).act (.producer task) = none → outcomes.length = events.length ∨
    ∃ offer, (w.run moves).hub.relay.line (.producer task) = [offer] ∧ (w.run moves).now < offer.deadline

theorem Announcing.announced (hw : Wired w) (ha : w.Announcing task events moves outcomes) :
    w.Announced task events moves outcomes where
  producer := ha.underway.producer
  behind := ha.underway.behind
  entered := ha.entered
  ordered := ha.entered ▸ Hub.putIn_sublist events outcomes
  missing := ha.missing
  final more := by
    obtain ⟨after, ⟨later, rfl⟩, hunderway, hentered⟩ := goesOn_run (wired_run hw moves) ha.underway more
    rw [Hub.putIn_append] at hentered
    refine ⟨later, ?_, ?_⟩
    · rw [run_append]
      exact hunderway.producer
    · rw [record_append, List.append_cancel_left hentered]
  complete hall := by rw [ha.entered, Hub.putIn_accepted events hall]
  idle hnone := by
    have hstep : (w.run moves).hub.producerStep task (w.run moves).now = none := by simpa [act] using hnone
    rcases hrest : events.drop outcomes.length with _ | ⟨e, rest⟩
    · exact Or.inl (Nat.le_antisymm ha.underway.behind (List.drop_eq_nil_iff.1 hrest))
    · rw [Hub.producerStep_next (hrest ▸ ha.underway.producer), Option.map_eq_none_iff] at hstep
      obtain ⟨offer, hhead, hlate⟩ := Relay.attempt_eq_none hstep
      rcases ha.underway.line with hfree | ⟨e', d, -, hline⟩
      · rw [hfree] at hhead
        cases hhead
      · rw [hline] at hhead
        cases hhead
        exact Or.inr ⟨_, hline, hlate⟩

section

variable {config : HubConfig} {source : Source} {runs : Bool} {w₀ : World} {before : List Move} {r : BlockReport}

theorem storeBlock_ok {w w' : World} (hs : w.storeBlock r = .ok w') :
    w.move (.ask (.storeBlock r)) = w' ∧
      w'.hub = (w.hub.publish (Publisher.blockEvents r)).1 := by
  unfold storeBlock Publisher.storeBlock at hs
  cases ho : w.publisher.overview.apply r w.publisher.source.params with
  | error e => simp [ho, Except.map] at hs
  | ok overview =>
    simp only [ho, Except.map, Except.ok.injEq] at hs
    subst hs
    refine ⟨?_, rfl⟩
    simp only [move, Command.isPlain, if_true, perform, storeBlock, Publisher.storeBlock, ho, Except.map]

/-- **The signals of a stored block keep their order under contention.** Whatever ran before the block was stored, and
whatever runs with its background task from then on: other blocks, other tasks, the heartbeat, a relay that is full, the
hub, and time that passes. -/
theorem storeBlock_announced (hw : World.create config source runs = .ok w₀)
    (hs : (w₀.run before).storeBlock r = .ok w) (moves : List Move) :
    ∃ outcomes, w.Announced (w₀.run before).hub.producers.length (Publisher.blockEvents r) moves outcomes := by
  obtain ⟨hmove, hhub⟩ := storeBlock_ok hs
  have hbefore := Traced.kept_run (Traced.kept_create hw) before
  rw [← Traced.world_run { world := w₀ }] at hmove hhub ⊢
  have hn := hbefore.fits.line_new
  have hwired : Wired w := hmove ▸ wired_move hbefore.wired (.ask (.storeBlock r))
  have hunderway := Hub.underway_publish hn (Publisher.blockEvents r)
  rw [← hhub] at hunderway
  have hfree : w.hub.relay.line (.producer (Traced.run { world := w₀ } before).world.hub.producers.length) = [] := by
    rw [hhub]
    exact hn
  obtain ⟨outcomes, ha⟩ := announcing_run hwired hunderway hfree moves
  exact ⟨outcomes, ha.announced hwired⟩

/-- two blocks share a relay with one place: the event of the second one takes the place that the hub makes, the first
address of the first one waits in vain, and its second address goes in later -/
theorem storeBlock_announced_two :
    ∃ w₀, World.create { relayCapacity := 1, publishTimeout := 5 }
        { Source.idle with params := { ticketsPerBlock := 0 } } true = .ok w₀ ∧
      ∃ w, (w₀.run [.act .hub]).storeBlock { coinbaseHash := "c", coinbaseAddresses := ["a", "b"] } = .ok w ∧
        ∃ moves, (w.run moves).hub.producers[0]? = some ⟨[], [.accepted, .timedOut, .accepted]⟩ ∧
          w.record (entering 0) moves = [.newBlock, .address ⟨"b", "c"⟩] ∧
          ∃ outcomes, w.Announced (w₀.run [.act .hub]).hub.producers.length
            (Publisher.blockEvents { coinbaseHash := "c", coinbaseAddresses := ["a", "b"] }) moves outcomes := by
  refine ⟨_, rfl, _, rfl, [.ask (.storeBlock {}), .act (.producer 0), .act (.producer 1), .act (.producer 0), .act .hub,
    .act (.producer 1), .wait 5, .act (.producer 0), .act .hub, .act (.producer 0)], rfl, rfl, ?_⟩
  exact storeBlock_announced (show World.create { relayCapacity := 1, publishTimeout := 5 }
    { Source.idle with params := { ticketsPerBlock := 0 } } true = .ok _ from rfl) rfl _

end

end World

end ChainFeed
