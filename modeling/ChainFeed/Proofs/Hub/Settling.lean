/-
That a hub comes to its end when everybody has let go of it, in whatever order its tasks move.

The tasks are the hub's own, its two timers, and the background tasks that still publish; each of them may move at any
time that it can. No time has to pass for that, and neither the intervals of the timers nor a ping in line matter.
- `Attended`: what is in line for the relay belongs to a task that is still about it.
- `ahead_lt`: every move of a task lowers a measure of what is ahead of the hub.
- `exists_move`: as long as the hub has not stopped, some task can move.
- `comesToEnd`: so all moves that can be made lead to the end.
-/
import ChainFeed.Proofs.Hub.Backlog
import ChainFeed.Proofs.Hub.Flushing
import ChainFeed.Proofs.Hub.Tasks
import Mathlib.Algebra.BigOperators.Group.Finset.Basic

namespace ChainFeed

/-! ## Attempts -/

namespace Relay

variable {r r' : Relay} {o : Origin} {e : Event} {now patience : Nat} {outcome : Option Outcome}

/-- what an attempt of an origin leaves of its line: it gets in line, or its event is put in or given up -/
inductive Leaves (r : Relay) (o : Origin) (r' : Relay) : Option Outcome → Prop
  | lined (free : r.line o = []) (line : r'.line o ≠ []) (queue : r'.queue = r.queue) : Leaves r o r' none
  | done {outcome : Outcome} (free : r'.line o = []) (queue : r'.queue.length ≤ r.queue.length + 1) :
      Leaves r o r' (some outcome)

theorem attempt_leaves (hr : r.attempt o e now patience = some (r', outcome)) :
    r'.capacity = r.capacity ∧ Leaves r o r' outcome := by
  unfold attempt at hr
  rw [offer?_eq_head?] at hr
  have hwithdrawn : ∀ {outcome : Outcome}, Leaves r o (r.withdraw o) (some outcome) :=
    .done (line_withdraw r o) (Nat.le_succ _)
  by_cases hclosed : (!r.receiving) = true
  · rw [if_pos hclosed] at hr
    cases hr
    exact ⟨rfl, hwithdrawn⟩
  rw [if_neg hclosed] at hr
  cases ho : (r.line o).head? with
  | none =>
    have hfree : r.line o = [] := List.head?_eq_none_iff.1 ho
    simp only [ho] at hr
    split_ifs at hr <;> cases hr
    · exact ⟨rfl, .done hfree (by simp [push])⟩
    · exact ⟨rfl, .lined hfree (by simp [line]) rfl⟩
  | some offer =>
    simp only [ho] at hr
    split_ifs at hr <;> cases hr
    · exact ⟨rfl, .done (line_withdraw r o) (by simp [push, withdraw])⟩
    · exact ⟨rfl, hwithdrawn⟩

/-- where an empty relay has room, the origin that is first in line, or any if there is none, need not wait -/
theorem attempt_first (hq : r.queue = []) (hc : 1 ≤ r.capacity) (hfirst : ∀ x ∈ r.waiting.head?, x.origin = o)
    (e : Event) (now patience : Nat) : ∃ x, r.attempt o e now patience = some x := by
  unfold attempt
  by_cases hclosed : (!r.receiving) = true
  · exact ⟨_, if_pos hclosed⟩
  rw [if_neg hclosed]
  cases ho : r.offer? o with
  | none =>
    dsimp only
    split_ifs <;> exact ⟨_, rfl⟩
  | some offer =>
    have hplace : r.hasPlace o = true := by
      have hroom : r.room = r.capacity := by simp [room, hq]
      rcases hw : r.waiting with _ | ⟨x, rest⟩
      · simp [offer?, hw] at ho
      · obtain ⟨places, hplaces⟩ : ∃ places, r.room = places + 1 := ⟨r.room - 1, by omega⟩
        have hx : x.origin = o := hfirst x (by simp [hw])
        simp [hasPlace, hw, hplaces, hx]
    dsimp only
    rw [if_pos hplace]
    exact ⟨_, rfl⟩

end Relay

namespace Hub

variable {h k : Hub} {now : Nat}

/-! ## Who waits for the relay -/

/-- what is in line for the relay belongs to a task that is still about it -/
structure Attended (h : Hub) : Prop where
  room : 1 ≤ h.relay.capacity
  asleep : h.phase = .created → h.heartbeat.running = false
  timed : h.heartbeat.running = true → h.heartbeat.interval ≠ 0
  beating : h.heartbeat.waiting = true → h.heartbeat.running = true
  heartbeat : h.relay.line .heartbeat ≠ [] → h.heartbeat.waiting = true
  producers : ∀ task, h.relay.line (.producer task) ≠ [] → ∃ p, h.producers[task]? = some p ∧ p.remaining ≠ []

/-- what leaves the line, the heartbeat and the background tasks alone -/
theorem Attended.congr (ha : Attended h) (capacity : k.relay.capacity = h.relay.capacity)
    (waiting : k.relay.waiting = h.relay.waiting) (created : k.phase = .created → h.phase = .created)
    (heartbeat : k.heartbeat = h.heartbeat)
    (producers : ∀ (task : Nat) p, h.producers[task]? = some p → k.producers[task]? = some p) : Attended k where
  room := capacity ▸ ha.room
  asleep hp := heartbeat ▸ ha.asleep (created hp)
  timed := heartbeat ▸ ha.timed
  beating := heartbeat ▸ ha.beating
  heartbeat := by
    rw [Relay.line_congr waiting, heartbeat]
    exact ha.heartbeat
  producers task := by
    rw [Relay.line_congr waiting]
    intro hline
    obtain ⟨p, hp, hremaining⟩ := ha.producers task hline
    exact ⟨p, producers task p hp, hremaining⟩

theorem attended_quiet (ha : Attended h) (hp : k.phase = h.phase) (hm : k.machinery = h.machinery) : Attended k := by
  simp only [machinery, Prod.mk.injEq] at hm
  obtain ⟨hr, -, hb, hproducers⟩ := hm
  exact ha.congr (by rw [hr]) (by rw [hr]) (fun hx => hp ▸ hx) hb fun _ _ hx => hproducers ▸ hx

theorem attended_create {config : HubConfig} (hh : Hub.create config = .ok h) : Attended h := by
  unfold Hub.create Relay.create queuePlaces at hh
  split_ifs at hh <;> cases hh
  exact ⟨Nat.le_max_right _ _, fun _ => rfl, (nomatch ·), (nomatch ·), fun hx => absurd rfl hx, fun _ hx => absurd rfl hx⟩

theorem attended_turn (hs : Sound h) (ha : Attended h) (now : Nat) : Attended (h.act (.op (.turn now))) := by
  rcases act_work h now with ⟨-, hk⟩ | ⟨k, hk, hw⟩
  · rw [hk]
    exact ha
  rw [hk]
  obtain ⟨hwaiting, hcapacity, hproducers, -, ⟨hsame, hcreated⟩ | ⟨hp, rfl⟩⟩ := hw.frame hs
  · exact ha.congr hcapacity hwaiting hcreated hsame fun _ _ hx => hproducers ▸ hx
  · -- a hub that was only made has no heartbeat, so only background tasks are in line
    have hnone : h.relay.line .heartbeat = [] := by
      by_contra hline
      have hrunning := ha.beating (ha.heartbeat hline)
      rw [ha.asleep hp] at hrunning
      cases hrunning
    refine ⟨ha.room, fun hx => by simp [start] at hx, fun hx => ?_, fun hx => by simp [start, Heartbeat.start] at hx,
      fun hx => absurd hnone hx, ha.producers⟩
    have hr : (decide (h.config.pingInterval ≠ 0) && decide (h.config.pingInterval < Heartbeat.maxInterval)) = true := hx
    rw [Bool.and_eq_true] at hr
    exact of_decide_eq_true hr.1

theorem attended_produce (ha : Attended h) (task now : Nat) : Attended (h.act (.op (.produce task now))) := by
  simp only [act, apply]
  cases hp : h.producers[task]? with
  | none =>
    rw [show h.producerStep task now = none by simp [producerStep, hp]]
    exact ha
  | some p =>
    obtain ⟨remaining, outcomes⟩ := p
    rcases remaining with _ | ⟨e, rest⟩
    · rw [show h.producerStep task now = none by simp [producerStep, hp]]
      exact ha
    rw [producerStep_next hp now]
    rcases hr : h.relay.attempt (.producer task) e now h.config.publishTimeout with _ | ⟨r', outcome⟩
    · exact ha
    obtain ⟨hcapacity, hleaves⟩ := Relay.attempt_leaves hr
    have hothers : ∀ other, other ≠ task → (h.told task rest outcomes outcome)[other]? = h.producers[other]? := by
      intro other hne
      cases outcome with
      | none => rfl
      | some outcome => exact List.getElem?_set_ne (Ne.symm hne)
    show Attended { h with relay := r', producers := h.told task rest outcomes outcome }
    refine ⟨hcapacity ▸ ha.room, ha.asleep, ha.timed, ha.beating, ?_, ?_⟩
    · intro hline
      rw [show r'.line .heartbeat = h.relay.line .heartbeat from Relay.line_attempt_of_ne (by simp) hr] at hline
      exact ha.heartbeat hline
    · intro other hline
      by_cases hother : other = task
      · subst hother
        cases hleaves with
        | lined => exact ⟨_, hp, by simp⟩
        | done free => exact absurd free hline
      · rw [show r'.line (.producer other) = h.relay.line (.producer other) from
          Relay.line_attempt_of_ne (by simpa using Ne.symm hother) hr] at hline
        obtain ⟨q, hq, hremaining⟩ := ha.producers other hline
        exact ⟨q, (hothers other hother).trans hq, hremaining⟩

theorem attended_beat (ha : Attended h) (now : Nat) : Attended (h.act (.op (.beat now))) := by
  simp only [act, apply, heartbeatStep]
  rcases hb : h.heartbeat.step h.relay now h.isHeld h.shutdown with _ | ⟨b, r⟩
  · exact ha
  have hlines : ∀ task, r.line (.producer task) = h.relay.line (.producer task) := fun task =>
    Heartbeat.line_step (by simp) hb
  obtain ⟨hrunning, hmoved⟩ := Heartbeat.moved hb
  have hawake : h.phase ≠ .created := by
    intro hp
    rw [ha.asleep hp] at hrunning
    cases hrunning
  have hkept : r.capacity = h.relay.capacity → (b.running = true → b.interval ≠ 0) →
      (b.waiting = true → b.running = true) → (r.line .heartbeat ≠ [] → b.waiting = true) →
      Attended { h with heartbeat := b, relay := r } := by
    intro hcapacity htimed hbeating hline
    refine ⟨hcapacity ▸ ha.room, fun hp => absurd hp hawake, htimed, hbeating, hline, fun task htask => ?_⟩
    rw [hlines task] at htask
    exact ha.producers task htask
  cases hmoved with
  | ended running waiting relay =>
    have hended : b.running = true → b.interval ≠ 0 := fun hx => by simp [running] at hx
    rcases relay with rfl | ⟨hidle, rfl⟩
    · exact hkept rfl hended (fun hx => by simp [waiting] at hx) fun hx => absurd (Relay.line_withdraw _ _) hx
    · refine hkept rfl hended (fun hx => by simp [waiting] at hx) fun hx => ?_
      rw [ha.heartbeat hx] at hidle
      cases hidle
  | offered attempt beat interval waiting running =>
    obtain ⟨hcapacity, hleaves⟩ := Relay.attempt_leaves attempt
    have htimed : b.running = true → b.interval ≠ 0 := fun _ => interval ▸ ha.timed hrunning
    cases hleaves with
    | lined => exact hkept hcapacity htimed (fun _ => by simp [running]) fun _ => by simp [waiting]
    | done free => exact hkept hcapacity htimed (fun hx => by simp [waiting] at hx) fun hx => absurd free hx

/-- **Every step keeps what is in line attended to.** -/
theorem attended_act (hs : Sound h) (ha : Attended h) (a : Act) : Attended (h.act a) := by
  cases a with
  | arrive => exact attended_quiet ha (effect_frame (effect_act h (a := .arrive) rfl)).2.1 (machinery_arrive h)
  | op op =>
    cases hq : op.isQuiet with
    | true =>
      have ht : op.isTurn = false := by cases op <;> first | rfl | cases hq
      exact attended_quiet ha (effect_frame (effect h ht)).2.1 (machinery_apply h hq)
    | false =>
      cases op with
      | publish events =>
        refine ha.congr rfl rfl id rfl ?_
        intro task p hp
        exact (List.getElem?_append_left (List.getElem?_eq_some_iff.1 hp).1).trans hp
      | produce task now => exact attended_produce ha task now
      | turn now => exact attended_turn hs ha now
      | tick now =>
        simp only [act, apply, tickerStep]
        cases h.ticker.step now with
        | none => exact ha
        | some t => exact ha.congr rfl rfl id rfl fun _ _ hx => hx
      | beat now => exact attended_beat ha now
      | _ => cases hq

/-! ## Moves, and what is ahead -/

/-- a move that one of the tasks on the hub can make at a time -/
inductive TaskMove (now : Nat) (h : Hub) : Hub → Prop
  | turn {k : Hub} (step : h.step now = some k) : TaskMove now h k
  | tick {k : Hub} (step : h.tickerStep now = some k) : TaskMove now h k
  | beat {k : Hub} (step : h.heartbeatStep now = some k) : TaskMove now h k
  | produce {task : Nat} {k : Hub} (step : h.producerStep task now = some k) : TaskMove now h k

theorem TaskMove.act (hm : TaskMove now h k) : ∃ a : Act, h.act a = k := by
  rcases hm with hk | hk | hk | ⟨hk⟩
  · exact ⟨.op (.turn now), by simp [Hub.act, apply, hk]⟩
  · exact ⟨.op (.tick now), by simp [Hub.act, apply, hk]⟩
  · exact ⟨.op (.beat now), by simp [Hub.act, apply, hk]⟩
  · rename_i task
    exact ⟨.op (.produce task now), by simp [Hub.act, apply, hk]⟩

/-- what a background task may still do: four for each event, as many as an event costs that goes in and is handled, and
one to get in line -/
def owed (h : Hub) (task : Nat) : Nat :=
  match h.producers[task]? with
  | none => 0
  | some p => 4 * p.remaining.length + if h.relay.line (.producer task) = [] then 1 else 0

/-- what the heartbeat may still do at a time: the beats that it has missed, and a ping that is under way -/
def beatsAhead (h : Hub) (now : Nat) : Nat :=
  if h.heartbeat.running then
    4 * (now + 1 - h.heartbeat.deadline) +
      (if h.heartbeat.waiting then (if h.relay.line .heartbeat = [] then 4 else 3) else 0) + 1
  else 0

/-- what its phases leave the hub to do; setting it going makes its timers run -/
def phasesAhead : HubPhase → Nat
  | .created => 5
  | .running => 2
  | .draining => 1
  | .stopped => 0

/-- what is ahead of a hub at a time -/
def ahead (h : Hub) (now : Nat) : Nat :=
  phasesAhead h.phase + h.registrations.length + h.unregistrations.length + 2 * h.relay.queue.length +
    h.ticker.left now + h.beatsAhead now + ∑ task ∈ Finset.range h.producers.length, h.owed task

theorem owed_congr (hp : k.producers = h.producers) (hw : k.relay.waiting = h.relay.waiting) :
    ∑ task ∈ Finset.range k.producers.length, k.owed task = ∑ task ∈ Finset.range h.producers.length, h.owed task := by
  rw [hp]
  refine Finset.sum_congr rfl fun task _ => ?_
  rw [owed, owed, hp, Relay.line_congr hw]

theorem beatsAhead_congr (hb : k.heartbeat = h.heartbeat) (hw : k.relay.waiting = h.relay.waiting) :
    k.beatsAhead now = h.beatsAhead now := by
  rw [beatsAhead, beatsAhead, hb, Relay.line_congr hw]

theorem left_handle (hs : Sound h) (e : Event) (now : Nat) : (h.handle e).ticker.left now ≤ h.ticker.left now + 1 := by
  rw [ticker_handle hs.registry_nodup hs.count]
  split_ifs
  · exact h.ticker.left_reset now
  · exact Nat.le_succ _
  · exact Nat.le_succ _

/-- a hub that is set going has nothing ahead of its timers but their end -/
theorem ahead_start (h : Hub) (now : Nat) :
    (h.start now).ticker.left now ≤ 1 ∧ (h.start now).beatsAhead now ≤ 1 := by
  constructor
  · by_cases hi : h.config.flushInterval = 0
    · simp [start, Ticker.start, Ticker.left, hi]
    · simp [start, Ticker.start, Ticker.left, hi]
      omega
  · by_cases hi : h.config.pingInterval = 0
    · simp [start, Heartbeat.start, beatsAhead, hi]
    · simp only [start, Heartbeat.start, beatsAhead, Bool.false_eq_true, if_false]
      split_ifs <;> omega

/-- a move of the hub itself takes something up, or brings it on in its life -/
theorem ahead_turn (hs : Sound h) {errand : Option Errand} (hw : Work h now errand k) : k.ahead now < h.ahead now := by
  obtain ⟨hwaiting, -, hproducers, -, hheartbeat⟩ := hw.frame hs
  have howed := owed_congr hproducers hwaiting
  have hbeats : k.heartbeat = h.heartbeat → k.beatsAhead now = h.beatsAhead now := fun hb => beatsAhead_congr hb hwaiting
  unfold ahead
  rw [howed]
  cases hw with
  | started phase =>
    obtain ⟨hticker, hbeat⟩ := ahead_start h now
    rw [phase, show (h.start now).phase = .running from rfl]
    have hsame : (h.start now).registrations = h.registrations ∧ (h.start now).unregistrations = h.unregistrations ∧
        (h.start now).relay = h.relay := ⟨rfl, rfl, rfl⟩
    rw [hsame.1, hsame.2.1, hsame.2.2, phasesAhead, phasesAhead]
    omega
  | @entered id rest queue =>
    rw [hbeats rfl, queue]
    simp only [enrol, setRegistry, List.length_cons]
    omega
  | @left id rest queue =>
    obtain ⟨hphase, -, -, hr, hu, hrelay, -, hticker, hheartbeat⟩ := expel_frame { h with unregistrations := rest } id
    rw [hbeats hheartbeat, hphase, hr, hu, hrelay, hticker, queue, List.length_cons]
    dsimp only
    omega
  | @handled e rest queue =>
    have hk := handle_frame (h := { h with relay := { h.relay with queue := rest } }) hs.registry_nodup hs.count e
    obtain ⟨-, hphase, -, -, -, -, hr, hu, hrelay, -, -⟩ := hk
    have htimers := handle_timers (h := { h with relay := { h.relay with queue := rest } }) hs.registry_nodup hs.count e
    have hsound : Sound { h with relay := { h.relay with queue := rest } } :=
      ⟨hs.known, hs.nodup, hs.count, hs.sending, hs.tidy, hs.closed⟩
    have hticker := left_handle hsound e now
    rw [hbeats htimers.2, hphase, hr, hu, hrelay, queue, List.length_cons]
    dsimp only at hticker ⊢
    omega
  | closed phase reason =>
    have hbeat : h.drain.heartbeat = h.heartbeat := by simp [drain_eq]
    have hticker : h.drain.ticker.left now = h.ticker.left now := by simp [drain_eq, Ticker.stop, Ticker.left]
    have hdrain : h.drain.phase = .draining ∧ h.drain.registrations = [] ∧ h.drain.unregistrations = [] ∧
        h.drain.relay.queue = [] := by simp [drain_eq, Relay.close]
    rw [hbeats hbeat, hticker, phase, hdrain.1, hdrain.2.1, hdrain.2.2.1, hdrain.2.2.2, phasesAhead, phasesAhead]
    simp only [List.length_nil]
    omega
  | halted phase timers =>
    rw [hbeats rfl, phase, phasesAhead, phasesAhead]
    dsimp only
    omega

theorem ahead_tick (ho : Orderly h) (hk : h.tickerStep now = some k) : k.ahead now < h.ahead now := by
  obtain ⟨t, ht, rfl⟩ := Option.map_eq_some_iff.1 hk
  have hrunning : h.ticker.running = true := by
    unfold Ticker.step at ht
    split_ifs at ht with hr <;> simpa using hr
  have hless := Ticker.left_step (ho.timed hrunning) ht
  have howed : ∀ task, Hub.owed { h with ticker := t } task = h.owed task := fun _ => rfl
  have hbeat : Hub.beatsAhead { h with ticker := t } now = h.beatsAhead now := rfl
  simp only [ahead, howed, hbeat]
  omega

theorem ahead_beat (ha : Attended h) (hk : h.heartbeatStep now = some k) : k.ahead now < h.ahead now := by
  obtain ⟨⟨b, r⟩, hb, rfl⟩ := Option.map_eq_some_iff.1 hk
  obtain ⟨hrunning, hmoved⟩ := Heartbeat.moved hb
  have howed : ∀ task, Hub.owed { h with heartbeat := b, relay := r } task = h.owed task := by
    intro task
    have hline : r.line (.producer task) = h.relay.line (.producer task) := Heartbeat.line_step (by simp) hb
    simp only [owed, hline]
  -- what the heartbeat puts into the relay is less than what it leaves behind
  have hless : Hub.beatsAhead { h with heartbeat := b, relay := r } now + 2 * r.queue.length <
      h.beatsAhead now + 2 * h.relay.queue.length := by
    simp only [beatsAhead, hrunning, if_true]
    cases hmoved with
    | ended running waiting relay =>
      have hqueue : r.queue = h.relay.queue := by
        rcases relay with rfl | ⟨-, rfl⟩ <;> rfl
      simp only [running, hqueue, Bool.false_eq_true, if_false]
      omega
    | offered attempt beat interval waiting running =>
      obtain ⟨-, hleaves⟩ := Relay.attempt_leaves attempt
      have hdeadlines : h.heartbeat.waiting = true ∧ b.deadline = h.heartbeat.deadline ∨
          h.heartbeat.waiting = false ∧ now + 1 - b.deadline < now + 1 - h.heartbeat.deadline := by
        have hlater := Ticker.lt_nextDeadline h.heartbeat.deadline now (ha.timed hrunning)
        rcases beat with hgoing | ⟨hw, hdue, hd⟩
        · exact Or.inl hgoing
        · exact Or.inr ⟨hw, by omega⟩
      cases hleaves with
      | lined free line queue =>
        rw [queue, if_neg line, if_pos free]
        rcases hdeadlines with ⟨hw, hd⟩ | ⟨hw, hd⟩
        · simp only [running, waiting, hw, hd, Option.isNone_none, if_true]
          split_ifs <;> omega
        · simp only [waiting, hw, Option.isNone_none, if_true, Bool.false_eq_true, if_false]
          split_ifs <;> omega
      | @done outcome free queue =>
        simp only [waiting, Option.isNone_some, Bool.false_eq_true, if_false]
        rcases hdeadlines with ⟨hw, hd⟩ | ⟨hw, hd⟩
        · rw [if_pos hw, hd]
          split_ifs <;> omega
        · have hidle : ¬h.heartbeat.waiting = true := by simp [hw]
          rw [if_neg hidle]
          split_ifs <;> omega
  simp only [ahead, howed]
  omega

/-- the sums over two families that differ at one place differ by what they differ there -/
theorem sum_exchange {f g : Nat → Nat} {n i : Nat} (hi : i < n) (hne : ∀ j, j ≠ i → g j = f j) :
    ∑ j ∈ Finset.range n, g j + f i = ∑ j ∈ Finset.range n, f j + g i := by
  have hin := Finset.mem_range.2 hi
  have hrest : ∑ j ∈ (Finset.range n).erase i, g j = ∑ j ∈ (Finset.range n).erase i, f j :=
    Finset.sum_congr rfl fun j hj => hne j (Finset.ne_of_mem_erase hj)
  rw [← Finset.add_sum_erase _ f hin, ← Finset.add_sum_erase _ g hin, hrest]
  omega

theorem ahead_produce {task : Nat} (hk : h.producerStep task now = some k) : k.ahead now < h.ahead now := by
  rcases hp : h.producers[task]? with _ | ⟨_ | ⟨e, rest⟩, outcomes⟩
  · simp [producerStep, hp] at hk
  · simp [producerStep, hp] at hk
  rw [producerStep_next hp now] at hk
  obtain ⟨⟨r, outcome⟩, hr, rfl⟩ := Option.map_eq_some_iff.1 hk
  obtain ⟨-, hleaves⟩ := Relay.attempt_leaves hr
  have htask := (List.getElem?_eq_some_iff.1 hp).1
  have hlength : (h.told task rest outcomes outcome).length = h.producers.length := by
    cases outcome <;> simp [told]
  have hbeat : Hub.beatsAhead { h with relay := r, producers := h.told task rest outcomes outcome } now =
      h.beatsAhead now := by
    have hline : r.line .heartbeat = h.relay.line .heartbeat := Relay.line_attempt_of_ne (by simp) hr
    simp only [beatsAhead, hline]
  have hothers : ∀ other, other ≠ task →
      Hub.owed { h with relay := r, producers := h.told task rest outcomes outcome } other = h.owed other := by
    intro other hne
    have hline : r.line (.producer other) = h.relay.line (.producer other) :=
      Relay.line_attempt_of_ne (by simpa using Ne.symm hne) hr
    have hproducer : (h.told task rest outcomes outcome)[other]? = h.producers[other]? := by
      cases outcome with
      | none => rfl
      | some outcome => exact List.getElem?_set_ne (Ne.symm hne)
    simp only [owed, hline, hproducer]
  have hsum := sum_exchange htask hothers
  -- what the task puts into the relay is less than what it leaves behind
  have hless : Hub.owed { h with relay := r, producers := h.told task rest outcomes outcome } task +
      2 * r.queue.length < h.owed task + 2 * h.relay.queue.length := by
    cases hleaves with
    | lined free line queue => simp [owed, told, hp, free, line, queue]
    | done free queue =>
      simp only [owed, told, hp, List.getElem?_set_self htask, free, if_true, List.length_cons]
      split_ifs <;> omega
  simp only [ahead, hbeat, hlength]
  omega

/-- **Every move of a task leaves less ahead of the hub.** -/
theorem ahead_lt (hs : Sound h) (ho : Orderly h) (ha : Attended h) (hm : TaskMove now h k) :
    k.ahead now < h.ahead now := by
  rcases hm with hk | hk | hk | hk
  · exact ahead_turn hs (work hk)
  · exact ahead_tick ho hk
  · exact ahead_beat ha hk
  · exact ahead_produce hk

/-! ## The end -/

/-- whatever moves its tasks make at a time, and in whatever order, the hub comes to its end: some task can move as long
as the hub has not stopped, and that does not go on for ever -/
inductive ComesToEnd (now : Nat) : Hub → Prop
  | intro {h : Hub} (moves : h.phase = .stopped ∨ ∃ k, TaskMove now h k)
      (next : ∀ k, TaskMove now h k → ComesToEnd now k) : ComesToEnd now h

/-- the heartbeat can move on with its ping where the first in line, if there is anybody, is the heartbeat itself -/
theorem beat_moves (ha : Attended h) (hw : h.heartbeat.waiting = true) (hq : h.relay.queue = [])
    (hfirst : ∀ x ∈ h.relay.waiting.head?, x.origin = .heartbeat) (now : Nat) : ∃ k, TaskMove now h k := by
  obtain ⟨⟨r, outcome⟩, hr⟩ := Relay.attempt_first hq ha.room hfirst .ping now h.heartbeat.patience
  have hstep : ∃ x, h.heartbeat.step h.relay now h.isHeld h.shutdown = some x := by
    simp only [Heartbeat.step, ha.beating hw, hw, Heartbeat.beat, hr, Bool.not_true, Bool.false_eq_true, if_false,
      if_true]
    split_ifs
    · exact ⟨_, rfl⟩
    · rcases outcome with _ | _ | _ | _ <;> exact ⟨_, rfl⟩
  obtain ⟨x, hx⟩ := hstep
  exact ⟨_, .beat (by rw [heartbeatStep, hx]; rfl)⟩

/-- so can a background task -/
theorem produce_moves (ha : Attended h) {task : Nat} {p : Producer} (hp : h.producers[task]? = some p)
    (hremaining : p.remaining ≠ []) (hq : h.relay.queue = [])
    (hfirst : ∀ x ∈ h.relay.waiting.head?, x.origin = .producer task) (now : Nat) : ∃ k, TaskMove now h k := by
  obtain ⟨remaining, outcomes⟩ := p
  rcases remaining with _ | ⟨e, rest⟩
  · exact absurd rfl hremaining
  obtain ⟨x, hx⟩ := Relay.attempt_first hq ha.room hfirst e now h.config.publishTimeout
  exact ⟨_, .produce (by rw [producerStep_next hp now, hx]; rfl)⟩

/-- where nothing waits for a running hub that somebody can still send something, that one can move -/
theorem sender_moves (ha : Attended h) (hheld : h.held = false) (hq : h.relay.queue = [])
    (hsender : h.isHeld = true ∨ h.heartbeat.waiting = true) (now : Nat) : ∃ k, TaskMove now h k := by
  rcases hw : h.relay.waiting with _ | ⟨x, rest⟩
  · have hfirst : ∀ o, ∀ x ∈ h.relay.waiting.head?, x.origin = o := by simp [hw]
    rcases hsender with htasks | hbeat
    · rw [isHeld, hheld, Bool.false_or, List.any_eq_true] at htasks
      obtain ⟨p, hp, hremaining⟩ := htasks
      obtain ⟨task, hplace⟩ := List.getElem?_of_mem hp
      exact produce_moves ha hplace (by simpa using hremaining) hq (hfirst _) now
    · exact beat_moves ha hbeat hq (hfirst _) now
  · -- the first in line has a place, and belongs to a task that is about it
    have hline : h.relay.line x.origin ≠ [] := by simp [Relay.line, hw]
    have hfirst : ∀ y ∈ h.relay.waiting.head?, y.origin = x.origin := by simp [hw]
    rcases ho : x.origin with _ | task
    · rw [ho] at hline hfirst
      exact beat_moves ha (ha.heartbeat hline) hq hfirst now
    · rw [ho] at hline hfirst
      obtain ⟨p, hp, hremaining⟩ := ha.producers task hline
      exact produce_moves ha hp hremaining hq hfirst now

/-- **As long as a hub that everybody has let go of has not stopped, some task can move.** -/
theorem exists_move (hs : Sound h) (ho : Orderly h) (ha : Attended h) (hheld : h.held = false)
    (hp : h.phase ≠ .stopped) (now : Nat) : ∃ k, TaskMove now h k := by
  have hturn : ∀ k, h.step now = some k → ∃ k, TaskMove now h k := fun k hk => ⟨k, .turn hk⟩
  cases hphase : h.phase with
  | created => exact hturn (h.start now) (by simp [step, hphase])
  | running =>
    by_cases hidle : h.step now = none
    · -- a running hub that cannot move waits for somebody who can still send it something
      have hwaits : h.relay.queue = [] ∧ (h.isHeld || h.heartbeat.waiting) = true := by
        simp only [step, hphase, loopStep] at hidle
        split_ifs at hidle with _ hw
        · split at hidle
          · cases hidle
          · cases hidle
          · cases hidle
          · exact ⟨Relay.take?_eq_none ‹_›, hw⟩
        · split at hidle <;> cases hidle
      rw [Bool.or_eq_true] at hwaits
      exact sender_moves ha hheld hwaits.1 hwaits.2 now
    · obtain ⟨k, hk⟩ := Option.ne_none_iff_exists'.1 hidle
      exact hturn k hk
  | draining =>
    have hclosed : h.isOpen = false := by simp [isOpen, hphase]
    cases ht : h.ticker.running with
    | true =>
      obtain ⟨t, hstep, -⟩ := Ticker.step_stopping now ht (ho.closed hclosed).2 (ho.timed ht)
      exact ⟨_, .tick (by rw [tickerStep, hstep]; rfl)⟩
    | false =>
      cases hb : h.heartbeat.running with
      | true =>
        have hshutdown : h.shutdown = true := (hs.closed hclosed).2.2.2
        exact ⟨_, .beat (by rw [heartbeatStep, hshutdown, Heartbeat.step_shutdown hb]; rfl)⟩
      | false => exact hturn { h with phase := .stopped } (by simp [step, hphase, ht, hb])
  | stopped => exact absurd hphase hp

/-- **A hub that everybody has let go of comes to its end**, whatever moves its tasks make and in whatever order. -/
theorem comesToEnd (hs : Sound h) (ho : Orderly h) (ha : Attended h) (hheld : h.held = false) (now : Nat) :
    h.ComesToEnd now := by
  -- by induction on what is ahead of the hub
  induction hn : h.ahead now using Nat.strongRecOn generalizing h with
  | ind n ih =>
    subst hn
    refine .intro ?_ fun k hm => ?_
    · by_cases hp : h.phase = .stopped
      · exact Or.inl hp
      · exact Or.inr (exists_move hs ho ha hheld hp now)
    · have hless := ahead_lt hs ho ha hm
      obtain ⟨a, rfl⟩ := hm.act
      exact ih _ hless (sound_act hs a) (orderly_act hs ho a) (attended_act hs ha a) (held_act hs hheld a) rfl

end Hub

end ChainFeed
