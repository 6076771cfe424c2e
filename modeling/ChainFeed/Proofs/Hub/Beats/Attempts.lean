/-
The attempts of a heartbeat to send a ping, while others send and receive in any order.

- `act_apart`: nobody else touches the heartbeat, nor what it has in line.
- `Beating`: what holds of the attempts; `beating_act`: whatever happens keeps it; `beating_run`.
- `InTime`, `inTime_act`, `inTime_run`: no attempt lasts longer than the heartbeat's patience, if it is woken in time.
-/
import ChainFeed.Proofs.Hub.Beats.Turn
import ChainFeed.Proofs.Trace
import Mathlib.Data.List.Induction

namespace ChainFeed.TimedHeartbeat

open Heartbeat (Fate)

variable {h : TimedHeartbeat}

/-! ## What happens around it -/

/-- what happens to a heartbeat and to its relay -/
inductive Input where
  /-- the heartbeat's task gets its turn -/
  | turn
  | wait (ms : Nat)
  /-- someone else puts an event in, if there is room -/
  | send (e : Event)
  /-- a background task offers an event, or goes on offering it, and waits in line while there is no room -/
  | offer (task : Nat) (e : Event) (patience : Nat)
  | withdraw (task : Nat)
  | receive (most : Nat)
  | closeReceiver
  /-- all other senders let go, and with them goes what they have in line -/
  | dropSenders
  | cancel
deriving DecidableEq

/-- the time that passes -/
def Input.ms : Input → Nat
  | .wait ms => ms
  | _ => 0

def act (h : TimedHeartbeat) : Input → TimedHeartbeat
  | .turn => h.turn
  | .wait ms => { h with now := h.now + ms }
  | .send e => (h.fill e).1
  | .offer task e patience =>
    if h.held then
      match h.relay.attempt (.producer task) e h.now patience with
      | none => h
      | some (relay, _) => { h with relay }
    else h
  | .withdraw task => { h with relay := h.relay.withdraw (.producer task) }
  | .receive most => (h.receive most).2
  | .closeReceiver => h.closeReceiver
  | .dropSenders => { h.dropSender with relay := { h.relay with waiting := h.relay.line .heartbeat } }
  | .cancel => h.cancel

/-- the heartbeat after all that happened -/
def run (h : TimedHeartbeat) (inputs : List Input) : TimedHeartbeat :=
  Trace.run act h inputs

theorem run_append (h : TimedHeartbeat) (a b : List Input) : h.run (a ++ b) = (h.run a).run b :=
  Trace.run_append _ _ _ _

theorem run_concat (h : TimedHeartbeat) (inputs : List Input) (i : Input) :
    h.run (inputs ++ [i]) = (h.run inputs).act i :=
  Trace.run_concat _ _ _ _

/-- how and when the attempt ends that is under way in a turn after which the heartbeat is `k` -/
def settling (h k : TimedHeartbeat) : List (Nat × Fate) :=
  if (h.begins || h.isSending) && !k.isSending then
    [(h.now,
      if h.relay.queue.length < k.relay.queue.length then .sent
      else if k.heartbeat.running then .skipped else .abandoned)]
  else []

/-- what enters the relay in a turn after which the heartbeat is `k` -/
def entering (h k : TimedHeartbeat) : List (Nat × Event) :=
  (k.relay.queue.drop h.relay.queue.length).map fun e => (h.now, e)

/-- what is noted of turns alone -/
def Input.atTurn {Note : Type} (notes : List Note) : Input → List Note
  | .turn => notes
  | _ => []

/-- the times at which attempts to send a ping begin -/
def begun (h : TimedHeartbeat) (inputs : List Input) : List Nat :=
  Trace.record act (fun h i => i.atTurn (if h.begins then [h.now] else [])) h inputs

/-- how these attempts end, and when -/
def settled (h : TimedHeartbeat) (inputs : List Input) : List (Nat × Fate) :=
  Trace.record act (fun h i => i.atTurn (settling h h.turn)) h inputs

/-- what the heartbeat puts into the relay, and when -/
def entered (h : TimedHeartbeat) (inputs : List Input) : List (Nat × Event) :=
  Trace.record act (fun h i => i.atTurn (entering h h.turn)) h inputs

theorem Input.atTurn_of_ne {Note : Type} {i : Input} (hi : i ≠ .turn) (notes : List Note) : i.atTurn notes = [] := by
  cases i <;> first | rfl | exact absurd rfl hi

/-- **Nobody else touches the heartbeat**, nor what it has in line. -/
theorem act_apart {i : Input} (hi : i ≠ .turn) : (h.act i).heartbeat = h.heartbeat ∧
    (h.act i).relay.line .heartbeat = h.relay.line .heartbeat ∧ (h.act i).now = h.now + i.ms := by
  cases i with
  | turn => exact absurd rfl hi
  | send e =>
    simp only [act, fill, Relay.tryPush]
    split_ifs <;> exact ⟨rfl, rfl, rfl⟩
  | offer task e patience =>
    simp only [act]
    split_ifs
    · cases ho : h.relay.attempt (.producer task) e h.now patience with
      | none => exact ⟨rfl, rfl, rfl⟩
      | some x => exact ⟨rfl, Relay.line_attempt_of_ne (by simp) ho, rfl⟩
    · exact ⟨rfl, rfl, rfl⟩
  | withdraw task => exact ⟨rfl, Relay.line_withdraw_of_ne (by simp) _, rfl⟩
  | dropSenders => exact ⟨rfl, by simp [act, Relay.line, List.filter_filter], rfl⟩
  | wait | receive | closeReceiver | cancel => exact ⟨rfl, rfl, rfl⟩

/-! ## The attempts to send a ping -/

/-- what holds of a heartbeat whose attempts began at the times `begun`, of which those that ended did so as `settled`
tells, and which put in what `entered` tells -/
structure Beating (interval patience : Nat) (begun : List Nat) (settled : List (Nat × Fate))
    (entered : List (Nat × Event)) (h : TimedHeartbeat) : Prop where
  interval_eq : h.heartbeat.interval = interval
  patience_eq : h.heartbeat.patience = patience
  /-- each beat comes an interval after the one before -/
  next : h.heartbeat.running = true → (begun.length + 1) * interval ≤ h.heartbeat.deadline
  idle : h.heartbeat.waiting = false → h.relay.line .heartbeat = [] ∧ begun.length = settled.length
  sending : h.heartbeat.waiting = true → h.heartbeat.running = true ∧ ∃ past b, begun = past ++ [b] ∧
    past.length = settled.length ∧ h.relay.line .heartbeat = [⟨.heartbeat, .ping, b + patience⟩]
  begun_late : ∀ k b, begun[k]? = some b → (k + 1) * interval ≤ b
  begun_past : ∀ b ∈ begun, b ≤ h.now
  ordered : ∀ b t fate, (b, t, fate) ∈ begun.zip settled → b ≤ t ∧ (fate = .skipped → b + patience ≤ t)
  entered_eq : entered = (settled.filter fun x => x.2 = .sent).map fun x => (x.1, .ping)
  entered_late : ∀ k t e, entered[k]? = some (t, e) → (k + 1) * interval ≤ t

section

variable {interval patience : Nat} {begun : List Nat} {settled : List (Nat × Fate)} {entered : List (Nat × Event)}
  {k : TimedHeartbeat}

theorem Beating.tidy (hb : Beating interval patience begun settled entered h) : h.Tidy where
  idle hw := (hb.idle hw).1
  sending hw := by
    obtain ⟨hr, -, b, -, -, hl⟩ := hb.sending hw
    exact ⟨hr, _, hl⟩

/-- all attempts have ended, except for the one in line -/
theorem Beating.single (hb : Beating interval patience begun settled entered h) :
    begun.length = settled.length + (h.relay.line .heartbeat).length ∧ (h.relay.line .heartbeat).length ≤ 1 := by
  cases hw : h.heartbeat.waiting with
  | false =>
    obtain ⟨hline, hlen⟩ := hb.idle hw
    simp [hline, hlen]
  | true =>
    obtain ⟨-, past, b, hbegun, hlen, hline⟩ := hb.sending hw
    simp [hline, hbegun, hlen]

/-- what leaves the heartbeat alone, and what it has in line, is of no matter -/
theorem Beating.apart (hb : Beating interval patience begun settled entered h) (hsame : k.heartbeat = h.heartbeat)
    (hline : k.relay.line .heartbeat = h.relay.line .heartbeat) (hnow : h.now ≤ k.now) :
    Beating interval patience begun settled entered k := by
  refine ⟨?_, ?_, ?_, ?_, ?_, hb.begun_late, fun b hin => Nat.le_trans (hb.begun_past b hin) hnow, hb.ordered,
    hb.entered_eq, hb.entered_late⟩
  all_goals rw [hsame]
  · exact hb.interval_eq
  · exact hb.patience_eq
  · exact hb.next
  · rw [hline]
    exact hb.idle
  · rw [hline]
    exact hb.sending

theorem getElem?_concat {A : Type} {P : Nat → A → Prop} {l : List A} {a : A} (hl : ∀ i x, l[i]? = some x → P i x)
    (ha : P l.length a) : ∀ i x, (l ++ [a])[i]? = some x → P i x := by
  intro i x hin
  rw [List.getElem?_append] at hin
  split_ifs at hin with hlt
  · exact hl i x hin
  · obtain ⟨hi, rfl⟩ := List.getElem?_eq_some_iff.1 hin
    obtain rfl : i = l.length := by simp at hi; omega
    simpa using ha

/-- an attempt that began at `b` is under way in a turn of `h`, and those before it have ended -/
structure Current (interval patience : Nat) (begun : List Nat) (settled : List (Nat × Fate)) (h : TimedHeartbeat)
    (past : List Nat) (b : Nat) : Prop where
  begun_eq : begun ++ (if h.begins then [h.now] else []) = past ++ [b]
  length_eq : past.length = settled.length
  zip_eq : begun.zip settled = past.zip settled
  late : (settled.length + 1) * interval ≤ b
  le_now : b ≤ h.now
  origin : b = h.now ∨ h.heartbeat.waiting = true ∧ begun = past ++ [b]
  limit : ∀ offer, (h.relay.line .heartbeat).head? = some offer → offer.deadline = b + patience

theorem zip_concat_left {A B : Type} {l : List A} {m : List B} (hlen : l.length = m.length) (a : A) :
    (l ++ [a]).zip m = l.zip m := by
  calc (l ++ [a]).zip m = (l ++ [a]).zip (m ++ []) := by rw [List.append_nil]
    _ = l.zip m ++ [a].zip [] := List.zip_append hlen
    _ = l.zip m := by simp

theorem Beating.current (hb : Beating interval patience begun settled entered h)
    (began : h.begins = true ∨ h.heartbeat.waiting = true) :
    ∃ past b, Current interval patience begun settled h past b := by
  by_cases hbegins : h.begins = true
  · obtain ⟨hr, -, hw, hd, -⟩ := begins_eq_true.1 hbegins
    obtain ⟨hline, hlen⟩ := hb.idle hw
    refine ⟨begun, h.now, by rw [if_pos hbegins], hlen, rfl, ?_, Nat.le_refl _, Or.inl rfl, ?_⟩
    · rw [← hlen]
      exact Nat.le_trans (hb.next hr) hd
    · rw [hline]
      nofun
  · have hw := began.resolve_left hbegins
    obtain ⟨-, past, b, hbegun, hlen, hline⟩ := hb.sending hw
    refine ⟨past, b, by rw [if_neg hbegins, List.append_nil, hbegun], hlen, ?_, ?_, ?_, Or.inr ⟨hw, hbegun⟩, ?_⟩
    · rw [hbegun, zip_concat_left hlen]
    · exact hb.begun_late _ b (by rw [hbegun, ← hlen, List.getElem?_concat_length])
    · exact hb.begun_past b (by simp [hbegun])
    · rw [hline]
      rintro _ ⟨⟩
      rfl

/-- with the end of the attempt there is one more attempt that has ended -/
theorem Current.of_mem_zip {past : List Nat} {b b' t : Nat} {fate f : Fate}
    (hc : Current interval patience begun settled h past b)
    (hin : (b', t, f) ∈ (past ++ [b]).zip (settled ++ [(h.now, fate)])) :
    (b', t, f) ∈ begun.zip settled ∨ b' = b ∧ t = h.now ∧ f = fate := by
  rw [List.zip_append hc.length_eq, ← hc.zip_eq] at hin
  exact (List.mem_append.1 hin).imp_right fun hin => by simpa using hin

/-- there are no more pings than attempts, so that the next one does not come early either -/
theorem Beating.ping_late (hb : Beating interval patience begun settled entered h) {past : List Nat} {b : Nat}
    (hc : Current interval patience begun settled h past b) : (entered.length + 1) * interval ≤ h.now := by
  have hfew : entered.length ≤ settled.length := by
    rw [hb.entered_eq, List.length_map]
    exact List.length_filter_le _ _
  calc (entered.length + 1) * interval ≤ (settled.length + 1) * interval :=
        Nat.mul_le_mul_right _ (Nat.succ_le_succ hfew)
    _ ≤ b := hc.late
    _ ≤ h.now := hc.le_now

/-- the next beat comes at least one interval later, if an attempt begins -/
theorem Beating.next_turn (hb : Beating interval patience begun settled entered h) {b : Heartbeat}
    (hs : Settings h b) (hrunning : h.heartbeat.running = true) (hr : b.running = true) :
    ((begun ++ if h.begins then [h.now] else []).length + 1) * interval ≤ b.deadline := by
  have hnext := hb.next hrunning
  rw [hs.deadline hr]
  by_cases hbegins : h.begins = true
  · have hlater := add_le_nextDeadline h.heartbeat.deadline h.heartbeat.interval h.now
    rw [hb.interval_eq] at hlater
    rw [if_pos hbegins, if_pos hbegins, List.length_append, List.length_singleton, Nat.succ_mul, hb.interval_eq]
    omega
  · rw [if_neg hbegins, if_neg hbegins, List.append_nil]
    exact hnext

theorem Beating.begun_turn (hb : Beating interval patience begun settled entered h) :
    (∀ k b, (begun ++ if h.begins then [h.now] else [])[k]? = some b → (k + 1) * interval ≤ b) ∧
      ∀ b ∈ begun ++ (if h.begins then [h.now] else []), b ≤ h.now := by
  by_cases hbegins : h.begins = true
  swap
  · rw [if_neg hbegins, List.append_nil]
    exact ⟨hb.begun_late, hb.begun_past⟩
  rw [if_pos hbegins]
  obtain ⟨hr, -, -, hd, -⟩ := begins_eq_true.1 hbegins
  constructor
  · exact getElem?_concat (P := fun k b => (k + 1) * interval ≤ b) hb.begun_late (Nat.le_trans (hb.next hr) hd)
  · intro b hin
    rcases List.mem_append.1 hin with hin | hin
    · exact hb.begun_past b hin
    · exact Nat.le_of_eq (List.mem_singleton.1 hin)

theorem settling_sending (hk : k.relay.line .heartbeat ≠ []) : settling h k = [] := by
  simp [settling, isSending, hk]

theorem settling_idle (hbegins : h.begins = false) (hl : h.relay.line .heartbeat = []) : settling h k = [] := by
  simp [settling, isSending, hbegins, hl]

/-- in a turn that changes nothing, no attempt ends -/
theorem settling_asleep (hb : Beating interval patience begun settled entered h) (hbegins : h.begins = false) :
    settling h h = [] := by
  cases hw : h.heartbeat.waiting with
  | false => exact settling_idle hbegins (hb.idle hw).1
  | true =>
    obtain ⟨-, -, b, -, -, hline⟩ := hb.sending hw
    exact settling_sending (by simp [hline])

theorem entering_same (hq : k.relay.queue = h.relay.queue) : entering h k = [] := by
  simp [entering, hq]

/-- a turn in which an attempt ends tells how -/
theorem settling_fate (hb : Beating interval patience begun settled entered h)
    (began : h.begins = true ∨ h.heartbeat.waiting = true) (hl : k.relay.line .heartbeat = []) {fate : Fate}
    (hq : k.relay.queue = h.relay.queue ++ if fate = .sent then [.ping] else [])
    (hr : k.heartbeat.running = decide (fate ≠ .abandoned)) : settling h k = [(h.now, fate)] := by
  have hsending : (h.begins || h.isSending) = true := by
    rw [Bool.or_eq_true]
    refine began.imp_right fun hw => ?_
    obtain ⟨-, -, b, -, -, hline⟩ := hb.sending hw
    simp [isSending, hline]
  rw [settling, hsending, hq, hr]
  cases fate <;> simp [isSending, hl]

theorem entering_fate {fate : Fate} (hq : k.relay.queue = h.relay.queue ++ if fate = .sent then [.ping] else []) :
    entering h k = ([(h.now, fate)].filter fun x => x.2 = .sent).map fun x => (x.1, .ping) := by
  rw [entering, hq, List.drop_left]
  cases fate <;> rfl

/-- **A turn of the heartbeat's task keeps what holds of its attempts.** -/
theorem beating_turn (hb : Beating interval patience begun settled entered h) (hk : Turned h k) :
    Beating interval patience (begun ++ if h.begins then [h.now] else []) (settled ++ settling h k)
      (entered ++ entering h k) k := by
  obtain ⟨hlate, hpast⟩ := hb.begun_turn
  cases hk with
  | slept asleep begins =>
    rw [settling_asleep hb begins, entering_same rfl, begins]
    simpa using hb
  | ended begins settings was waiting running line queue =>
    obtain ⟨hline, hlen⟩ := hb.idle was
    rw [settling_idle begins hline, entering_same queue, begins]
    refine ⟨settings.interval.trans hb.interval_eq, settings.patience.trans hb.patience_eq,
      fun hr => absurd hr (by simp [running]), fun _ => ⟨line, by simpa using hlen⟩,
      fun hw => absurd hw (by simp [waiting]), by simpa using hb.begun_late, by simpa using hb.begun_past,
      by simpa using hb.ordered, by simpa using hb.entered_eq, by simpa using hb.entered_late⟩
  | lined begins settings waiting running line queue =>
    obtain ⟨hrunning, -, hw, -, -⟩ := begins_eq_true.1 begins
    obtain ⟨-, hlen⟩ := hb.idle hw
    have hnext := hb.next_turn settings hrunning
    rw [settling_sending (by simp [line]), entering_same queue, List.append_nil, List.append_nil]
    rw [begins, if_pos rfl] at hlate hpast hnext ⊢
    refine ⟨settings.interval.trans hb.interval_eq, settings.patience.trans hb.patience_eq, hnext,
      fun hw => absurd hw (by simp [waiting]), fun _ => ⟨running, begun, h.now, rfl, hlen, ?_⟩, hlate, hpast, ?_,
      hb.entered_eq, hb.entered_late⟩
    · rw [line, hb.patience_eq]
    · rw [zip_concat_left hlen]
      exact hb.ordered
  | settled fate began settings waiting running line queue place late =>
    obtain ⟨past, b, hc⟩ := hb.current began
    have hrunning : h.heartbeat.running = true :=
      began.elim (fun hbegins => (begins_eq_true.1 hbegins).1) fun hw => (hb.sending hw).1
    have hnext := hb.next_turn settings hrunning
    rw [settling_fate hb began line queue running, entering_fate queue]
    rw [hc.begun_eq] at hlate hpast hnext ⊢
    refine ⟨settings.interval.trans hb.interval_eq, settings.patience.trans hb.patience_eq, hnext,
      fun _ => ⟨line, by simp [hc.length_eq]⟩, fun hw => absurd hw (by simp [waiting]), hlate, hpast, ?_, ?_, ?_⟩
    · intro b' t f hin
      rcases hc.of_mem_zip hin with hin | ⟨rfl, rfl, rfl⟩
      · exact hb.ordered b' t f hin
      · refine ⟨hc.le_now, fun hskipped => ?_⟩
        obtain ⟨offer, ho, hlimit⟩ := late hskipped
        exact (hc.limit offer ho) ▸ hlimit
    · rw [hb.entered_eq, List.filter_append, List.map_append]
    · cases fate with
      | sent =>
        have hbefore : ∀ i x, entered[i]? = some x → (i + 1) * interval ≤ x.1 := fun i x hin =>
          hb.entered_late i x.1 x.2 hin
        exact fun i t e => getElem?_concat (P := fun i x => (i + 1) * interval ≤ x.1) hbefore (hb.ping_late hc) i (t, e)
      | skipped | abandoned => simpa using hb.entered_late

theorem beating_act (hb : Beating interval patience begun settled entered h) (i : Input) :
    Beating interval patience (begun ++ i.atTurn (if h.begins then [h.now] else []))
      (settled ++ i.atTurn (settling h h.turn)) (entered ++ i.atTurn (entering h h.turn)) (h.act i) := by
  by_cases hi : i = .turn
  · subst hi
    exact beating_turn hb (turned hb.tidy)
  · obtain ⟨hsame, hline, hnow⟩ := act_apart (h := h) hi
    rw [Input.atTurn_of_ne hi, Input.atTurn_of_ne hi, Input.atTurn_of_ne hi, List.append_nil, List.append_nil,
      List.append_nil]
    exact hb.apart hsame hline (hnow ▸ Nat.le_add_right _ _)

end

section

variable {capacity interval patience : Nat}

theorem start_eq (hs : start capacity interval patience = .ok h) : ∃ relay, Relay.create capacity = .ok relay ∧
    { relay, heartbeat := .start interval patience 0 } = h := by
  unfold start at hs
  cases hr : Relay.create capacity with
  | error overflow => simp [hr, Except.map] at hs
  | ok relay => exact ⟨relay, rfl, by simpa [hr, Except.map] using hs⟩

theorem beating_start (hs : start capacity interval patience = .ok h) : Beating interval patience [] [] [] h := by
  obtain ⟨relay, hr, rfl⟩ := start_eq hs
  refine ⟨rfl, rfl, fun _ => ?_, fun _ => ⟨?_, rfl⟩, nofun, nofun, nofun, nofun, rfl, nofun⟩
  · simp [Heartbeat.start]
  · simp [Relay.line, (Relay.create_eq hr).1]

/-- **What holds of the attempts holds after whatever happened.** -/
theorem beating_run (hs : start capacity interval patience = .ok h) (inputs : List Input) :
    Beating interval patience (begun h inputs) (settled h inputs) (entered h inputs) (h.run inputs) := by
  induction inputs using List.reverseRecOn with
  | nil => exact beating_start hs
  | append_singleton inputs i ih =>
    unfold begun settled entered
    rw [Trace.record_concat, Trace.record_concat, Trace.record_concat, run_concat]
    exact beating_act ih i

end

/-! ## A heartbeat that is woken in time -/

/-- the times at which the heartbeat wants to be woken -/
def timers (h : TimedHeartbeat) : List Nat :=
  h.heartbeat.deadlines ++ (h.relay.line .heartbeat).map (·.deadline)

/-- whether time passes only while the heartbeat sleeps, and not beyond the next of its timers -/
def Input.isPunctual (h : TimedHeartbeat) : Input → Bool
  | .wait ms => h.step.isNone && h.timers.all fun d => h.now + ms ≤ d
  | _ => true

/-- whether the heartbeat is always woken in time -/
def isPunctual (h : TimedHeartbeat) : List Input → Bool
  | [] => true
  | i :: inputs => i.isPunctual h && (h.act i).isPunctual inputs

theorem isPunctual_append (h : TimedHeartbeat) (a b : List Input) :
    h.isPunctual (a ++ b) = (h.isPunctual a && (h.run a).isPunctual b) := by
  induction a generalizing h with
  | nil => rfl
  | cons i a ih => simp only [List.cons_append, isPunctual, ih, Bool.and_assoc, run, Trace.run_cons]

/-- no attempt has lasted longer than the heartbeat's patience -/
structure InTime (patience : Nat) (begun : List Nat) (settled : List (Nat × Fate)) (h : TimedHeartbeat) : Prop where
  sending : h.heartbeat.waiting = true → ∀ b ∈ begun.getLast?, h.now ≤ b + patience
  settled : ∀ b t fate, (b, t, fate) ∈ begun.zip settled → t ≤ b + patience

section

variable {interval patience : Nat} {begun : List Nat} {settled : List (Nat × Fate)} {entered : List (Nat × Event)}
  {k : TimedHeartbeat}

theorem inTime_turn (hb : Beating interval patience begun settled entered h) (ht : InTime patience begun settled h)
    (hk : Turned h k) : InTime patience (begun ++ if h.begins then [h.now] else []) (settled ++ settling h k) k := by
  have hafter := beating_turn hb hk
  cases hk with
  | slept asleep begins =>
    rw [settling_asleep hb begins, begins]
    simpa using ht
  | ended begins settings was waiting running line queue =>
    rw [settling_idle begins (hb.idle was).1, begins]
    exact ⟨fun hw => absurd hw (by simp [waiting]), by simpa using ht.settled⟩
  | lined begins settings waiting running line queue =>
    obtain ⟨-, -, hw, -, -⟩ := begins_eq_true.1 begins
    rw [settling_sending (by simp [line]), begins, if_pos rfl, List.append_nil]
    refine ⟨fun _ b hin => ?_, ?_⟩
    · obtain rfl : h.now = b := by simpa using hin
      exact Nat.le_add_right _ _
    · rw [zip_concat_left (hb.idle hw).2]
      exact ht.settled
  | settled fate began settings waiting running line queue place late =>
    obtain ⟨past, b, hc⟩ := hb.current began
    rw [settling_fate hb began line queue running, hc.begun_eq]
    refine ⟨fun hw => absurd hw (by simp [waiting]), fun b' t f hin => ?_⟩
    rcases hc.of_mem_zip hin with hin | ⟨rfl, rfl, rfl⟩
    · exact ht.settled b' t f hin
    · rcases hc.origin with rfl | ⟨hw, hbegun⟩
      · exact Nat.le_add_right _ _
      · exact ht.sending hw b' (by simp [hbegun])

theorem inTime_act (hb : Beating interval patience begun settled entered h) (ht : InTime patience begun settled h)
    {i : Input} (hi : i.isPunctual h = true) : InTime patience (begun ++ i.atTurn (if h.begins then [h.now] else []))
      (settled ++ i.atTurn (settling h h.turn)) (h.act i) := by
  by_cases hturn : i = .turn
  · subst hturn
    exact inTime_turn hb ht (turned hb.tidy)
  · obtain ⟨hsame, -, hnow⟩ := act_apart (h := h) hturn
    rw [Input.atTurn_of_ne hturn, Input.atTurn_of_ne hturn, List.append_nil, List.append_nil]
    refine ⟨fun hw b hin => ?_, ht.settled⟩
    rw [hsame] at hw
    rw [hnow]
    cases i with
    | wait ms =>
      -- the time limit of the attempt is one of the timers
      obtain ⟨-, hearly⟩ := Bool.and_eq_true_iff.1 hi
      obtain ⟨-, past, b', hbegun, -, hline⟩ := hb.sending hw
      obtain rfl : b' = b := by simpa [hbegun] using hin
      have hle := List.all_eq_true.1 hearly (b' + patience) (by simp [timers, hline])
      exact of_decide_eq_true hle
    | _ => exact ht.sending hw b hin

end

section

variable {capacity interval patience : Nat}

/-- **No attempt lasts longer than the heartbeat's patience**, if the heartbeat is always woken in time. -/
theorem inTime_run (hs : start capacity interval patience = .ok h) {inputs : List Input}
    (hp : h.isPunctual inputs = true) : InTime patience (begun h inputs) (settled h inputs) (h.run inputs) := by
  induction inputs using List.reverseRecOn with
  | nil => exact ⟨fun _ => nofun, nofun⟩
  | append_singleton inputs i ih =>
    rw [isPunctual_append, Bool.and_eq_true] at hp
    obtain ⟨hbefore, hlast⟩ := hp
    unfold begun settled
    rw [Trace.record_concat, Trace.record_concat, run_concat]
    refine inTime_act (beating_run hs inputs) (ih hbefore) ?_
    simpa [isPunctual] using hlast

end

end ChainFeed.TimedHeartbeat
