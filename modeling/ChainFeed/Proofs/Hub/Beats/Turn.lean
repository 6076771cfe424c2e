/-
One turn of the heartbeat's task.

- `Relay.attempt_ended`: why an attempt to put an event in ends.
- `Heartbeat.offered`: what it comes to that a ping is offered, or goes on being offered.
- `turned`: what a turn comes to, with every way in which an attempt or the heartbeat itself can end.
-/
import ChainFeed.Hub.Timers
import ChainFeed.Proofs.Hub.Tasks

namespace ChainFeed

theorem add_le_nextDeadline (deadline interval now : Nat) :
    deadline + interval ≤ nextDeadline deadline interval now := by
  unfold nextDeadline
  split_ifs <;> omega

/-- why an attempt ends: there is a place for what was in line, the time is up, or the relay is closed -/
theorem Relay.attempt_ended {r r' : Relay} {o : Origin} {e : Event} {now patience : Nat} {outcome : Outcome}
    (hr : r.attempt o e now patience = some (r', some outcome)) :
    (outcome = .accepted → r.line o ≠ [] → r.hasPlace o = true) ∧ (outcome = .refused → r.receiving = false) ∧
      (outcome = .timedOut → ∃ offer, (r.line o).head? = some offer ∧ offer.deadline ≤ now) := by
  unfold attempt at hr
  rw [offer?_eq_head?] at hr
  by_cases hclosed : (!r.receiving) = true
  · rw [if_pos hclosed] at hr
    cases hr
    exact ⟨nofun, fun _ => by simpa using hclosed, nofun⟩
  rw [if_neg hclosed] at hr
  cases ho : (r.line o).head? with
  | none =>
    simp only [ho] at hr
    split_ifs at hr <;> cases hr
    exact ⟨fun _ hline => absurd (List.head?_eq_none_iff.1 ho) hline, nofun, nofun⟩
  | some offer =>
    simp only [ho] at hr
    split_ifs at hr with hplace hlate <;> cases hr
    · exact ⟨fun _ _ => hplace, nofun, nofun⟩
    · exact ⟨nofun, nofun, fun _ => ⟨offer, rfl, hlate⟩⟩

theorem Relay.create_eq {capacity : Nat} {r : Relay} (hr : Relay.create capacity = .ok r) :
    r.waiting = [] ∧ r.receiving = true := by
  unfold create at hr
  cases hq : queuePlaces capacity with
  | error overflow => simp [hq, Except.map] at hr
  | ok places =>
    simp only [hq, Except.map, Except.ok.injEq] at hr
    subst hr
    exact ⟨rfl, rfl⟩

namespace Heartbeat

/-- how an attempt to send a ping ends -/
inductive Fate where
  | sent
  /-- there was no room in time -/
  | skipped
  /-- the heartbeat has ended -/
  | abandoned
deriving DecidableEq

/-- what it comes to that a ping is offered, or goes on being offered -/
inductive Offered (b : Heartbeat) (r : Relay) (now : Nat) : Heartbeat → Relay → Prop
  | lined {r' : Relay} (free : r.line .heartbeat = [])
      (line : r'.line .heartbeat = [⟨.heartbeat, .ping, now + b.patience⟩]) (queue : r'.queue = r.queue) :
      Offered b r now { b with waiting := true } r'
  | sent {r' : Relay} (line : r'.line .heartbeat = []) (queue : r'.queue = r.queue ++ [.ping])
      (place : r.line .heartbeat ≠ [] → r.hasPlace .heartbeat = true) : Offered b r now { b with waiting := false } r'
  | skipped {r' : Relay} (line : r'.line .heartbeat = []) (queue : r'.queue = r.queue)
      (late : ∃ offer, (r.line .heartbeat).head? = some offer ∧ offer.deadline ≤ now) :
      Offered b r now { b with waiting := false } r'
  | refused {r' : Relay} (line : r'.line .heartbeat = []) (queue : r'.queue = r.queue)
      (closed : r.receiving = false) : Offered b r now { b with waiting := false, running := false } r'

theorem offered {b b' : Heartbeat} {r r' : Relay} {now : Nat}
    (hl : r.line .heartbeat = [] ∨ ∃ d, r.line .heartbeat = [⟨.heartbeat, .ping, d⟩])
    (hb : b.beat r now = some (b', r')) : b.Offered r now b' r' := by
  unfold beat at hb
  rcases ha : r.attempt .heartbeat .ping now b.patience with _ | ⟨r₁, outcome⟩
  · simp [ha] at hb
  rw [ha] at hb
  have hattempted := Relay.attempted hl ha
  rcases outcome with _ | outcome
  · cases hb
    obtain ⟨free, line, queue⟩ := hattempted
    exact .lined free line queue
  obtain ⟨hplace, hclosed, hlate⟩ := Relay.attempt_ended ha
  cases outcome with
  | accepted =>
    cases hb
    cases hattempted with
    | entered line queue => exact .sent line queue (hplace rfl)
    | failed other => exact absurd rfl other
  | timedOut =>
    cases hb
    cases hattempted with
    | failed _ line queue => exact .skipped line queue (hlate rfl)
  | refused =>
    cases hb
    cases hattempted with
    | failed _ line queue => exact .refused line queue (hclosed rfl)

/-- a heartbeat that goes on waiting has its ping in line, and not beyond its time -/
theorem beat_eq_none {b : Heartbeat} {r : Relay} {now : Nat} (hb : b.beat r now = none) :
    ∃ offer, (r.line .heartbeat).head? = some offer ∧ now < offer.deadline := by
  unfold beat at hb
  rcases ha : r.attempt .heartbeat .ping now b.patience with _ | ⟨r₁, _ | _ | _ | _⟩
  · exact Relay.attempt_eq_none ha
  all_goals simp [ha] at hb

end Heartbeat

namespace TimedHeartbeat

open Heartbeat (Fate)

/-- whether the heartbeat begins an attempt when it gets its turn: a beat has come, and someone else can still send -/
def begins (h : TimedHeartbeat) : Bool :=
  h.heartbeat.running && !h.shutdown && !h.heartbeat.waiting && decide (h.heartbeat.deadline ≤ h.now) && h.held

/-- whether an attempt is under way -/
def isSending (h : TimedHeartbeat) : Bool :=
  !(h.relay.line .heartbeat).isEmpty

/-- the heartbeat after a turn of its task -/
def turn (h : TimedHeartbeat) : TimedHeartbeat :=
  h.step.getD h

/-- the heartbeat has in line what it waits for -/
structure Tidy (h : TimedHeartbeat) : Prop where
  idle : h.heartbeat.waiting = false → h.relay.line .heartbeat = []
  sending : h.heartbeat.waiting = true →
    h.heartbeat.running = true ∧ ∃ d, h.relay.line .heartbeat = [⟨.heartbeat, .ping, d⟩]

/-- it waits if and only if it has something in line -/
theorem Tidy.waiting_iff {h : TimedHeartbeat} (ht : h.Tidy) :
    h.heartbeat.waiting = true ↔ h.relay.line .heartbeat ≠ [] := by
  constructor
  · intro hw
    obtain ⟨-, d, hline⟩ := ht.sending hw
    simp [hline]
  · intro hline
    by_contra hw
    exact hline (ht.idle (by simpa using hw))

/-- a heartbeat with the same settings, for which the next beat comes later if an attempt begins -/
structure Settings (h : TimedHeartbeat) (b : Heartbeat) : Prop where
  interval : b.interval = h.heartbeat.interval
  patience : b.patience = h.heartbeat.patience
  deadline : b.running = true → b.deadline =
    if h.begins then nextDeadline h.heartbeat.deadline h.heartbeat.interval h.now else h.heartbeat.deadline

/-- what a turn of the heartbeat's task comes to -/
inductive Turned (h : TimedHeartbeat) : TimedHeartbeat → Prop
  | slept (asleep : h.step = none) (begins : h.begins = false) : Turned h h
  /-- it ends between two attempts -/
  | ended {b : Heartbeat} {r : Relay} (begins : h.begins = false) (settings : Settings h b)
      (was : h.heartbeat.waiting = false) (waiting : b.waiting = false) (running : b.running = false)
      (line : r.line .heartbeat = []) (queue : r.queue = h.relay.queue)
      (cause : h.shutdown = true ∨ h.held = false ∧ h.heartbeat.deadline ≤ h.now) :
      Turned h { h with heartbeat := b, relay := r }
  /-- an attempt begins that finds no room -/
  | lined {b : Heartbeat} {r : Relay} (begins : h.begins = true) (settings : Settings h b)
      (waiting : b.waiting = true) (running : b.running = true)
      (line : r.line .heartbeat = [⟨.heartbeat, .ping, h.now + h.heartbeat.patience⟩])
      (queue : r.queue = h.relay.queue) : Turned h { h with heartbeat := b, relay := r }
  /-- an attempt ends, which may have begun just now -/
  | settled {b : Heartbeat} {r : Relay} (fate : Fate) (began : h.begins = true ∨ h.heartbeat.waiting = true)
      (settings : Settings h b) (waiting : b.waiting = false) (running : b.running = decide (fate ≠ .abandoned))
      (line : r.line .heartbeat = []) (queue : r.queue = h.relay.queue ++ if fate = .sent then [.ping] else [])
      (place : fate = .sent → h.relay.line .heartbeat ≠ [] → h.relay.hasPlace .heartbeat = true)
      (late : fate = .skipped → ∃ offer, (h.relay.line .heartbeat).head? = some offer ∧ offer.deadline ≤ h.now)
      (cause : fate = .abandoned → h.shutdown = true ∨ h.relay.receiving = false) :
      Turned h { h with heartbeat := b, relay := r }

variable {h : TimedHeartbeat}

theorem begins_eq_true : h.begins = true ↔ h.heartbeat.running = true ∧ h.shutdown = false ∧
    h.heartbeat.waiting = false ∧ h.heartbeat.deadline ≤ h.now ∧ h.held = true := by
  simp [begins, and_assoc]

theorem Settings.of_ended {b : Heartbeat} (interval : b.interval = h.heartbeat.interval)
    (patience : b.patience = h.heartbeat.patience) (running : b.running = false) : Settings h b :=
  ⟨interval, patience, fun hr => absurd hr (by simp [running])⟩

/-- the attempt that is under way ends with the heartbeat -/
theorem turned_abandoned {b : Heartbeat} {r : Relay} (began : h.begins = true ∨ h.heartbeat.waiting = true)
    (settings : Settings h b) (waiting : b.waiting = false) (running : b.running = false)
    (line : r.line .heartbeat = []) (queue : r.queue = h.relay.queue)
    (cause : h.shutdown = true ∨ h.relay.receiving = false) : Turned h { h with heartbeat := b, relay := r } :=
  .settled .abandoned began settings waiting running line (by simpa using queue) nofun nofun fun _ => cause

/-- an offer ends the turn in the same ways, whether the attempt begins with it or not -/
theorem turned_offered {b b' : Heartbeat} {r' : Relay} (ht : h.Tidy) (hr : h.heartbeat.running = true)
    (hb : b = { h.heartbeat with deadline :=
      if h.begins then nextDeadline h.heartbeat.deadline h.heartbeat.interval h.now else h.heartbeat.deadline })
    (began : h.begins = true ∨ h.heartbeat.waiting = true) (ho : b.Offered h.relay h.now b' r') :
    Turned h { h with heartbeat := b', relay := r' } := by
  subst hb
  cases ho with
  | lined free line queue =>
    -- an attempt that was under way has its offer in line
    have hbegins : h.begins = true := by
      refine began.resolve_right fun hw => ?_
      obtain ⟨-, d, hd⟩ := ht.sending hw
      rw [free] at hd
      cases hd
    exact .lined hbegins ⟨rfl, rfl, fun _ => rfl⟩ rfl hr line queue
  | sent line queue place =>
    exact .settled .sent began ⟨rfl, rfl, fun _ => rfl⟩ rfl hr line queue (fun _ => place) nofun nofun
  | skipped line queue late =>
    exact .settled .skipped began ⟨rfl, rfl, fun _ => rfl⟩ rfl hr line (by simpa using queue) nofun (fun _ => late)
      nofun
  | refused line queue closed =>
    exact turned_abandoned began (.of_ended rfl rfl rfl) rfl rfl line queue (Or.inr closed)

theorem step_eq_none : h.step = none ↔ h.heartbeat.step h.relay h.now h.held h.shutdown = none :=
  Option.map_eq_none_iff

theorem step_running {k : TimedHeartbeat} (hk : h.step = some k) : h.heartbeat.running = true := by
  obtain ⟨x, hx, -⟩ := Option.map_eq_some_iff.1 hk
  exact (Heartbeat.step_kept hx).1

/-- a heartbeat that sleeps does not begin an attempt -/
theorem begins_asleep (ht : h.Tidy) (hs : h.step = none) : h.begins = false := by
  by_contra hne
  obtain ⟨hr, hshutdown, hw, hd, hheld⟩ := begins_eq_true.1 (by simpa using hne)
  have hnone := step_eq_none.1 hs
  simp only [Heartbeat.step, hr, hshutdown, hw, hd, hheld, Bool.not_true, Bool.false_eq_true, if_false,
    if_true] at hnone
  obtain ⟨offer, ho, -⟩ := Heartbeat.beat_eq_none hnone
  rw [ht.idle hw] at ho
  cases ho

/-- **What a turn of the heartbeat's task comes to.** -/
theorem turned (ht : h.Tidy) : Turned h h.turn := by
  have hline : h.relay.line .heartbeat = [] ∨ ∃ d, h.relay.line .heartbeat = [⟨.heartbeat, .ping, d⟩] := by
    cases hw : h.heartbeat.waiting with
    | false => exact Or.inl (ht.idle hw)
    | true => exact Or.inr (ht.sending hw).2
  cases hstep : h.step with
  | none =>
    rw [turn, hstep]
    exact .slept hstep (begins_asleep ht hstep)
  | some k =>
    rw [turn, hstep, Option.getD_some]
    have hr := step_running hstep
    obtain ⟨⟨b, r⟩, hx, rfl⟩ := Option.map_eq_some_iff.1 hstep
    unfold Heartbeat.step at hx
    rw [if_neg (by simp [hr])] at hx
    by_cases hs : h.shutdown = true
    · rw [if_pos hs] at hx
      cases hx
      have hbegins : h.begins = false := by simp [begins, hs]
      by_cases hw : h.heartbeat.waiting = true
      · exact turned_abandoned (Or.inr hw) (.of_ended rfl rfl rfl) rfl rfl (Relay.line_withdraw _ _) rfl (Or.inl hs)
      · exact .ended hbegins (.of_ended rfl rfl rfl) (by simpa using hw) rfl rfl (Relay.line_withdraw _ _) rfl
          (Or.inl hs)
    rw [if_neg hs] at hx
    by_cases hw : h.heartbeat.waiting = true
    · have hbegins : h.begins = false := by simp [begins, hw]
      rw [if_pos hw] at hx
      refine turned_offered ht hr ?_ (Or.inr hw) (Heartbeat.offered hline hx)
      rw [hbegins]
      rfl
    rw [if_neg hw] at hx
    have hidle : h.heartbeat.waiting = false := by simpa using hw
    by_cases hd : h.heartbeat.deadline ≤ h.now
    · rw [if_pos hd] at hx
      by_cases hheld : h.held = true
      · have hbegins : h.begins = true := begins_eq_true.2 ⟨hr, by simpa using hs, hidle, hd, hheld⟩
        simp only [if_pos hheld] at hx
        refine turned_offered ht hr ?_ (Or.inl hbegins) (Heartbeat.offered hline hx)
        rw [hbegins]
        rfl
      · have hgone : h.held = false := by simpa using hheld
        simp only [if_neg hheld] at hx
        cases hx
        have hbegins : h.begins = false := by simp [begins, hgone]
        exact .ended hbegins (.of_ended rfl rfl rfl) hidle hidle rfl (ht.idle hidle) rfl (Or.inr ⟨hgone, hd⟩)
    · rw [if_neg hd] at hx
      cases hx

theorem tidy_turned {k : TimedHeartbeat} (ht : h.Tidy) (hk : Turned h k) : k.Tidy := by
  cases hk with
  | slept => exact ht
  | ended _ _ _ waiting _ line => exact ⟨fun _ => line, fun hw => absurd hw (by simp [waiting])⟩
  | lined _ _ waiting running line => exact ⟨fun hw => absurd hw (by simp [waiting]), fun _ => ⟨running, _, line⟩⟩
  | settled _ _ _ waiting _ line => exact ⟨fun _ => line, fun hw => absurd hw (by simp [waiting])⟩

end TimedHeartbeat

end ChainFeed
