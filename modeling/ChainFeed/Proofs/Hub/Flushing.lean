/-
When the hub flushes: full buffers, and deadlines of the flush timer.

A hub with a clock (`TimedHub`) goes on by steps of its own or of others, and by waiting. Time is virtual: nobody waits
past a deadline of the timer, or while the timer still has something to do (`isPrompt`). Then its deadlines are whole
intervals after the last restart, and its flag tells whether one of them came after the last flush. Main statements:
- `Ticker.Rhythm`: the timer between two restarts; `Ticker.due_iff`: what its flag tells.
- `ticker_handle`: what an event does to the timer.
- `steady_step`, `steady_run`: every prompt step keeps the rhythm, and so does every prompt run.
- `quiet_of_sound`: without a flush a transaction reaches no channel.
- `flushes_exactly`: a transaction causes a flush if and only if a buffer is full with it, or a deadline came since the
  last flush.
-/
import ChainFeed.Proofs.Hub.Accounting
import ChainFeed.Proofs.Hub.Signals

namespace ChainFeed

/-! ## The timer between two restarts -/

namespace Ticker

/-- a timer that was restarted at the time `start`, at a time `now`, when it has served `served` deadlines since then
and the last flush was at the time `flush` -/
structure Rhythm (t : Ticker) (interval now start flush served : Nat) : Prop where
  running : t.running = true
  going : t.stopping = false
  interval_eq : t.interval = interval
  start_le : start ≤ flush
  flush_le : flush ≤ now
  served_le : start + served * interval ≤ now
  now_le : now ≤ t.deadline
  flush_lt : flush < t.deadline
  /-- the next deadline is one interval after the last one -/
  regular : t.resets = 0 → t.deadline = start + (served + 1) * interval
  /-- a restart that the timer has not seen yet was asked for at this time -/
  restarting : t.resets ≠ 0 → start = now ∧ now < t.deadline
  due : t.due = true ↔ flush < start + served * interval

section

variable {t t' : Ticker} {interval now start flush served : Nat}

theorem rhythm_start (hi : 0 < interval) : (Ticker.start interval now).Rhythm interval now now now 0 := by
  have hne : interval ≠ 0 := Nat.ne_of_gt hi
  constructor <;> simp [Ticker.start, hi, hne]

theorem rhythm_wait (hr : t.Rhythm interval now start flush served) (hs : t.step now = none) {ms : Nat}
    (hms : now + ms ≤ t.deadline) : t.Rhythm interval (now + ms) start flush served := by
  have hquiet : t.resets = 0 := by
    by_contra hne
    have hlt := (hr.restarting hne).2
    simp [step, hr.running, Nat.not_le.2 hlt, hne] at hs
  exact ⟨hr.running, hr.going, hr.interval_eq, hr.start_le, Nat.le_add_right_of_le hr.flush_le,
    Nat.le_add_right_of_le hr.served_le, hms, hr.flush_lt, hr.regular, fun hne => absurd hquiet hne, hr.due⟩

/-- a move of the timer serves its deadline, or a restart -/
theorem rhythm_step (hi : 0 < interval) (hr : t.Rhythm interval now start flush served) (hs : t.step now = some t') :
    ∃ served', t'.Rhythm interval now start flush served' := by
  unfold step at hs
  rw [if_neg (by simp [hr.running])] at hs
  by_cases hd : t.deadline ≤ now
  · -- the deadline is now, so that the next one is an interval later
    rw [if_pos hd] at hs
    cases hs
    have hnow : t.deadline = now := Nat.le_antisymm hd hr.now_le
    have hquiet : t.resets = 0 := by
      by_contra hne
      exact absurd (hr.restarting hne).2 (Nat.not_lt.2 hd)
    have hlast : start + (served + 1) * interval = now := (hr.regular hquiet).symm.trans hnow
    have hnext : nextDeadline t.deadline t.interval now = start + (served + 1 + 1) * interval := by
      rw [nextDeadline, if_neg (by omega), hr.interval_eq, hr.regular hquiet, Nat.succ_mul (served + 1), Nat.add_assoc]
    refine ⟨served + 1, hr.running, hr.going, hr.interval_eq, hr.start_le, hr.flush_le, Nat.le_of_eq hlast, ?_, ?_,
      fun _ => hnext, fun hne => absurd hquiet hne, ?_⟩
    · change now ≤ nextDeadline t.deadline t.interval now
      rw [hnext, Nat.succ_mul]
      omega
    · change flush < nextDeadline t.deadline t.interval now
      rw [hnext, Nat.succ_mul]
      have := hr.flush_le
      omega
    · rw [hlast]
      exact iff_of_true rfl (hnow ▸ hr.flush_lt)
  · rw [if_neg hd] at hs
    by_cases hn : t.resets = 0
    · simp [hn, hr.going] at hs
    · -- the restart was asked for at this time, so that no deadline came since then
      rw [if_pos hn] at hs
      cases hs
      obtain ⟨hstart, -⟩ := hr.restarting hn
      have hserved : served * interval = 0 := by
        have := hr.served_le
        omega
      refine ⟨0, hr.running, hr.going, hr.interval_eq, hr.start_le, hr.flush_le, ?_, ?_, ?_, ?_, ?_, ?_⟩
      · simp [hstart]
      · exact Nat.le_add_right _ _
      · change flush < now + t.interval
        have := hr.flush_le
        rw [hr.interval_eq]
        omega
      · intro _
        change now + t.interval = start + (0 + 1) * interval
        rw [hr.interval_eq, hstart]
        omega
      · intro _
        refine ⟨hstart, ?_⟩
        change now < now + t.interval
        rw [hr.interval_eq]
        omega
      · rw [Nat.zero_mul, ← hserved]
        exact hr.due

/-- a flush for a full buffer restarts the timer -/
theorem rhythm_reset (hr : t.Rhythm interval now start flush served) (hd : now < t.deadline) :
    t.reset.clear.Rhythm interval now now now 0 := by
  have hkeeps := (keeps_reset t).clear
  have hreset : t.reset.deadline = t.deadline ∧ t.reset.running = true ∧ t.reset.resets ≠ 0 := by
    unfold reset
    split_ifs with hroom
    · exact ⟨rfl, hr.running, Nat.succ_ne_zero _⟩
    · refine ⟨rfl, hr.running, fun hn => hroom ?_⟩
      simp [hr.running, hn, maxResets]
  obtain ⟨hdeadline, hrunning, hresets⟩ := hreset
  refine ⟨hrunning, hkeeps.stopping.trans hr.going, hkeeps.interval.trans hr.interval_eq, Nat.le_refl _, Nat.le_refl _,
    by simp, ?_, ?_, fun hn => absurd hn hresets, fun _ => ⟨rfl, ?_⟩, by simp [clear]⟩
  all_goals
    change _ ≤ t.reset.deadline
    rw [hdeadline]
    omega

/-- any other flush only lowers the flag -/
theorem rhythm_clear (hr : t.Rhythm interval now start flush served) (hd : now < t.deadline) :
    t.clear.Rhythm interval now start now served := by
  refine ⟨hr.running, hr.going, hr.interval_eq, Nat.le_trans hr.start_le hr.flush_le, Nat.le_refl _, hr.served_le,
    hr.now_le, hd, hr.regular, hr.restarting, ?_⟩
  simpa [clear] using hr.served_le

/-- **What the flag tells.** Between deadlines it is up if and only if a deadline came after the last flush. -/
theorem due_iff (hr : t.Rhythm interval now start flush served) (hi : 0 < interval) (hd : now < t.deadline) :
    t.due = true ↔ ∃ n, 0 < n ∧ flush < start + n * interval ∧ start + n * interval ≤ now := by
  rw [hr.due]
  constructor
  · intro hlt
    refine ⟨served, Nat.pos_of_ne_zero ?_, hlt, hr.served_le⟩
    rintro rfl
    have := hr.start_le
    omega
  · rintro ⟨n, hn, hlt, hle⟩
    have hn : n ≤ served := by
      by_cases hresets : t.resets = 0
      · rw [hr.regular hresets] at hd
        exact Nat.le_of_lt_succ (Nat.lt_of_mul_lt_mul_right (Nat.lt_of_add_lt_add_left (Nat.lt_of_le_of_lt hle hd)))
      · have hpos := Nat.mul_pos hn hi
        have := (hr.restarting hresets).1
        omega
    exact Nat.lt_of_lt_of_le hlt (Nat.add_le_add_left (Nat.mul_le_mul_right _ hn) _)

/-- the flag stays down for one interval after a restart -/
theorem restarted_le (hr : t.Rhythm interval now start flush served) (hdue : t.due = true) : start + interval ≤ now := by
  have hlt := hr.due.1 hdue
  have hpos : 1 ≤ served := by
    refine Nat.pos_of_ne_zero ?_
    rintro rfl
    have := hr.start_le
    omega
  calc start + interval ≤ start + served * interval := Nat.add_le_add_left (Nat.le_mul_of_pos_left _ hpos) _
    _ ≤ now := hr.served_le

end

end Ticker

/-! ## What an event does to the timer -/

/-- whether the event is about waiting transactions: one more of them, or a flush -/
def Event.isFlushing (e : Event) : Bool :=
  e.kind = .newTx || e.kind = .newTxs

namespace Hub

/-- whether an event fills the buffer of a registered client -/
def overflows (h : Hub) : Event → Bool
  | .newTx tx => tx.isValid && h.fills tx
  | _ => false

/-- a flush is made for a transaction, or by a flush that was published -/
theorem isFlushing_of_round? {h : Hub} {e : Event} (hr : h.round? e = some .newTxs) : e.isFlushing = true := by
  rcases round?_cases hr with ⟨-, -, -, ⟨rfl, -⟩ | ⟨-, tx, rfl, -⟩⟩
  · decide
  · simp [Event.isFlushing, Event.kind]

section

variable {h : Hub} (hr : h.registry.Nodup) (hc : h.connections = h.registry.length)
include hr hc

theorem ticker_broadcast (e : Event) : (h.broadcast e).ticker = h.ticker := by
  rw [broadcast_eq hr hc e]
  simp [setRegistry]

/-- **What an event does to the timer.** A flush lowers the flag, and restarts the interval if a buffer is full. No
other event touches the timer. -/
theorem ticker_handle (e : Event) : (h.handle e).ticker =
    if h.round? e = some .newTxs then (if h.overflows e then h.ticker.reset else h.ticker).clear else h.ticker := by
  have hh := handling hr e
  generalize h.round? e = r, h.handle e = k at hh
  cases hh with
  | discarded | dropped => rfl
  | @buffered tx _ _ hquiet =>
    have hf : h.fills tx = false := by
      simp only [flushes, Bool.or_eq_false_iff] at hquiet
      exact hquiet.1
    simp [announced, hf]
  | @flushed tx _ hv =>
    have ht := ticker_broadcast (h := h.announced tx) (by simpa using hr) (by simpa using hc) .newTxs
    have hk : (h.announced tx).flush.ticker = (h.announced tx).ticker.clear := congrArg Ticker.clear ht
    rw [hk]
    simp [announced, overflows, hv]
  | signalled => simp [flush, ticker_broadcast hr hc, overflows]
  | broadcast _ _ _ _ hplain => simp [ticker_broadcast hr hc, hplain]

end

theorem running_of_nextEvent? {h : Hub} {e : Event} (hn : h.nextEvent? = some e) : h.phase = .running := by
  unfold nextEvent? at hn
  split_ifs at hn with hp
  exact hp.1

/-- a turn does to the timer what its event does -/
theorem ticker_turn {h : Hub} (hs : Sound h) {e : Event} (hn : h.nextEvent? = some e) (now : Nat) :
    (h.apply (.turn now)).ticker =
      if h.round? e = some .newTxs then (if h.overflows e then h.ticker.reset else h.ticker).clear else h.ticker := by
  have hu := undertaken h now
  have he : h.errand? = some (.handle e) := errand?_of_nextEvent? hn
  rw [he] at hu
  generalize h.apply (.turn now) = k at hu
  cases hu with
  | handled relay => exact ticker_handle (h := { h with relay }) hs.registry_nodup hs.count e

/-- a turn without an event starts the timer, ends it with the hub, or leaves it alone -/
theorem ticker_idle {h : Hub} (hn : h.nextEvent? = none) (hp : h.phase ≠ .created) (now : Nat)
    (hrunning : (h.apply (.turn now)).phase = .running) :
    h.phase = .running ∧ (h.apply (.turn now)).ticker = h.ticker := by
  have ht := turn h now
  generalize h.apply (.turn now) = k at ht hrunning
  cases ht with
  | started _ hc => exact absurd hc hp
  | waited => exact ⟨hrunning, rfl⟩
  | closed => simp [drain_eq] at hrunning
  | enrolled hr => exact ⟨hr, rfl⟩
  | expelled hr =>
    refine ⟨hr, ?_⟩
    unfold expel
    split_ifs <;> simp [endSending, setRegistry]
  | handled hn' => simp [hn] at hn'
  | halted => cases hrunning

/-- what neither the hub nor the timer does leaves the timer alone -/
theorem ticker_act (h : Hub) {a : Act} (ht : a.asOp.isTurn = false) (hn : ∀ now, a ≠ .op (.tick now)) :
    (h.act a).ticker = h.ticker := by
  cases a with
  | arrive =>
    simp only [act, arrive]
    split
    · rfl
    · split_ifs <;> rfl
  | op o =>
    cases hq : o.isQuiet with
    | true =>
      have hm := machinery_apply h hq
      simp only [machinery, Prod.mk.injEq] at hm
      exact hm.2.1
    | false =>
      cases o with
      | publish => rfl
      | produce task now =>
        simp only [act, apply]
        cases hk : h.producerStep task now with
        | none => rfl
        | some k => exact (producerStep_kept hk).2.1
      | turn => cases ht
      | tick now => exact absurd rfl (hn now)
      | beat now =>
        simp only [act, apply, heartbeatStep]
        cases h.heartbeat.step h.relay now h.isHeld h.shutdown <;> rfl
      | _ => cases hq

theorem config_act {h : Hub} (hs : Sound h) (a : Act) : (h.act a).config = h.config := by
  cases a with
  | op o => exact config_apply hs o
  | arrive => exact (effect_frame (effect_act h (a := .arrive) rfl)).1

theorem sized_act {h : Hub} (hs : Sound h) (hz : Sized h) (a : Act) : Sized (h.act a) := by
  cases a with
  | op o => exact sized_apply hs hz o
  | arrive => exact sized_effect hz (effect_act h (a := .arrive) rfl)

/-- the operation made at a time; only what moves by the clock reads it -/
def Op.at (now : Nat) : Op → Op
  | .produce task _ => .produce task now
  | .turn _ => .turn now
  | .tick _ => .tick now
  | .beat _ => .beat now
  | o => o

def Act.at (now : Nat) : Act → Act
  | .op o => .op (o.at now)
  | .arrive => .arrive

end Hub

/-! ## A hub in virtual time -/

/-- a hub with a clock -/
structure TimedHub where
  now : Nat
  hub : Hub

namespace TimedHub

/-- something that happens to the hub at this time, or some time that passes -/
inductive Input where
  | act (a : Hub.Act)
  | wait (ms : Nat)

def step (c : TimedHub) : Input → TimedHub
  | .act a => { c with hub := c.hub.act (a.at c.now) }
  | .wait ms => { c with now := c.now + ms }

/-- the hub after a list of inputs -/
def run (c : TimedHub) (is : List Input) : TimedHub :=
  Trace.run step c is

/-- whether an input fits virtual time: time passes only when the timer of a running hub has nothing to do, and not
past its deadline; and no transaction or flush is handled at the very time of a deadline that is still to be served -/
def isPrompt (c : TimedHub) : Input → Bool
  | .act a => !(a.asOp.isTurn && c.hub.nextEvent?.any (·.isFlushing) && c.now = c.hub.ticker.deadline)
  | .wait ms => c.hub.phase ≠ .running ||
    (c.hub.ticker.step c.now).isNone && c.now + ms ≤ c.hub.ticker.deadline

/-- whether all inputs of a list fit -/
def isPunctual (c : TimedHub) : List Input → Bool
  | [] => true
  | i :: is => c.isPrompt i && (c.step i).isPunctual is

/-! ## What is noted along a run -/

/-- the time at which the hub is set going -/
def started (c : TimedHub) : Input → List Nat
  | .act a => if a.asOp.isTurn && c.hub.phase = .created then [c.now] else []
  | .wait _ => []

/-- the time at which the hub flushes, for whatever reason -/
def flushed (c : TimedHub) : Input → List Nat
  | .act a => if c.hub.roundOf? a.asOp = some .newTxs then [c.now] else []
  | .wait _ => []

/-- the time at which the hub flushes because a buffer is full -/
def filled (c : TimedHub) (i : Input) : List Nat :=
  (c.flushed i).filter fun _ => c.hub.nextEvent?.any c.hub.overflows

/-- the times at which the timer is started anew: when the hub is set going, and for a full buffer -/
def restarts (c : TimedHub) (is : List Input) : List Nat :=
  Trace.record step (fun c i => c.started i ++ c.filled i) c is

/-- the times of the flushes, from the start of the hub on, which counts as one -/
def flushes (c : TimedHub) (is : List Input) : List Nat :=
  Trace.record step (fun c i => c.started i ++ c.flushed i) c is

/-! ## The rhythm of a run -/

/-- what holds of a hub in virtual time whose timer was started anew at the times `restarts`, and which flushed at the
times `flushes` -/
structure Steady (c : TimedHub) (interval : Nat) (restarts flushes : List Nat) : Prop where
  sound : c.hub.Sound
  sized : c.hub.Sized
  interval_eq : c.hub.config.flushInterval = interval
  past : ∀ t ∈ restarts, t ≤ c.now
  beating : c.hub.phase = .running → ∃ start flush served, restarts.getLast? = some start ∧
    flushes.getLast? = some flush ∧ (∀ t ∈ restarts, t ≤ start) ∧
    c.hub.ticker.Rhythm interval c.now start flush served

section

variable {c : TimedHub} {interval : Nat} {restarts flushes : List Nat} (hi : 0 < interval)
  (hs : c.Steady interval restarts flushes)
include hs

theorem steady_wait {ms : Nat} (hp : c.isPrompt (.wait ms) = true) :
    (c.step (.wait ms)).Steady interval restarts flushes := by
  refine ⟨hs.sound, hs.sized, hs.interval_eq, fun t ht => Nat.le_add_right_of_le (hs.past t ht), ?_⟩
  intro hrunning
  obtain ⟨start, flush, served, hstart, hflush, hle, hr⟩ := hs.beating hrunning
  have hquiet : c.hub.ticker.step c.now = none ∧ c.now + ms ≤ c.hub.ticker.deadline := by
    have hx : c.hub.phase = .running := hrunning
    simpa [isPrompt, hx] using hp
  exact ⟨start, flush, served, hstart, hflush, hle, Ticker.rhythm_wait hr hquiet.1 hquiet.2⟩

include hi

/-- nothing but the hub's own turn notes anything, and only a move of the timer changes its rhythm -/
theorem steady_outside {a : Hub.Act} (ha : a.asOp.isTurn = false) :
    (c.step (.act a)).Steady interval restarts flushes := by
  have hat : (a.at c.now).asOp.isTurn = false := by
    cases a with
    | arrive => rfl
    | op o => cases o <;> first | rfl | cases ha
  have hframe := Hub.effect_frame (Hub.effect_act c.hub hat)
  refine ⟨Hub.sound_act hs.sound _, Hub.sized_act hs.sound hs.sized _, (congrArg _ hframe.1).trans hs.interval_eq,
    hs.past, ?_⟩
  intro hrunning
  obtain ⟨start, flush, served, hstart, hflush, hle, hr⟩ := hs.beating (hframe.2.1.symm.trans hrunning)
  by_cases htick : ∃ now, a = .op (.tick now)
  · obtain ⟨now, rfl⟩ := htick
    suffices hx : ∃ served', (c.step (.act (.op (.tick now)))).hub.ticker.Rhythm interval c.now start flush served' by
      obtain ⟨served', hr'⟩ := hx
      exact ⟨start, flush, served', hstart, hflush, hle, hr'⟩
    simp only [step, Hub.Act.at, Hub.Op.at, Hub.act, Hub.apply, Hub.tickerStep]
    cases ht : c.hub.ticker.step c.now with
    | none => exact ⟨served, hr⟩
    | some t => exact Ticker.rhythm_step hi hr ht
  · have hne : ∀ now, a.at c.now ≠ .op (.tick now) := by
      intro now he
      cases a with
      | arrive => cases he
      | op o =>
        cases o with
        | tick t => exact htick ⟨t, rfl⟩
        | _ => cases he
    refine ⟨start, flush, served, hstart, hflush, hle, ?_⟩
    change (c.hub.act (a.at c.now)).ticker.Rhythm _ _ _ _ _
    rw [Hub.ticker_act c.hub hat hne]
    exact hr

theorem steady_turn (now : Nat) (hp : c.isPrompt (.act (.op (.turn now))) = true) :
    (c.step (.act (.op (.turn now)))).Steady interval
      (restarts ++ (c.started (.act (.op (.turn now))) ++ c.filled (.act (.op (.turn now)))))
      (flushes ++ (c.started (.act (.op (.turn now))) ++ c.flushed (.act (.op (.turn now))))) := by
  have hconfig : (c.hub.act (.op (.turn c.now))).config.flushInterval = interval :=
    (congrArg _ (Hub.config_act hs.sound _)).trans hs.interval_eq
  have hsound := Hub.sound_act hs.sound (.op (.turn c.now))
  have hsized := Hub.sized_act hs.sound hs.sized (.op (.turn c.now))
  have hpast : ∀ t ∈ restarts ++ [c.now], t ≤ c.now := by
    intro t ht
    rcases List.mem_append.1 ht with ht | ht
    · exact hs.past t ht
    · exact Nat.le_of_eq (List.mem_singleton.1 ht)
  cases hn : c.hub.nextEvent? with
  | none =>
    have hquiet : c.flushed (.act (.op (.turn now))) = [] := by simp [flushed, Hub.Act.asOp, Hub.roundOf?, hn]
    rw [filled, hquiet, List.filter_nil, List.append_nil]
    by_cases hcreated : c.hub.phase = .created
    · have hnow : c.started (.act (.op (.turn now))) = [c.now] := by
        simp [started, Hub.Act.asOp, Hub.Op.isTurn, hcreated]
      have hk : c.hub.act (.op (.turn c.now)) = c.hub.start c.now := by simp [Hub.act, Hub.apply, Hub.step, hcreated]
      rw [hnow]
      refine ⟨hsound, hsized, hconfig, hpast, fun _ => ⟨c.now, c.now, 0, by simp, by simp, hpast, ?_⟩⟩
      change (c.hub.act (.op (.turn c.now))).ticker.Rhythm _ _ _ _ _
      rw [hk, Hub.start, hs.interval_eq]
      exact Ticker.rhythm_start hi
    · have hnone : c.started (.act (.op (.turn now))) = [] := by simp [started, hcreated]
      rw [hnone, List.append_nil, List.append_nil]
      refine ⟨hsound, hsized, hconfig, hs.past, fun hrunning => ?_⟩
      obtain ⟨hbefore, hticker⟩ := Hub.ticker_idle hn hcreated c.now hrunning
      change ∃ start flush served, _ ∧ _ ∧ _ ∧ (c.hub.apply (.turn c.now)).ticker.Rhythm _ _ _ _ _
      rw [hticker]
      exact hs.beating hbefore
  | some e =>
    have hrunning := Hub.running_of_nextEvent? hn
    have hticker := Hub.ticker_turn hs.sound hn c.now
    obtain ⟨start, flush, served, hstart, hflush, hle, hr⟩ := hs.beating hrunning
    have hnone : c.started (.act (.op (.turn now))) = [] := by simp [started, hrunning]
    have hround : c.hub.roundOf? (.turn now) = c.hub.round? e := by rw [Hub.roundOf?, hn, Option.bind_some]
    rw [hnone, List.nil_append, List.nil_append, filled]
    by_cases hf : c.hub.round? e = some .newTxs
    · -- the flush is before the deadline
      have hnow : c.flushed (.act (.op (.turn now))) = [c.now] := by simp [flushed, Hub.Act.asOp, hround, hf]
      have hlt : c.now < c.hub.ticker.deadline := by
        refine Nat.lt_of_le_of_ne hr.now_le ?_
        have hflushing := Hub.isFlushing_of_round? hf
        simpa [isPrompt, Hub.Act.asOp, Hub.Op.isTurn, hn, hflushing] using hp
      rw [if_pos hf] at hticker
      rw [hnow, hn, Option.any_some]
      cases ho : c.hub.overflows e with
      | true =>
        rw [ho, if_pos rfl] at hticker
        rw [List.filter_cons_of_pos rfl, List.filter_nil]
        refine ⟨hsound, hsized, hconfig, hpast, fun _ => ⟨c.now, c.now, 0, by simp, by simp, hpast, ?_⟩⟩
        change (c.hub.apply (.turn c.now)).ticker.Rhythm _ _ _ _ _
        rw [hticker]
        exact Ticker.rhythm_reset hr hlt
      | false =>
        rw [ho, if_neg (by decide)] at hticker
        rw [List.filter_cons_of_neg (by decide), List.filter_nil, List.append_nil]
        refine ⟨hsound, hsized, hconfig, hs.past, fun _ => ⟨start, c.now, served, hstart, by simp, hle, ?_⟩⟩
        change (c.hub.apply (.turn c.now)).ticker.Rhythm _ _ _ _ _
        rw [hticker]
        exact Ticker.rhythm_clear hr hlt
    · have hnow : c.flushed (.act (.op (.turn now))) = [] := by simp [flushed, Hub.Act.asOp, hround, hf]
      rw [if_neg hf] at hticker
      rw [hnow, List.filter_nil, List.append_nil, List.append_nil]
      refine ⟨hsound, hsized, hconfig, hs.past, fun _ => ⟨start, flush, served, hstart, hflush, hle, ?_⟩⟩
      change (c.hub.apply (.turn c.now)).ticker.Rhythm _ _ _ _ _
      rw [hticker]
      exact hr

/-- **Every prompt step keeps the rhythm.** -/
theorem steady_step {i : Input} (hp : c.isPrompt i = true) :
    (c.step i).Steady interval (restarts ++ (c.started i ++ c.filled i)) (flushes ++ (c.started i ++ c.flushed i)) := by
  cases i with
  | wait ms => simpa [started, filled, flushed] using steady_wait hs hp
  | act a =>
    cases ha : a.asOp.isTurn with
    | false =>
      have hround : c.hub.roundOf? a.asOp = none := by cases hop : a.asOp <;> simp [hop, Hub.Op.isTurn] at ha ⊢ <;> rfl
      simpa [started, filled, flushed, ha, hround] using steady_outside hi hs ha
    | true =>
      obtain ⟨now, rfl⟩ := Hub.act_turn ha
      exact steady_turn hi hs now hp

/-- **And so does every prompt run.** -/
theorem steady_run (is : List Input) (hp : c.isPunctual is = true) :
    (c.run is).Steady interval (restarts ++ c.restarts is) (flushes ++ c.flushes is) := by
  induction is generalizing c restarts flushes with
  | nil => simpa [run, TimedHub.restarts, TimedHub.flushes] using hs
  | cons i is ih =>
    rw [isPunctual, Bool.and_eq_true] at hp
    have hrest := ih (steady_step hi hs hp.1) hp.2
    simpa [run, TimedHub.restarts, TimedHub.flushes, Trace.record, List.append_assoc] using hrest

end

/-! ## Flushes -/

/-- whether a registered client that takes `newtxs` holds as many transactions as make a full buffer, once the hub has
made its turn -/
def hasFull (c : TimedHub) : Prop :=
  ∃ id ∈ c.hub.registry, c.hub.takesTxs id = true ∧
    c.hub.config.txBuffer ≤ ((c.hub.apply (.turn c.now)).waiting id).length

theorem hasFull_iff {c : TimedHub} (hs : c.hub.Sound) (hz : c.hub.Sized) {tx : Transaction}
    (hn : c.hub.nextEvent? = some (.newTx tx)) (hv : tx.isValid = true) : c.hasFull ↔ c.hub.fills tx = true := by
  rw [Hub.fills, List.any_eq_true]
  refine exists_congr fun id => and_congr_right fun hin => ?_
  cases hc : c.hub.client? id with
  | none => simp [Hub.takesTxs, hc]
  | some d =>
    rw [Hub.waiting_turn hs, Option.any_some, Client.dueWith, Hub.takesTxs, hc, Option.any_some]
    cases hk : d.subscriptions.hasKind .newTxs with
    | false => simp
    | true =>
      -- a buffer of no size counts as one of size one, and there is a transaction in it
      have hcapacity := (hz id d hc).buffer
      have hwaiting : c.hub.waiting id = d.buffer.txs := by simp [Hub.waiting, hc]
      have hnew : Hub.announcedTo id c.hub (.turn c.now) = [tx] := by
        simp [Hub.announcedTo, hn, hv, hin, Hub.takesTxs, hc, hk]
      simp only [hwaiting, hnew, TxBuffer.isDue, TxBuffer.append, hcapacity, Bool.true_and, decide_eq_true_eq,
        true_and, List.length_append, List.length_singleton]
      omega

/-- how the hub `c`, whose timer was started anew at the times `restarts` and which flushed at the times `flushes`,
handles what comes next -/
structure Flushing (c : TimedHub) (interval : Nat) (restarts flushes : List Nat) : Prop where
  /-- a transaction causes a flush if a buffer is full with it, or if a deadline, which is some intervals after the
  last restart of the timer, came after the last flush; and not otherwise -/
  decided : ∀ tx, c.hub.nextEvent? = some (.newTx tx) → tx.isValid = true → c.hub.registry ≠ [] →
    c.now ≠ c.hub.ticker.deadline → ∃ start flush, restarts.getLast? = some start ∧ flushes.getLast? = some flush ∧
      (c.hub.roundOf? (.turn c.now) = some .newTxs ↔
        c.hasFull ∨ ∃ n, 0 < n ∧ flush < start + n * interval ∧ start + n * interval ≤ c.now)
  /-- a flush is for every registered client that takes `newtxs`, however few transactions it holds: it has the
  signal last in its channel, or it is put out and its channel closed -/
  signalled : c.hub.roundOf? (.turn c.now) = some .newTxs → ∀ id ∈ c.hub.registry, c.hub.takesTxs id = true →
    id ∈ (c.hub.apply (.turn c.now)).registry ∧
      (c.hub.apply (.turn c.now)).queued id = c.hub.queued id ++ [.newTxs] ∨
    id ∉ (c.hub.apply (.turn c.now)).registry ∧
      ((c.hub.apply (.turn c.now)).client? id).any (·.channel.sending) = false
  /-- and for nobody else, and it is counted as one round -/
  counted : c.hub.roundOf? (.turn c.now) = some .newTxs →
    (c.hub.apply (.turn c.now)).totals.events = c.hub.totals.events + 1 ∧
      ∀ id, ¬(id ∈ c.hub.registry ∧ c.hub.takesTxs id = true) →
        (c.hub.apply (.turn c.now)).queued id = c.hub.queued id ∧
          (id ∈ (c.hub.apply (.turn c.now)).registry ↔ id ∈ c.hub.registry)
  /-- a transaction that causes no flush puts nothing into any channel and nobody out, and no round is counted -/
  quiet : ∀ tx, c.hub.nextEvent? = some (.newTx tx) → c.hub.roundOf? (.turn c.now) ≠ some .newTxs →
    (c.hub.apply (.turn c.now)).totals.events = c.hub.totals.events ∧
      (c.hub.apply (.turn c.now)).registry = c.hub.registry ∧
        ∀ id, (c.hub.apply (.turn c.now)).queued id = c.hub.queued id
  /-- and whatever else is done, a signal comes into a channel by a flush only -/
  signals : ∀ op id, c.hub.roundOf? op ≠ some .newTxs → .newTxs ∉ Hub.put id c.hub op
  /-- the timer is started anew by a flush with a full buffer, and by no flush for the timer alone -/
  restarted : ∀ tx, c.hub.nextEvent? = some (.newTx tx) → c.hub.roundOf? (.turn c.now) = some .newTxs →
    (c.now ∈ c.filled (.act (.op (.turn c.now))) ↔ c.hasFull)
  /-- a flush for the timer alone is at least one interval after each restart, and so after each full buffer -/
  spaced : ∀ tx, c.hub.nextEvent? = some (.newTx tx) → c.now ≠ c.hub.ticker.deadline →
    c.hub.roundOf? (.turn c.now) = some .newTxs → ¬c.hasFull → ∀ t ∈ restarts, t + interval ≤ c.now
  /-- an event for nobody leaves the flag as it is -/
  kept : ∀ e, c.hub.nextEvent? = some e → c.hub.registry = [] → c.hub.roundOf? (.turn c.now) = none ∧
    (c.hub.apply (.turn c.now)).ticker = c.hub.ticker

section

variable {c : TimedHub} {interval : Nat} {restarts flushes : List Nat} {tx : Transaction}

theorem roundOf?_newTx (hn : c.hub.nextEvent? = some (.newTx tx)) (hv : tx.isValid = true) (hr : c.hub.registry ≠ []) :
    c.hub.roundOf? (.turn c.now) = some .newTxs ↔ c.hub.fills tx = true ∨ c.hub.ticker.due = true := by
  rw [Hub.roundOf?, hn, Option.bind_some, Hub.round?, if_neg (by simp [hr, hv, Event.isValid, Event.isRequest]),
    ← Bool.or_eq_true, ← Hub.flushes]
  cases c.hub.flushes tx <;> simp

theorem round?_of_roundOf? {e : Event} (hn : c.hub.nextEvent? = some e)
    (hr : c.hub.roundOf? (.turn c.now) = some .newTxs) : c.hub.round? e = some .newTxs := by
  simpa [Hub.roundOf?, hn] using hr

theorem mem_filled_turn {e : Event} (hn : c.hub.nextEvent? = some e)
    (hr : c.hub.roundOf? (.turn c.now) = some .newTxs) :
    c.now ∈ c.filled (.act (.op (.turn c.now))) ↔ c.hub.overflows e = true := by
  have hflushed : c.flushed (.act (.op (.turn c.now))) = [c.now] := if_pos hr
  simp [filled, hflushed, hn]

theorem flush_signalled (hs : c.hub.Sound) (hr : c.hub.roundOf? (.turn c.now) = some .newTxs) {id : ClientId}
    (hin : id ∈ c.hub.registry) (ht : c.hub.takesTxs id = true) :
    id ∈ (c.hub.apply (.turn c.now)).registry ∧
      (c.hub.apply (.turn c.now)).queued id = c.hub.queued id ++ [.newTxs] ∨
    id ∉ (c.hub.apply (.turn c.now)).registry ∧
      ((c.hub.apply (.turn c.now)).client? id).any (·.channel.sending) = false := by
  have hconcerns : c.hub.concerns id .newTxs = true := ht
  have hexact := Hub.exact_of_sound hs
  have hregistry := hexact.evicted _ _ hr id
  cases hb : c.hub.isBlocked id with
  | false =>
    refine Or.inl ⟨hregistry.2 ⟨hin, fun hx => by simp [hb] at hx⟩, ?_⟩
    rw [hexact.received _ _ hr id, if_pos ⟨hin, hconcerns, hb⟩]
  | true =>
    have hout : id ∉ (c.hub.apply (.turn c.now)).registry := fun hm => (hregistry.1 hm).2 ⟨hconcerns, hb⟩
    have hgone := Hub.isGone_of_turn hs hin hout
    refine Or.inr ⟨hout, ?_⟩
    cases hd : (c.hub.apply (.turn c.now)).client? id with
    | none => rfl
    | some d =>
      have hsending := (Hub.sound_apply hs (.turn c.now)).sending id d hd
      have hnot : id ∉ (c.hub.apply (.turn c.now)).registry ++ (c.hub.apply (.turn c.now)).registrations :=
        fun hm => (List.mem_append.1 hm).elim hgone.2.1 hgone.2.2
      simpa using mt hsending.1 hnot

/-- what a flush leaves as it is -/
theorem flush_counted (hs : c.hub.Sound) (hr : c.hub.roundOf? (.turn c.now) = some .newTxs) :
    (c.hub.apply (.turn c.now)).totals.events = c.hub.totals.events + 1 ∧
      ∀ id, ¬(id ∈ c.hub.registry ∧ c.hub.takesTxs id = true) →
        (c.hub.apply (.turn c.now)).queued id = c.hub.queued id ∧
          (id ∈ (c.hub.apply (.turn c.now)).registry ↔ id ∈ c.hub.registry) := by
  have hexact := Hub.exact_of_sound hs
  have hcounted := hexact.counted (.turn c.now)
  rw [hr] at hcounted
  refine ⟨hcounted, fun id hno => ?_⟩
  have hconcerns : ¬(id ∈ c.hub.registry ∧ c.hub.concerns id .newTxs = true) := hno
  constructor
  · rw [hexact.received _ _ hr id, if_neg fun h => hconcerns ⟨h.1, h.2.1⟩, List.append_nil]
  · rw [hexact.evicted _ _ hr id, and_iff_left_iff_imp]
    exact fun hin hout => hconcerns ⟨hin, hout.1⟩

/-- **Without a flush a transaction reaches no channel**, and is counted as no round. -/
theorem quiet_of_sound (hs : c.hub.Sound) (hn : c.hub.nextEvent? = some (.newTx tx))
    (hr : c.hub.roundOf? (.turn c.now) ≠ some .newTxs) :
    (c.hub.apply (.turn c.now)).totals.events = c.hub.totals.events ∧
      (c.hub.apply (.turn c.now)).registry = c.hub.registry ∧
        ∀ id, (c.hub.apply (.turn c.now)).queued id = c.hub.queued id := by
  have hexact := Hub.exact_of_sound hs
  have hnone : c.hub.roundOf? (.turn c.now) = none := (hexact.transaction tx c.now hn).resolve_right hr
  have hcounted := hexact.counted (.turn c.now)
  rw [hnone] at hcounted
  refine ⟨hcounted, hexact.kept _ _ hn hnone, fun id => ?_⟩
  have hput := hexact.quiet _ hnone id
  have hqueued := Hub.queued_turn hs id c.now
  rw [← Hub.put_eq hs, hput, List.append_nil] at hqueued
  exact hqueued

/-- a signal comes into a channel by a flush only -/
theorem signals_of_sound {h : Hub} (hs : h.Sound) {op : Hub.Op} (hr : h.roundOf? op ≠ some .newTxs) (id : ClientId) :
    .newTxs ∉ Hub.put id h op := by
  intro hin
  rw [Hub.put_eq hs] at hin
  have hmatched := (List.mem_filter.1 hin).1
  exact hr (Option.mem_toList.1 (List.mem_filter.1 hmatched).1)

/-- **A hub in virtual time flushes exactly when it should.** -/
theorem flushing_of_steady (hi : 0 < interval) (hs : c.Steady interval restarts flushes) :
    c.Flushing interval restarts flushes where
  decided tx hn hv hr hd := by
    obtain ⟨start, flush, served, hstart, hflush, -, hrhythm⟩ := hs.beating (Hub.running_of_nextEvent? hn)
    have hlt : c.now < c.hub.ticker.deadline := Nat.lt_of_le_of_ne hrhythm.now_le hd
    refine ⟨start, flush, hstart, hflush, ?_⟩
    rw [roundOf?_newTx hn hv hr, hasFull_iff hs.sound hs.sized hn hv, Ticker.due_iff hrhythm hi hlt]
  signalled hr _ hin ht := flush_signalled hs.sound hr hin ht
  counted := flush_counted hs.sound
  quiet _ := quiet_of_sound hs.sound
  signals _ id hr := signals_of_sound hs.sound hr id
  restarted tx hn hr := by
    have hv : tx.isValid = true := (Hub.round?_cases (round?_of_roundOf? hn hr)).1
    rw [hasFull_iff hs.sound hs.sized hn hv, mem_filled_turn hn hr, Hub.overflows, hv, Bool.true_and]
  spaced tx hn hd hr hfull := by
    obtain ⟨start, flush, served, -, -, hle, hrhythm⟩ := hs.beating (Hub.running_of_nextEvent? hn)
    obtain ⟨hv, -, hregistry, -⟩ := Hub.round?_cases (round?_of_roundOf? hn hr)
    have hdue : c.hub.ticker.due = true := by
      rw [hasFull_iff hs.sound hs.sized hn hv] at hfull
      exact ((roundOf?_newTx hn hv hregistry).1 hr).resolve_left hfull
    intro t ht
    calc t + interval ≤ start + interval := Nat.add_le_add_right (hle t ht) _
      _ ≤ c.now := Ticker.restarted_le hrhythm hdue
  kept e hn hempty := by
    have hround : c.hub.round? e = none := by simp [Hub.round?, hempty]
    refine ⟨by simp [Hub.roundOf?, hn, hround], ?_⟩
    rw [Hub.ticker_turn hs.sound hn, hround, if_neg (by simp)]

end

/-- **Flushes follow the buffers and the clock exactly.** Over every run of a new hub in virtual time. -/
theorem flushes_exactly {config : HubConfig} {h : Hub} (hh : Hub.create config = .ok h) (hi : 0 < config.flushInterval)
    (now : Nat) (is : List Input) (hp : isPunctual ⟨now, h⟩ is = true) :
    (run ⟨now, h⟩ is).Flushing config.flushInterval (restarts ⟨now, h⟩ is) (flushes ⟨now, h⟩ is) := by
  have hcreated : h.phase = .created := (Hub.create_ok hh).2.2.2.2.2.1
  have hnew : Steady ⟨now, h⟩ config.flushInterval [] [] :=
    ⟨Hub.sound_create hh, Hub.sized_create hh, congrArg _ (Hub.create_ok hh).2.2.2.2.2.2.2, by simp,
      fun hx => by simp [hcreated] at hx⟩
  exact flushing_of_steady hi (by simpa using steady_run hi hnew is hp)

/-- with room for two transactions and an interval of a tenth of a second: the second transaction fills the buffer at
50, so that the deadline at 100 does not come, and after the one at 150 the next transaction flushes by itself -/
theorem flushes_exactly_two :
    ∃ h is, Hub.create { txBuffer := 2, flushInterval := 100 } = .ok h ∧ isPunctual ⟨0, h⟩ is = true ∧
      (run ⟨0, h⟩ is).now = 160 ∧ restarts ⟨0, h⟩ is = [0, 50] ∧ flushes ⟨0, h⟩ is = [0, 50] ∧
      (run ⟨0, h⟩ is).hub.nextEvent? = some (.newTx { hash := "c" }) ∧
      (run ⟨0, h⟩ is).hub.roundOf? (.turn 160) = some .newTxs ∧
      (run ⟨0, h⟩ is).Flushing 100 (restarts ⟨0, h⟩ is) (flushes ⟨0, h⟩ is) := by
  refine ⟨_, [.act (.op .register), .act (.op (.turn 0)), .act (.op (.turn 0)),
    .act (.op (.subscribe 1 ⟨.newTxs, none⟩)), .wait 50,
    .act (.op (.publish [.newTx { hash := "a" }, .newTx { hash := "b" }, .newTx { hash := "c" }])),
    .act (.op (.produce 0 0)), .act (.op (.turn 0)), .act (.op (.produce 0 0)), .act (.op (.turn 0)),
    .act (.op (.take 1)), .act (.op (.drain 1)), .act (.op (.tick 0)), .wait 100, .act (.op (.tick 0)), .wait 10,
    .act (.op (.produce 0 0))], rfl, ?_, ?_, ?_, ?_, ?_, ?_, ?_⟩
  · rfl
  · rfl
  · rfl
  · rfl
  · rfl
  · rfl
  · exact flushes_exactly (show Hub.create { txBuffer := 2, flushInterval := 100 } = .ok _ from rfl) (by decide) 0 _ rfl

end TimedHub

end ChainFeed
