/-
The flush timer against its clock.

A timer by itself is called in any order: time passes, its flag is lowered, its interval is restarted, and in between
its task may get its turn as often as it likes. `IsDeadline` says which times are deadlines, from the times of the
restarts alone. Main statements:
- `isDeadline_after`: after the last restart the deadlines come at whole intervals; `isDeadline_restart`: a restart
  leaves those before it alone.
- `Ticking`: what holds of the timer at every moment; `ticking_serve`, `ticking_restart`: each move of its task keeps
  it.
- `ticking_advanceTo`: however many deadlines are crossed, each is served at its own time.
- `clock_kept`: what the flag tells, which deadline is next, that any number of resets in a row come to one, and that
  lowering the flag moves no deadline.
-/
import ChainFeed.Hub.Timers
import ChainFeed.Proofs.Hub.Machinery
import ChainFeed.Proofs.Schedule
import ChainFeed.Proofs.Trace
import Mathlib.Data.List.Induction

namespace ChainFeed

/-! ## The clock -/

/-- what is done with a flush timer -/
inductive TickerCall where
  | advance (ms : Nat)
  | clear
  | reset
  /-- the timer's task gets its turn without time passing -/
  | turn
deriving DecidableEq

namespace TickerCall

/-- the time that a call takes -/
def ms : TickerCall → Nat
  | advance ms => ms
  | _ => 0

def pass (now : Nat) (c : TickerCall) : Nat :=
  now + c.ms

/-- the time that has passed -/
def elapsed (cs : List TickerCall) : Nat :=
  Trace.run pass 0 cs

/-- the times at which a call is made -/
def times (call : TickerCall) (cs : List TickerCall) : List Nat :=
  Trace.record pass (fun now c => if c = call then [now] else []) 0 cs

/-- the times at which the interval is started anew: at the beginning, and by resets -/
def restarts (cs : List TickerCall) : List Nat :=
  0 :: times reset cs

theorem elapsed_concat (cs : List TickerCall) (c : TickerCall) : elapsed (cs ++ [c]) = elapsed cs + c.ms :=
  Trace.run_concat _ _ _ _

theorem times_concat (call : TickerCall) (cs : List TickerCall) (c : TickerCall) :
    times call (cs ++ [c]) = times call cs ++ if c = call then [elapsed cs] else [] :=
  Trace.record_concat _ _ _ _ _

theorem restarts_concat (cs : List TickerCall) (c : TickerCall) :
    restarts (cs ++ [c]) = restarts cs ++ if c = reset then [elapsed cs] else [] := by
  rw [restarts, times_concat]
  rfl

section

variable {call c : TickerCall} (before after : List TickerCall)

theorem elapsed_skip (hc : c.ms = 0) : elapsed (before ++ c :: after) = elapsed (before ++ after) := by
  have hpass : pass (elapsed before) c = elapsed before := by rw [pass, hc, Nat.add_zero]
  unfold elapsed at hpass ⊢
  rw [Trace.run_append, Trace.run_append, Trace.run_cons, hpass]

theorem times_skip (hc : c.ms = 0) (hne : c ≠ call) :
    times call (before ++ c :: after) = times call (before ++ after) := by
  have hpass : pass (elapsed before) c = elapsed before := by rw [pass, hc, Nat.add_zero]
  unfold elapsed at hpass
  unfold times
  rw [Trace.record_append, Trace.record_append, Trace.record, hpass, if_neg hne, List.nil_append]

end

end TickerCall

/-- The times at which the flag goes up: one interval after a restart or after the deadline before, unless a restart
comes in between, which puts another deadline in its place. -/
inductive IsDeadline (interval : Nat) (restarts : List Nat) : Nat → Prop
  | afterRestart {s : Nat} (restart : s ∈ restarts) (undisturbed : ∀ r ∈ restarts, ¬(s < r ∧ r < s + interval)) :
      IsDeadline interval restarts (s + interval)
  | afterDeadline {d : Nat} (previous : IsDeadline interval restarts d)
      (undisturbed : ∀ r ∈ restarts, ¬(d < r ∧ r < d + interval)) : IsDeadline interval restarts (d + interval)

section

variable {interval s d r : Nat} {restarts restarts' : List Nat}

theorem IsDeadline.mono (h : ∀ r, r ∈ restarts ↔ r ∈ restarts') (hd : IsDeadline interval restarts d) :
    IsDeadline interval restarts' d := by
  induction hd with
  | afterRestart restart undisturbed => exact .afterRestart ((h _).1 restart) fun r hr => undisturbed r ((h r).2 hr)
  | afterDeadline _ undisturbed ih => exact .afterDeadline ih fun r hr => undisturbed r ((h r).2 hr)

/-- **After the last restart the deadlines come at whole intervals.** -/
theorem isDeadline_after (hs : s ∈ restarts) (hlast : ∀ r ∈ restarts, r ≤ s) (hd : s < d) :
    IsDeadline interval restarts d ↔ ∃ n, d = s + (n + 1) * interval := by
  constructor
  · intro h
    induction h with
    | @afterRestart s' restart undisturbed =>
      have hle := hlast s' restart
      obtain rfl : s' = s := by
        by_contra hne
        exact undisturbed s hs ⟨by omega, hd⟩
      exact ⟨0, by omega⟩
    | @afterDeadline d' _ undisturbed ih =>
      rcases Nat.lt_trichotomy s d' with hlt | rfl | hlt
      · obtain ⟨n, rfl⟩ := ih hlt
        exact ⟨n + 1, by rw [Nat.succ_mul (n + 1)]; omega⟩
      · exact ⟨0, by omega⟩
      · exact absurd ⟨hlt, hd⟩ (undisturbed s hs)
  · rintro ⟨n, rfl⟩
    -- no restart comes after `s`, so that none disturbs what begins there
    have hnone : ∀ d, s ≤ d → ∀ r ∈ restarts, ¬(d < r ∧ r < d + interval) := by
      rintro d hle r hr ⟨hlt, -⟩
      have := hlast r hr
      omega
    clear hd
    induction n with
    | zero =>
      rw [Nat.zero_add, Nat.one_mul]
      exact .afterRestart hs (hnone s (Nat.le_refl s))
    | succ n ih =>
      rw [Nat.succ_mul (n + 1), ← Nat.add_assoc]
      exact .afterDeadline ih (hnone _ (Nat.le_add_right _ _))

/-- **A restart leaves the deadlines before it alone.** -/
theorem isDeadline_restart (hi : 0 < interval) (hd : d ≤ r) :
    IsDeadline interval (restarts ++ [r]) d ↔ IsDeadline interval restarts d := by
  constructor
  · intro h
    induction h with
    | @afterRestart s restart undisturbed =>
      have hs : s ∈ restarts := by
        rcases List.mem_append.1 restart with hin | hnew
        · exact hin
        · have : s = r := List.mem_singleton.1 hnew
          omega
      exact .afterRestart hs fun r hr => undisturbed r (List.mem_append_left _ hr)
    | afterDeadline _ undisturbed ih =>
      exact .afterDeadline (ih (by omega)) fun r hr => undisturbed r (List.mem_append_left _ hr)
  · intro h
    induction h with
    | afterRestart restart undisturbed =>
      refine .afterRestart (List.mem_append_left _ restart) fun x hx => ?_
      rcases List.mem_append.1 hx with hin | hnew
      · exact undisturbed x hin
      · have : x = r := List.mem_singleton.1 hnew
        omega
    | afterDeadline _ undisturbed ih =>
      refine .afterDeadline (ih (by omega)) fun x hx => ?_
      rcases List.mem_append.1 hx with hin | hnew
      · exact undisturbed x hin
      · have : x = r := List.mem_singleton.1 hnew
        omega

end

/-! ## The timer at every moment -/

/-- what a move of a timer comes to -/
inductive Ticker.Stepped (t : Ticker) (now : Nat) : Ticker → Prop
  | served (reached : t.deadline ≤ now) :
      Stepped t now { t with due := true, deadline := nextDeadline t.deadline t.interval now }
  | restarted (asked : t.resets ≠ 0) :
      Stepped t now { t with resets := t.resets - 1, deadline := now + t.interval }
  | stopped (stopping : t.stopping = true) : Stepped t now { t with running := false }

theorem Ticker.stepped {t t' : Ticker} {now : Nat} (ht : t.step now = some t') : t.Stepped now t' := by
  unfold step at ht
  split_ifs at ht with _ hreached hasked hstopping <;> cases ht
  · exact .served hreached
  · exact .restarted hasked
  · exact .stopped hstopping

/-- a reset is put into the queue, or finds it full; there is one in it either way -/
theorem Ticker.reset_running {t : Ticker} (hr : t.running = true) (hle : t.resets ≤ maxResets) :
    t.reset.deadline = t.deadline ∧ t.reset.running = true ∧ t.reset.due = t.due ∧ t.reset.resets ≠ 0 ∧
      t.reset.resets ≤ maxResets := by
  unfold reset
  split_ifs with hroom
  · have hlt : t.resets < maxResets := by simpa [hr] using hroom
    exact ⟨rfl, hr, rfl, Nat.succ_ne_zero _, hlt⟩
  · refine ⟨rfl, hr, rfl, fun hn => hroom ?_, hle⟩
    simp [hr, hn, maxResets]

namespace TimedTicker

open TickerCall (elapsed times restarts)

/-- what holds of a timer that was restarted at the times `starts`, and whose flag was lowered at the times `clears` -/
structure Ticking (interval : Nat) (starts clears : List Nat) (t : TimedTicker) : Prop where
  running : t.ticker.running = true
  going : t.ticker.stopping = false
  interval_eq : t.ticker.interval = interval
  resets_le : t.ticker.resets ≤ Ticker.maxResets
  now_le : t.now ≤ t.ticker.deadline
  /-- the deadlines go by the last restart, once the timer has seen it -/
  started : ∃ s ∈ starts, (∀ r ∈ starts, r ≤ s) ∧ s ≤ t.now ∧
    (t.ticker.resets = 0 → ∃ n, t.ticker.deadline = s + (n + 1) * interval ∧ s + n * interval ≤ t.now) ∧
    (t.ticker.resets ≠ 0 → s = t.now ∧ t.now < t.ticker.deadline)
  cleared : ∀ c ∈ clears, c ≤ t.now ∧ c < t.ticker.deadline
  /-- the flag tells of the deadlines that have been served -/
  due : t.ticker.due = true ↔
    ∃ d, IsDeadline interval starts d ∧ d ≤ t.now ∧ d < t.ticker.deadline ∧ ∀ c ∈ clears, c < d

section

variable {interval : Nat} {starts clears : List Nat} {t t' : TimedTicker}

theorem ticking_start (hi : 0 < interval) : (start interval).Ticking interval [0] [] := by
  refine ⟨by simp [start, Ticker.start]; omega, rfl, rfl, Nat.zero_le _, Nat.zero_le _, ?_, by simp, ?_⟩
  · refine ⟨0, by simp, by simp, Nat.le_refl _, fun _ => ⟨0, ?_, ?_⟩, fun h => absurd rfl h⟩
    · simp [start, Ticker.start]
    · simp [start]
  · -- the first deadline is still to come
    refine iff_of_false (by simp [start, Ticker.start]) ?_
    rintro ⟨d, hd, hle, -⟩
    have hzero : d = 0 := Nat.le_zero.1 hle
    cases hd <;> omega

/-- The deadline is now, and the next one comes an interval later. -/
theorem ticking_serve (hi : 0 < interval) (h : t.Ticking interval starts clears) (hd : t.ticker.deadline ≤ t.now) :
    Ticking interval starts clears { t with ticker :=
      { t.ticker with due := true, deadline := nextDeadline t.ticker.deadline t.ticker.interval t.now } } := by
  obtain ⟨s, hs, hlast, hle, hregular, hrestarting⟩ := h.started
  have hnow : t.ticker.deadline = t.now := Nat.le_antisymm hd h.now_le
  have hquiet : t.ticker.resets = 0 := by
    by_contra hne
    exact absurd (hrestarting hne).2 (Nat.not_lt.2 hd)
  obtain ⟨n, hn, -⟩ := hregular hquiet
  have hpassed : t.now = s + (n + 1) * interval := hnow.symm.trans hn
  have hnext : nextDeadline t.ticker.deadline t.ticker.interval t.now = t.now + interval := by
    rw [nextDeadline, hnow, if_neg (by omega), h.interval_eq]
  rw [hnext]
  have hlater : t.now < t.now + interval := Nat.lt_add_of_pos_right hi
  refine ⟨h.running, h.going, h.interval_eq, h.resets_le, Nat.le_of_lt hlater, ?_, ?_, iff_of_true rfl ?_⟩
  · refine ⟨s, hs, hlast, hle, fun _ => ⟨n + 1, ?_, Nat.le_of_eq hpassed.symm⟩, fun hne => absurd hquiet hne⟩
    show t.now + interval = _
    rw [hpassed, Nat.succ_mul (n + 1), Nat.add_assoc]
  · intro c hc
    exact ⟨(h.cleared c hc).1, Nat.lt_of_le_of_lt (h.cleared c hc).1 hlater⟩
  · have hpos : 0 < (n + 1) * interval := Nat.mul_pos (Nat.succ_pos n) hi
    have hdeadline : IsDeadline interval starts t.now := (isDeadline_after hs hlast (by omega)).2 ⟨n, hpassed⟩
    exact ⟨t.now, hdeadline, Nat.le_refl _, hlater, fun c hc => hnow ▸ (h.cleared c hc).2⟩

/-- The reset was asked for at this time, when no deadline was left to be served. -/
theorem ticking_restart (hi : 0 < interval) (h : t.Ticking interval starts clears) (hr : t.ticker.resets ≠ 0) :
    Ticking interval starts clears { t with ticker :=
      { t.ticker with resets := t.ticker.resets - 1, deadline := t.now + t.ticker.interval } } := by
  obtain ⟨s, hs, hlast, hle, -, hrestarting⟩ := h.started
  obtain ⟨hstart, hlt⟩ := hrestarting hr
  rw [h.interval_eq]
  have hlater : t.now < t.now + interval := Nat.lt_add_of_pos_right hi
  refine ⟨h.running, h.going, h.interval_eq, Nat.le_trans (Nat.sub_le _ _) h.resets_le, Nat.le_of_lt hlater, ?_, ?_, ?_⟩
  · refine ⟨s, hs, hlast, hle, fun _ => ⟨0, ?_, ?_⟩, fun _ => ⟨hstart, hlater⟩⟩
    · show t.now + interval = _
      rw [hstart, Nat.zero_add, Nat.one_mul]
    · rw [Nat.zero_mul, Nat.add_zero]
      exact hle
  · intro c hc
    exact ⟨(h.cleared c hc).1, Nat.lt_of_le_of_lt (h.cleared c hc).1 hlater⟩
  · show t.ticker.due = true ↔ ∃ d, IsDeadline interval starts d ∧ d ≤ t.now ∧ d < t.now + interval ∧ _
    rw [h.due]
    constructor
    · rintro ⟨d, hd, hle, -, hc⟩
      exact ⟨d, hd, hle, Nat.lt_of_le_of_lt hle hlater, hc⟩
    · rintro ⟨d, hd, hle, -, hc⟩
      exact ⟨d, hd, hle, Nat.lt_of_le_of_lt hle hlt, hc⟩

/-- each move of the timer serves a deadline or a reset -/
theorem ticking_step (hi : 0 < interval) (h : t.Ticking interval starts clears) (ht : t.step = some t') :
    t'.Ticking interval starts clears ∧ t'.now = t.now := by
  obtain ⟨k, hk, rfl⟩ := Option.map_eq_some_iff.1 ht
  refine ⟨?_, rfl⟩
  cases Ticker.stepped hk with
  | served reached => exact ticking_serve hi h reached
  | restarted asked => exact ticking_restart hi h asked
  | stopped stopping => exact absurd stopping (by simp [h.going])

/-- a timer that waits has seen all resets, and its deadline is still to come -/
theorem Ticking.waits (h : t.Ticking interval starts clears) (ht : t.step = none) :
    t.now < t.ticker.deadline ∧ t.ticker.resets = 0 := by
  have hnone : t.ticker.step t.now = none := Option.map_eq_none_iff.1 ht
  unfold Ticker.step at hnone
  rw [if_neg (by simp [h.running])] at hnone
  split_ifs at hnone with hd hresets
  exact ⟨Nat.lt_of_not_le hd, by simpa using hresets⟩

/-- without time passing the timer comes to wait -/
theorem ticking_settle (hi : 0 < interval) (h : t.Ticking interval starts clears) :
    t.settle.Ticking interval starts clears ∧ t.settle.now = t.now ∧ t.settle.step = none := by
  have hkeep : ∀ u v : TimedTicker, u.Ticking interval starts clears ∧ u.now = t.now → u.step = some v →
      v.Ticking interval starts clears ∧ v.now = t.now := by
    rintro u v ⟨hu, hnow⟩ hv
    obtain ⟨hv, hsame⟩ := ticking_step hi hu hv
    exact ⟨hv, hsame.trans hnow⟩
  have hless : ∀ u v : TimedTicker, u.Ticking interval starts clears ∧ u.now = t.now → u.step = some v →
      v.ticker.left v.now < u.ticker.left u.now := by
    rintro u v ⟨hu, -⟩ hv
    obtain ⟨k, hk, rfl⟩ := Option.map_eq_some_iff.1 hv
    exact Ticker.left_step (by rw [hu.interval_eq]; omega) hk
  have hfew : t.ticker.left t.now ≤ Schedule.burst := by
    have hresets : t.ticker.resets ≤ 5 := h.resets_le
    have hnow := h.now_le
    simp only [Ticker.left, h.running, if_true, Schedule.burst]
    omega
  obtain ⟨⟨hkept, hnow⟩, hwaits⟩ :=
    Schedule.settle_waits (fun u => u.ticker.left u.now) hkeep hless (t.ticker.resets + 1) ⟨h, rfl⟩ hfew
  exact ⟨hkept, hnow, hwaits⟩

/-- time passes up to the deadline at most -/
theorem ticking_wait (h : t.Ticking interval starts clears) (ht : t.step = none) {now : Nat} (hnow : t.now ≤ now)
    (hd : now ≤ t.ticker.deadline) : Ticking interval starts clears { t with now } := by
  obtain ⟨hlt, hquiet⟩ := h.waits ht
  obtain ⟨s, hs, hlast, hle, hregular, -⟩ := h.started
  obtain ⟨n, hn, hserved⟩ := hregular hquiet
  refine ⟨h.running, h.going, h.interval_eq, h.resets_le, hd, ?_, ?_, ?_⟩
  · refine ⟨s, hs, hlast, Nat.le_trans hle hnow, fun _ => ⟨n, hn, ?_⟩, fun hne => absurd hquiet hne⟩
    exact Nat.le_trans hserved hnow
  · intro c hc
    exact ⟨Nat.le_trans (h.cleared c hc).1 hnow, (h.cleared c hc).2⟩
  · show t.ticker.due = true ↔ ∃ d, IsDeadline interval starts d ∧ d ≤ now ∧ d < t.ticker.deadline ∧ _
    rw [h.due]
    constructor
    · rintro ⟨d, hd, hle, hlater, hc⟩
      exact ⟨d, hd, Nat.le_trans hle hnow, hlater, hc⟩
    · rintro ⟨d, hd, -, hlater, hc⟩
      refine ⟨d, hd, ?_, hlater, hc⟩
      -- between the last deadline and the next there is none
      by_contra hpassed
      obtain ⟨m, rfl⟩ := (isDeadline_after hs hlast (by omega)).1 hd
      rw [hn] at hlater
      have hmn : m + 1 < n + 1 := Nat.lt_of_mul_lt_mul_right (Nat.lt_of_add_lt_add_left hlater)
      have hmul : (m + 1) * interval ≤ n * interval := Nat.mul_le_mul_right _ (by omega)
      omega

/-- the timer's deadline is the only time at which it wakes up -/
theorem nextTimer_eq (h : t.Ticking interval starts clears) (ht : t.step = none) :
    timed.nextTimer t = some t.ticker.deadline := by
  have hlt : timed.now t < t.ticker.deadline := (h.waits ht).1
  have hdeadlines : timed.deadlines t = [t.ticker.deadline] := by
    show (if t.ticker.running then _ else _) = _
    rw [if_pos h.running]
  rw [Schedule.Timed.nextTimer, hdeadlines]
  simp [hlt]

/-- **Time passes as far as it is let, and each deadline on the way is served at its own time.** -/
theorem ticking_advanceTo (hi : 0 < interval) (timers : Nat) {target : Nat} (h : t.Ticking interval starts clears)
    (hle : t.now ≤ target) (ht : target < t.now + timers) :
    (timed.advanceTo (fun _ => false) target timers t).Ticking interval starts clears ∧
      (timed.advanceTo (fun _ => false) target timers t).now = target ∧
      target < (timed.advanceTo (fun _ => false) target timers t).ticker.deadline := by
  induction timers generalizing t with
  | zero => omega
  | succ n ih =>
    obtain ⟨hsettled, hnow, hnone⟩ := ticking_settle hi h
    have hnext := nextTimer_eq hsettled hnone
    have hlater := (hsettled.waits hnone).1
    by_cases hreached : t.settle.ticker.deadline ≤ target
    · rw [Schedule.advanceTo_next (m := timed) _ rfl hnext hreached]
      have hmoved := ticking_wait hsettled hnone (Nat.le_of_lt hlater) (Nat.le_refl _)
      exact ih hmoved hreached (by show target < t.settle.ticker.deadline + n; omega)
    · have hend : timed.advanceTo (fun _ => false) target (n + 1) t = { t.settle with now := target } := by
        have hnext : timed.nextTimer (timed.settle t) = some t.settle.ticker.deadline := hnext
        simp only [Schedule.Timed.advanceTo, hnext, hreached, if_false, Bool.false_eq_true]
        rfl
      rw [hend]
      have hlt := Nat.lt_of_not_le hreached
      exact ⟨ticking_wait hsettled hnone (by omega) (Nat.le_of_lt hlt), rfl, hlt⟩

/-! ## Calls -/

/-- carries out a call -/
def call (t : TimedTicker) : TickerCall → TimedTicker
  | .advance ms => t.advance ms
  | .clear => t.clear
  | .reset => t.reset 1
  | .turn => t.settle

/-- the timer after a list of calls -/
def run (t : TimedTicker) (cs : List TickerCall) : TimedTicker :=
  Trace.run call t cs

theorem ticking_clear (h : t.Ticking interval starts clears) (hd : t.now < t.ticker.deadline) :
    t.clear.Ticking interval starts (clears ++ [t.now]) := by
  have hlowered : ¬t.clear.ticker.due = true := by simp [clear, Ticker.clear]
  refine ⟨h.running, h.going, h.interval_eq, h.resets_le, h.now_le, h.started, ?_, iff_of_false hlowered ?_⟩
  · intro c hc
    rcases List.mem_append.1 hc with hc | hc
    · exact h.cleared c hc
    · rw [List.mem_singleton.1 hc]
      exact ⟨Nat.le_refl _, hd⟩
  · rintro ⟨d, -, hle, -, hc⟩
    exact absurd (hc t.now (by simp)) (Nat.not_lt.2 hle)

/-- a reset is seen by the timer, or finds the queue full of resets, which restart the interval as well -/
theorem ticking_reset (hi : 0 < interval) (h : t.Ticking interval starts clears) (hd : t.now < t.ticker.deadline) :
    (t.reset 1).Ticking interval (starts ++ [t.now]) clears := by
  have hreset : (t.reset 1).ticker = t.ticker.reset := rfl
  have hkeeps := Ticker.keeps_reset t.ticker
  obtain ⟨hdeadline, hrunning, hdue, hresets, hle⟩ := Ticker.reset_running h.running h.resets_le
  obtain ⟨s, -, hlast, hpast, -⟩ := h.started
  refine ⟨hrunning, hkeeps.stopping.trans h.going, hkeeps.interval.trans h.interval_eq, hle, ?_, ?_, ?_, ?_⟩
  · rw [hreset, hdeadline]
    exact h.now_le
  · refine ⟨t.now, by simp, ?_, Nat.le_refl _, fun hn => absurd hn hresets, fun _ => ⟨rfl, ?_⟩⟩
    · intro r hr
      rcases List.mem_append.1 hr with hr | hr
      · exact Nat.le_trans (hlast r hr) hpast
      · exact Nat.le_of_eq (List.mem_singleton.1 hr)
    · rw [hreset, hdeadline]
      exact hd
  · rw [hreset, hdeadline]
    exact h.cleared
  · rw [hreset, hdue, hdeadline, h.due]
    -- the deadlines so far are the same
    have hsame : ∀ d, d ≤ t.now → (IsDeadline interval starts d ↔ IsDeadline interval (starts ++ [t.now]) d) :=
      fun d hle => (isDeadline_restart hi hle).symm
    constructor
    · rintro ⟨d, hd, hle, hrest⟩
      exact ⟨d, (hsame d hle).1 hd, hle, hrest⟩
    · rintro ⟨d, hd, hle, hrest⟩
      exact ⟨d, (hsame d hle).2 hd, hle, hrest⟩

/-- **What holds of the timer holds after every list of calls**, and no deadline is left to be served. -/
theorem ticking_run (hi : 0 < interval) (cs : List TickerCall) :
    ((start interval).run cs).Ticking interval (restarts cs) (times .clear cs) ∧
      ((start interval).run cs).now = elapsed cs ∧
      ((start interval).run cs).now < ((start interval).run cs).ticker.deadline := by
  induction cs using List.reverseRecOn with
  | nil => exact ⟨ticking_start hi, rfl, by simpa [run, start, Ticker.start] using hi⟩
  | append_singleton cs c ih =>
    obtain ⟨h, hnow, hd⟩ := ih
    have hrun : (start interval).run (cs ++ [c]) = ((start interval).run cs).call c := Trace.run_concat _ _ _ _
    rw [hrun, TickerCall.restarts_concat, TickerCall.times_concat, TickerCall.elapsed_concat, ← hnow]
    cases c with
    | advance ms =>
      obtain ⟨hadvanced, hthen, hlater⟩ := ticking_advanceTo hi (ms + 1) h (Nat.le_add_right _ ms) (by omega)
      rw [if_neg (by simp), if_neg (by simp), List.append_nil, List.append_nil]
      exact ⟨hadvanced, hthen, hthen.symm ▸ hlater⟩
    | clear =>
      rw [if_neg (by simp), if_pos rfl, List.append_nil]
      exact ⟨ticking_clear h hd, rfl, hd⟩
    | reset =>
      have hsame : (((start interval).run cs).reset 1).ticker.deadline = ((start interval).run cs).ticker.deadline :=
        (Ticker.reset_running h.running h.resets_le).1
      rw [if_pos rfl, if_neg (by simp), List.append_nil]
      exact ⟨ticking_reset hi h hd, rfl, Nat.lt_of_lt_of_eq hd hsame.symm⟩
    | turn =>
      obtain ⟨hsettled, hthen, hnone⟩ := ticking_settle hi h
      rw [if_neg (by simp), if_neg (by simp), List.append_nil, List.append_nil]
      exact ⟨hsettled, hthen, (hsettled.waits hnone).1⟩

/-! ## What the calls come to -/

/-- the deadline of a timer that waits is the next one -/
theorem Ticking.next (h : t.Ticking interval starts clears) (ht : t.step = none) :
    IsDeadline interval starts t.ticker.deadline ∧ t.now < t.ticker.deadline ∧
      ∀ d, IsDeadline interval starts d → t.now < d → t.ticker.deadline ≤ d := by
  obtain ⟨hlt, hquiet⟩ := h.waits ht
  obtain ⟨s, hs, hlast, hle, hregular, -⟩ := h.started
  obtain ⟨n, hn, hserved⟩ := hregular hquiet
  refine ⟨(isDeadline_after hs hlast (by omega)).2 ⟨n, hn⟩, hlt, ?_⟩
  intro d hd hlater
  obtain ⟨m, rfl⟩ := (isDeadline_after hs hlast (by omega)).1 hd
  rw [hn]
  have hnm : n < m + 1 := Nat.lt_of_mul_lt_mul_right (Nat.lt_of_add_lt_add_left (Nat.lt_of_le_of_lt hserved hlater))
  exact Nat.add_le_add_left (Nat.mul_le_mul_right _ hnm) _

/-- lists of calls that take the same time and restart the interval at the same times lead to the same next deadline -/
theorem deadline_congr (hi : 0 < interval) {cs cs' : List TickerCall} (he : elapsed cs = elapsed cs')
    (hr : ∀ r, r ∈ restarts cs ↔ r ∈ restarts cs') :
    ((start interval).run cs).settle.ticker.deadline = ((start interval).run cs').settle.ticker.deadline := by
  have hle : ∀ {cs cs' : List TickerCall}, elapsed cs = elapsed cs' → (∀ r, r ∈ restarts cs ↔ r ∈ restarts cs') →
      ((start interval).run cs).settle.ticker.deadline ≤ ((start interval).run cs').settle.ticker.deadline := by
    intro cs cs' he hr
    obtain ⟨h, hnow, -⟩ := ticking_run hi cs
    obtain ⟨h', hnow', -⟩ := ticking_run hi cs'
    obtain ⟨hs, hsnow, hnone⟩ := ticking_settle hi h
    obtain ⟨hs', hsnow', hnone'⟩ := ticking_settle hi h'
    obtain ⟨-, -, hleast⟩ := hs.next hnone
    obtain ⟨hdeadline, hlater, -⟩ := hs'.next hnone'
    exact hleast _ (hdeadline.mono fun r => (hr r).symm) (by omega)
  exact Nat.le_antisymm (hle he hr) (hle he.symm fun r => (hr r).symm)

/-- what the flag tells -/
theorem due_run (hi : 0 < interval) (cs : List TickerCall) : ((start interval).run cs).ticker.due = true ↔
    ∃ d, IsDeadline interval (restarts cs) d ∧ d ≤ elapsed cs ∧ ∀ c ∈ times .clear cs, c < d := by
  obtain ⟨h, hnow, hd⟩ := ticking_run hi cs
  rw [h.due, hnow]
  constructor
  · rintro ⟨d, hd, hle, -, hc⟩
    exact ⟨d, hd, hle, hc⟩
  · rintro ⟨d, hd, hle, hc⟩
    exact ⟨d, hd, hle, by omega, hc⟩

/-- a turn of the timer's task does not change what the flag tells -/
theorem due_settle (hi : 0 < interval) (cs : List TickerCall) : ((start interval).run cs).settle.ticker.due = true ↔
    ∃ d, IsDeadline interval (restarts cs) d ∧ d ≤ elapsed cs ∧ ∀ c ∈ times .clear cs, c < d := by
  have hturn : (start interval).run (cs ++ [.turn]) = ((start interval).run cs).settle := Trace.run_concat _ _ _ _
  have hdue := due_run hi (cs ++ [.turn])
  rw [hturn, TickerCall.restarts_concat, TickerCall.times_concat, TickerCall.elapsed_concat] at hdue
  simpa [TickerCall.ms] using hdue

theorem eq_of_fields {now : Nat} {t : TimedTicker} (hnow : t.now = now) (hinterval : t.ticker.interval = interval)
    (hresets : t.ticker.resets = 0) (hgoing : t.ticker.stopping = false) (hrunning : t.ticker.running = true) :
    t = ⟨now, interval, t.ticker.deadline, t.ticker.due, 0, false, true⟩ := by
  obtain ⟨_, _, _, _, _, _, _⟩ := t
  subst hnow hinterval hresets hgoing hrunning
  rfl

/-- lists of calls that lower the flag at the same times as well lead to the same timer, once that has had its turn -/
theorem settle_congr (hi : 0 < interval) {cs cs' : List TickerCall} (he : elapsed cs = elapsed cs')
    (hr : ∀ r, r ∈ restarts cs ↔ r ∈ restarts cs') (hc : ∀ c, c ∈ times .clear cs ↔ c ∈ times .clear cs') :
    ((start interval).run cs).settle = ((start interval).run cs').settle := by
  have hsettled : ∀ cs : List TickerCall, ((start interval).run cs).settle =
      ⟨elapsed cs, interval, ((start interval).run cs).settle.ticker.deadline,
        ((start interval).run cs).settle.ticker.due, 0, false, true⟩ := by
    intro cs
    obtain ⟨h, hnow, -⟩ := ticking_run hi cs
    obtain ⟨hs, hsnow, hnone⟩ := ticking_settle hi h
    have hquiet := (hs.waits hnone).2
    obtain ⟨hrunning, hgoing, hinterval, -, -, -, -, -⟩ := hs
    rw [hnow] at hsnow
    exact eq_of_fields hsnow hinterval hquiet hgoing hrunning
  have hdue : ((start interval).run cs).settle.ticker.due = ((start interval).run cs').settle.ticker.due := by
    rw [Bool.eq_iff_iff, due_settle hi, due_settle hi, he]
    constructor
    · rintro ⟨d, hd, hle, hlater⟩
      exact ⟨d, hd.mono hr, hle, fun c hm => hlater c ((hc c).2 hm)⟩
    · rintro ⟨d, hd, hle, hlater⟩
      exact ⟨d, hd.mono fun r => (hr r).symm, hle, fun c hm => hlater c ((hc c).1 hm)⟩
  rw [hsettled cs, hsettled cs', he, hdue, deadline_congr hi he hr]

/-- a reset right after another one changes nothing, also not if it is dropped -/
theorem settle_reset_reset (hi : 0 < interval) (before after : List TickerCall) :
    ((start interval).run (before ++ .reset :: .reset :: after)).settle =
      ((start interval).run (before ++ .reset :: after)).settle := by
  have htimes : ∀ call r, r ∈ times call (before ++ .reset :: .reset :: after) ↔
      r ∈ times call (before ++ .reset :: after) := by
    intro call r
    have hrest : ∀ rest : List TickerCall, Trace.record TickerCall.pass
        (fun now c => if c = call then [now] else []) (elapsed before) (.reset :: rest) =
          (if TickerCall.reset = call then [elapsed before] else []) ++ Trace.record TickerCall.pass
            (fun now c => if c = call then [now] else []) (elapsed before) rest := fun _ => rfl
    rw [times, times, Trace.record_append, Trace.record_append]
    change _ ∈ _ ++ Trace.record _ _ (elapsed before) _ ↔ _ ∈ _ ++ Trace.record _ _ (elapsed before) _
    rw [hrest, hrest]
    simp only [List.mem_append]
    tauto
  refine settle_congr hi (TickerCall.elapsed_skip before (.reset :: after) rfl) (fun r => ?_) (htimes .clear)
  rw [restarts, restarts, List.mem_cons, List.mem_cons, htimes]

theorem settle_resets (hi : 0 < interval) (before after : List TickerCall) (times : Nat) :
    ((start interval).run (before ++ List.replicate (times + 1) .reset ++ after)).settle =
      ((start interval).run (before ++ .reset :: after)).settle := by
  rw [List.append_assoc]
  induction times with
  | zero => rfl
  | succ n ih =>
    rw [List.replicate_succ, List.cons_append] at ih
    rw [List.replicate_succ, List.replicate_succ, List.cons_append, List.cons_append, settle_reset_reset hi, ih]

/-- what is known of a flush timer after a list of calls -/
structure Clocked (interval : Nat) (cs : List TickerCall) : Prop where
  /-- the flag is up if and only if a deadline was reached since it was lowered last -/
  due : ((start interval).run cs).ticker.due = true ↔
    ∃ d, IsDeadline interval (restarts cs) d ∧ d ≤ elapsed cs ∧ ∀ c ∈ times .clear cs, c < d
  /-- the timer waits for the next deadline -/
  next : IsDeadline interval (restarts cs) ((start interval).run cs).settle.ticker.deadline ∧
    elapsed cs < ((start interval).run cs).settle.ticker.deadline ∧
    ∀ d, IsDeadline interval (restarts cs) d → elapsed cs < d →
      ((start interval).run cs).settle.ticker.deadline ≤ d
  /-- any number of resets in a row come to one, whatever is called before and after them -/
  covered : ∀ before after times, cs = before ++ List.replicate (times + 1) .reset ++ after →
    ((start interval).run cs).settle = ((start interval).run (before ++ .reset :: after)).settle
  /-- lowering the flag moves no deadline -/
  unmoved : ∀ before after, cs = before ++ .clear :: after →
    ((start interval).run cs).settle.ticker.deadline =
      ((start interval).run (before ++ after)).settle.ticker.deadline

/-- **The flush timer keeps its clock**, whatever it is called for and however often its task gets its turn in between:
its flag tells whether a deadline was reached since the flag was lowered, resets in a row are as good as one, though
some of them find no place in the queue, and nothing but a reset moves a deadline. -/
theorem clock_kept (hi : 0 < interval) (cs : List TickerCall) : Clocked interval cs where
  due := due_run hi cs
  next := by
    obtain ⟨h, hnow, -⟩ := ticking_run hi cs
    obtain ⟨hs, hsnow, hnone⟩ := ticking_settle hi h
    rw [← hnow, ← hsnow]
    exact hs.next hnone
  covered := by
    rintro before after times rfl
    exact settle_resets hi before after times
  unmoved := by
    rintro before after rfl
    refine deadline_congr hi (TickerCall.elapsed_skip before after rfl) fun r => ?_
    rw [restarts, restarts, TickerCall.times_skip before after rfl (by simp)]

end

/-- seven resets in a row, more than the queue holds, postpone the deadline; four deadlines are crossed at once, and one
more after the flag is lowered -/
theorem clock_kept_seven :
    ∃ cs, cs = .advance 8 :: List.replicate 7 .reset ++ [.advance 9, .clear, .advance 31, .clear, .turn, .advance 10] ∧
      restarts cs = [0, 8, 8, 8, 8, 8, 8, 8] ∧ times .clear cs = [17, 48] ∧ elapsed cs = 58 ∧ 0 < 10 ∧
      ((start 10).run cs).ticker.due = true ∧ ((start 10).run cs).settle.ticker.deadline = 68 ∧ Clocked 10 cs := by
  refine ⟨_, rfl, ?_, ?_, ?_, ?_, ?_, ?_, clock_kept ?_ _⟩
  · rfl
  · rfl
  · rfl
  · decide
  · decide
  · decide
  · decide

end TimedTicker

end ChainFeed
