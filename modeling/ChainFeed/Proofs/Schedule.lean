/-
What a schedule does with the tasks of a system and with its timers.

- `settle_keeps`, `advanceTo_keeps`: what every move of a task keeps, and the passing of time, is kept by all that a
  schedule does.
- `settle_reaches`: what one task reaches at its turn, and no other undoes, is reached without time passing.
- `settle_waits`: one task alone is run until it waits, if it cannot move too often.
-/
import ChainFeed.Schedule
import Mathlib.Data.List.Basic

namespace ChainFeed.Schedule

variable {State : Type} {P : State → Prop}

theorem run_keeps {task : Task State} (ht : ∀ s t, P s → task s = some t → P t) (moves : Nat) {s : State}
    (hs : P s) : P (run task moves s).1 := by
  induction moves generalizing s with
  | zero => exact hs
  | succ n ih =>
    simp only [run]
    cases h : task s with
    | none => exact hs
    | some t => exact ih (ht s t hs h)

theorem round_keeps {tasks : List (Task State)} (ht : ∀ task ∈ tasks, ∀ s t, P s → task s = some t → P t)
    {s : State} (hs : P s) : P (round tasks s).1 := by
  induction tasks generalizing s with
  | nil => exact hs
  | cons task rest ih =>
    obtain ⟨htask, hrest⟩ := List.forall_mem_cons.1 ht
    exact ih hrest (run_keeps htask burst hs)

/-- what every task keeps is kept until all of them wait -/
theorem settle_keeps {tasks : State → List (Task State)}
    (ht : ∀ u, ∀ task ∈ tasks u, ∀ s t, P s → task s = some t → P t) (rounds : Nat) {s : State} (hs : P s) :
    P (settle tasks rounds s) := by
  induction rounds generalizing s with
  | zero => exact hs
  | succ n ih =>
    have hr := round_keeps (ht s) hs
    simp only [settle]
    split_ifs
    · exact ih hr
    · exact hr

theorem round_append (a b : List (Task State)) (s : State) :
    (round (a ++ b) s).1 = (round b (round a s).1).1 := by
  induction a generalizing s with
  | nil => rfl
  | cons task a ih => exact ih _

theorem run_move {task : Task State} {s t : State} (ht : task s = some t) (moves : Nat) :
    run task (moves + 1) s = ((run task moves t).1, true) := by
  simp only [run, ht]

/-- what a task reaches by one move, and does not undo, is reached after any number of them -/
theorem run_reaches {Q : State → Prop} {task : Task State} (hq : ∀ s t, Q s → task s = some t → Q t)
    (hmove : ∀ s, P s → Q s ∨ ∃ t, task s = some t ∧ Q t) (moves : Nat) {s : State} (hs : P s) :
    Q (run task (moves + 1) s).1 := by
  rcases hmove s hs with hdone | ⟨t, ht, hdone⟩
  · exact run_keeps hq (moves + 1) hdone
  · rw [run_move ht]
    exact run_keeps hq moves hdone

/-- If one of the tasks reaches something at its turn, from wherever the others leave it, and nobody undoes it, then it
is reached before all of them wait. -/
theorem settle_reaches {Q : State → Prop} (tasks : State → List (Task State))
    (hp : ∀ u, ∀ task ∈ tasks u, ∀ s t, P s → task s = some t → P t)
    (hq : ∀ u, ∀ task ∈ tasks u, ∀ s t, Q s → task s = some t → Q t) {task : Task State}
    (hturn : ∀ s, P s → Q (run task burst s).1) {s : State} (hin : task ∈ tasks s) (hs : P s) (rounds : Nat) :
    Q (settle tasks (rounds + 1) s) := by
  have hround : Q (round (tasks s) s).1 := by
    have hp := hp s
    have hq := hq s
    obtain ⟨a, b, hab⟩ := List.append_of_mem hin
    rw [hab] at hp hq ⊢
    rw [round_append]
    have hbefore : P (round a s).1 := round_keeps (fun t ht => hp t (List.mem_append_left _ ht)) hs
    exact round_keeps (fun t ht => hq t (List.mem_append_right _ (List.mem_cons_of_mem _ ht))) (hturn _ hbefore)
  simp only [settle]
  split_ifs
  · exact settle_keeps hq rounds hround
  · exact hround

theorem advanceTo_done {m : Timed State} (done : State → Bool) {target timers : Nat} {s : State}
    (hd : done (m.settle s) = true) : m.advanceTo done target (timers + 1) s = m.settle s := by
  rw [Timed.advanceTo, if_pos hd]

theorem advanceTo_next {m : Timed State} (done : State → Bool) {target timers t : Nat} {s : State}
    (hd : done (m.settle s) = false) (ht : m.nextTimer (m.settle s) = some t) (hle : t ≤ target) :
    m.advanceTo done target (timers + 1) s = m.advanceTo done target timers (m.setNow (m.settle s) t) := by
  rw [Timed.advanceTo, if_neg (by simp [hd])]
  simp only [ht, if_pos hle]

/-- a timer that is still to come is not passed over -/
theorem nextTimer_le {m : Timed State} {s : State} {t : Nat} (hm : t ∈ m.deadlines s) (ht : m.now s < t) :
    ∃ next, m.nextTimer s = some next ∧ m.now s < next ∧ next ≤ t := by
  have hin : t ∈ (m.deadlines s).filter fun t => m.now s < t := by simp [hm, ht]
  cases hn : m.nextTimer s with
  | none =>
    rw [List.min?_eq_none_iff.1 hn] at hin
    cases hin
  | some next =>
    obtain ⟨hnext, hleast⟩ := List.min?_eq_some_iff.1 hn
    have hlater := (List.mem_filter.1 hnext).2
    exact ⟨next, rfl, by simpa using hlater, hleast t hin⟩

/-- what is kept while no time passes, and by the clock, is kept while time passes -/
theorem advanceTo_keeps {m : Timed State} (hsettle : ∀ s, P s → P (m.settle s))
    (hsettled : ∀ s, m.now (m.settle s) = m.now s) (hset : ∀ s t, P s → m.now s ≤ t → P (m.setNow s t))
    (hnow : ∀ s t, m.now (m.setNow s t) = t) (done : State → Bool) {target : Nat} (timers : Nat) {s : State}
    (hs : P s) (ht : m.now s ≤ target) : P (m.advanceTo done target timers s) := by
  induction timers generalizing s with
  | zero => exact hs
  | succ n ih =>
    have hp := hsettle s hs
    rw [← hsettled s] at ht
    simp only [Timed.advanceTo]
    split_ifs
    · exact hp
    · cases hn : m.nextTimer (m.settle s) with
      | none => exact hset _ _ hp ht
      | some t =>
        have hlater : m.now (m.settle s) < t := by
          have hm := (List.min?_eq_some_iff.1 hn).1
          simpa using (List.mem_filter.1 hm).2
        dsimp only
        split_ifs with hle
        · exact ih (hset _ _ hp (Nat.le_of_lt hlater)) ((hnow _ _).symm ▸ hle)
        · exact hset _ _ hp ht

/-! ## One task alone -/

/-- a task that gets nearer to its end with every move is run until it waits -/
theorem run_waits {task : Task State} (left : State → Nat) (hkeep : ∀ s t, P s → task s = some t → P t)
    (hless : ∀ s t, P s → task s = some t → left t < left s) (moves : Nat) {s : State} (hs : P s)
    (hl : left s ≤ moves) : task (run task moves s).1 = none := by
  induction moves generalizing s with
  | zero =>
    cases h : task s with
    | none => exact h
    | some t =>
      have hlt := hless s t hs h
      omega
  | succ n ih =>
    simp only [run]
    cases h : task s with
    | none => exact h
    | some t =>
      have hlt := hless s t hs h
      exact ih (hkeep s t hs h) (by omega)

theorem run_none {task : Task State} {s : State} (h : task s = none) (moves : Nat) : run task moves s = (s, false) := by
  cases moves with
  | zero => rfl
  | succ n => simp [run, h]

theorem settle_none {task : Task State} {s : State} (h : task s = none) (rounds : Nat) :
    settle (fun _ => [task]) rounds s = s := by
  cases rounds with
  | zero => rfl
  | succ n => simp [settle, round, run_none h]

/-- **One task alone is run until it waits**, if it moves no more often than it is run for without a break. -/
theorem settle_waits {task : Task State} (left : State → Nat) (hkeep : ∀ s t, P s → task s = some t → P t)
    (hless : ∀ s t, P s → task s = some t → left t < left s) (rounds : Nat) {s : State} (hs : P s)
    (hl : left s ≤ burst) : P (settle (fun _ => [task]) (rounds + 1) s) ∧
      task (settle (fun _ => [task]) (rounds + 1) s) = none := by
  have hkept : P (run task burst s).1 := run_keeps hkeep burst hs
  have hrun := run_waits left hkeep hless burst hs hl
  have hround : (round [task] s).1 = (run task burst s).1 := rfl
  simp only [settle]
  split_ifs
  · rw [hround, settle_none hrun]
    exact ⟨hkept, hrun⟩
  · rw [hround]
    exact ⟨hkept, hrun⟩

end ChainFeed.Schedule
