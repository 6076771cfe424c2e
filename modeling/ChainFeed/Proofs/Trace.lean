/-
Runs of a machine that makes one step for each input, and the notes that are taken along a run.

- `run_induction`: what holds at the start and is kept by every step holds after every run.
- `run_unchanged`: what no step of a kind changes is not changed by a run of such steps.
- `record_balanced`, `record_conserved`: if every step balances what is held, what comes in and what goes out, so does
  every run.
-/
import Mathlib.Data.List.Basic

namespace ChainFeed.Trace

variable {State Input Note : Type}

/-- the state after a list of inputs -/
def run (step : State → Input → State) (s : State) (inputs : List Input) : State :=
  inputs.foldl step s

/-- the notes that are taken at each step of a run, oldest first -/
def record (step : State → Input → State) (note : State → Input → List Note) (s : State) :
    List Input → List Note
  | [] => []
  | i :: inputs => note s i ++ record step note (step s i) inputs

variable (step : State → Input → State) (note : State → Input → List Note)

@[simp] theorem run_nil (s : State) : run step s [] = s := rfl

@[simp] theorem run_cons (s : State) (i : Input) (inputs : List Input) :
    run step s (i :: inputs) = run step (step s i) inputs := rfl

theorem run_append (s : State) (a b : List Input) :
    run step s (a ++ b) = run step (run step s a) b := by
  simp [run, List.foldl_append]

theorem run_concat (s : State) (inputs : List Input) (i : Input) :
    run step s (inputs ++ [i]) = step (run step s inputs) i := by
  simp [run_append]

@[simp] theorem record_nil (s : State) : record step note s [] = [] := rfl

theorem record_append (s : State) (a b : List Input) :
    record step note s (a ++ b) = record step note s a ++ record step note (run step s a) b := by
  induction a generalizing s with
  | nil => rfl
  | cons i a ih => simp [record, ih, List.append_assoc]

theorem record_concat (s : State) (inputs : List Input) (i : Input) :
    record step note s (inputs ++ [i]) = record step note s inputs ++ note (run step s inputs) i := by
  simp [record_append, record]

/-- notes that come in batches can be read one by one -/
theorem flatten_record (note : State → Input → List (List Note)) (s : State) (inputs : List Input) :
    (record step note s inputs).flatten = record step (fun s i => (note s i).flatten) s inputs := by
  induction inputs generalizing s with
  | nil => rfl
  | cons i inputs ih => simp [record, ih]

variable {step note}

/-- What holds at the start and is kept by every step holds after every run. -/
theorem run_induction {P : State → Prop} (hstep : ∀ s i, P s → P (step s i)) {s : State} (h : P s)
    (inputs : List Input) : P (run step s inputs) := by
  induction inputs generalizing s with
  | nil => exact h
  | cons i inputs ih => exact ih (hstep s i h)

/-- What no step of a kind changes is not changed by a run of such steps. -/
theorem run_unchanged {A : Type} {f : State → A} {P : State → Prop} {C : Input → Prop}
    (hkeep : ∀ s i, P s → P (step s i)) (hstep : ∀ s i, P s → C i → f (step s i) = f s) {s : State} (h : P s)
    {inputs : List Input} (hc : ∀ i ∈ inputs, C i) : f (run step s inputs) = f s := by
  induction inputs generalizing s with
  | nil => rfl
  | cons i inputs ih =>
    obtain ⟨hi, hc⟩ := List.forall_mem_cons.1 hc
    calc f (run step (step s i) inputs) = f (step s i) := ih (hkeep s i h) hc
      _ = f s := hstep s i h hi

/-- **Conservation along a run.** If every step of a kind balances what is held and comes in against what goes out
and is held afterwards, then so does every run of such steps. -/
theorem record_balanced {P : State → Prop} {C : Input → Prop} (held : State → List Note)
    (received released : State → Input → List Note) (hkeep : ∀ s i, P s → C i → P (step s i))
    (hstep : ∀ s i, P s → C i → held s ++ received s i = released s i ++ held (step s i))
    {s : State} (h : P s) {inputs : List Input} (hc : ∀ i ∈ inputs, C i) :
    held s ++ record step received s inputs =
      record step released s inputs ++ held (run step s inputs) := by
  induction inputs generalizing s with
  | nil => simp
  | cons i inputs ih =>
    obtain ⟨hi, hc⟩ := List.forall_mem_cons.1 hc
    calc held s ++ (received s i ++ record step received (step s i) inputs)
        = released s i ++ (held (step s i) ++ record step received (step s i) inputs) := by
          rw [← List.append_assoc, hstep s i h hi, List.append_assoc]
      _ = released s i ++ (record step released (step s i) inputs ++ held (run step (step s i) inputs)) := by
          rw [ih (hkeep s i h hi) hc]
      _ = _ := by rw [run_cons, record, List.append_assoc]

/-- conservation, if steps of all kinds balance -/
theorem record_conserved {P : State → Prop} (held : State → List Note)
    (received released : State → Input → List Note) (hkeep : ∀ s i, P s → P (step s i))
    (hstep : ∀ s i, P s → held s ++ received s i = released s i ++ held (step s i))
    {s : State} (h : P s) (inputs : List Input) :
    held s ++ record step received s inputs =
      record step released s inputs ++ held (run step s inputs) :=
  record_balanced (C := fun _ => True) held received released (fun s i h _ => hkeep s i h)
    (fun s i h _ => hstep s i h) h fun _ _ => trivial

end ChainFeed.Trace
