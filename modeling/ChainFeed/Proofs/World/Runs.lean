/-
What is carried out is a run: every command to a running system, with all that follows from it, is a list of moves.

- `becomes_advanceUntil`: while time passes the system moves by itself.
- `hub_run`: what a list of moves does to the hub is a list of operations.
- `exec_run`: a command that is about no client without a session is carried out by a list of moves.
-/
import ChainFeed.Proofs.Schedule
import ChainFeed.Proofs.World.Moves

namespace ChainFeed

/-- whether the move is made without anything being done from outside -/
def Move.isOwn : Move → Bool
  | .ask _ => false
  | _ => true

/-- whether the command is carried out while time passes -/
def Command.takesTime : Command → Bool
  | .publish _ | .waitStopped _ | .advance _ => true
  | _ => false

namespace World

/-- whether the one state comes out of the other by a list of moves -/
def Reaches (w w' : World) : Prop :=
  ∃ moves, w' = w.run moves

theorem Reaches.refl (w : World) : Reaches w w := ⟨[], rfl⟩

theorem Reaches.trans {w w' w'' : World} (h : Reaches w w') (h' : Reaches w' w'') : Reaches w w'' := by
  obtain ⟨a, rfl⟩ := h
  obtain ⟨b, rfl⟩ := h'
  exact ⟨a ++ b, (run_append w a b).symm⟩

theorem reaches_move (w : World) (m : Move) : Reaches w (w.move m) := ⟨[m], rfl⟩

/-- whether the one state comes out of the other without anything being done from outside -/
def Becomes (w w' : World) : Prop :=
  ∃ moves : List Move, (∀ m ∈ moves, m.isOwn = true) ∧ w' = w.run moves

theorem Becomes.refl (w : World) : Becomes w w := ⟨[], by simp, rfl⟩

theorem Becomes.move {w w' : World} (h : Becomes w w') {m : Move} (hm : m.isOwn = true) : Becomes w (w'.move m) := by
  obtain ⟨moves, hown, rfl⟩ := h
  refine ⟨moves ++ [m], ?_, (run_concat w moves m).symm⟩
  intro x hx
  rcases List.mem_append.1 hx with hx | hx
  · exact hown x hx
  · exact List.mem_singleton.1 hx ▸ hm

theorem Becomes.reaches {w w' : World} (h : Becomes w w') : Reaches w w' := by
  obtain ⟨moves, -, hw⟩ := h
  exact ⟨moves, hw⟩

theorem Becomes.act {w w' w'' : World} (h : Becomes w w') {a : Actor} (ha : w'.act a = some w'') : Becomes w w'' := by
  have hm := h.move (m := .act a) rfl
  rwa [show w'.move (.act a) = w'' by simp [World.move, ha]] at hm

/-- the clock is set forward -/
theorem Becomes.setNow {w w' : World} (h : Becomes w w') {t : Nat} (ht : w'.now ≤ t) :
    Becomes w { w' with now := t } := by
  have hm := h.move (m := .wait (t - w'.now)) rfl
  rwa [show w'.move (.wait (t - w'.now)) = { w' with now := t } by simp [World.move, Nat.add_sub_of_le ht]] at hm

/-- tasks take no time -/
theorem now_act {w w' : World} {a : Actor} (ha : w.act a = some w') : w'.now = w.now := by
  have hset : ∀ o : Option Hub, o.map w.setHub = some w' → w'.now = w.now := fun o ho => by
    obtain ⟨h, -, rfl⟩ := Option.map_eq_some_iff.1 ho
    rfl
  have hsession : ∀ (i : Nat) step, w.sessionStep i step = some w' → w'.now = w.now := fun i step hs => by
    unfold sessionStep at hs
    split at hs
    · cases hs
    · obtain ⟨ps, -, rfl⟩ := Option.map_eq_some_iff.1 hs
      rfl
  cases a with
  | hub =>
    simp only [act] at ha
    split_ifs at ha
    exact hset _ ha
  | producer | ticker | heartbeat => exact hset _ ha
  | connect | receive | send | close =>
    simp only [act] at ha
    exact hsession _ _ ha

theorem Becomes.settle {w w' : World} (h : Becomes w w') : Becomes w w'.settle ∧ w'.settle.now = w'.now := by
  have hmoves : ∀ u : World, ∀ task ∈ u.actors.map (fun a w => World.act w a), ∀ s t,
      Becomes w s ∧ s.now = w'.now → task s = some t → Becomes w t ∧ t.now = w'.now := by
    intro u task ht s t hs hst
    obtain ⟨a, -, rfl⟩ := List.mem_map.1 ht
    exact ⟨hs.1.act hst, (now_act hst).trans hs.2⟩
  exact Schedule.settle_keeps hmoves w'.rounds ⟨h, rfl⟩

theorem now_settle (w : World) : w.settle.now = w.now :=
  (Becomes.refl w).settle.2

/-- what one task reaches at its turn, from wherever the others leave it, and nobody undoes, is reached without time
passing -/
theorem settle_reaches {P Q : World → Prop} {w : World} {a : Actor} (hin : a ∈ w.actors)
    (hp : ∀ (b : Actor) v v', P v → v.act b = some v' → P v') (hq : ∀ (b : Actor) v v', Q v → v.act b = some v' → Q v')
    (hturn : ∀ v, P v → Q (Schedule.run (fun v => World.act v a) Schedule.burst v).1) (hw : P w) : Q w.settle := by
  obtain ⟨rounds, hrounds⟩ : ∃ rounds, w.rounds = rounds + 1 := ⟨_, rfl⟩
  unfold settle
  rw [hrounds]
  refine Schedule.settle_reaches _ ?_ ?_ hturn (List.mem_map_of_mem hin) hw rounds
  · intro u task ht v v' hv hvt
    obtain ⟨b, -, rfl⟩ := List.mem_map.1 ht
    exact hp b v v' hv hvt
  · intro u task ht v v' hv hvt
    obtain ⟨b, -, rfl⟩ := List.mem_map.1 ht
    exact hq b v v' hv hvt

/-- time passes, and nothing is done from outside -/
theorem becomes_advanceUntil (w : World) (done : World → Bool) (ms : Nat) :
    Becomes w (timed.advanceUntil done ms w) :=
  Schedule.advanceTo_keeps (P := Becomes w) (fun _ hs => hs.settle.1) now_settle (fun _ _ hs ht => hs.setNow ht)
    (fun _ _ => rfl) done _ (.refl w) (Nat.le_add_right _ _)

theorem reaches_perform {w w' : World} {c : Command} {r : Reply} (hc : c.isPlain = true ∨ c.takesTime = true)
    (h : w.perform c = .ok (w', r)) : Reaches w w' := by
  rcases hc with hc | hc
  · have hm := reaches_move w (.ask c)
    rwa [show w.move (.ask c) = w' by simp [move, hc, h]] at hm
  · cases c with
    | publish e =>
      have hask := reaches_move w (.ask (.publishAll [e]))
      rw [show w.move (.ask (.publishAll [e])) = w.setHub (w.hub.publish [e]).1 from rfl] at hask
      have hlast : (w.publish e).1 = w' := by
        simp only [perform] at h
        split at h <;> cases h <;> simp [*]
      have hwait : (w.publish e).1 = timed.advanceUntil (fun u => u.isPublished (w.hub.publish [e]).2)
          w.hub.config.publishTimeout (w.setHub (w.hub.publish [e]).1) := by simp only [publish]
      rw [← hlast, hwait]
      exact hask.trans (becomes_advanceUntil _ _ _).reaches
    | waitStopped ms =>
      simp only [perform, waitStopped, Except.ok.injEq, Prod.mk.injEq] at h
      exact h.1 ▸ (becomes_advanceUntil _ _ _).reaches
    | advance ms =>
      simp only [perform, advance, Schedule.Timed.advance, Except.ok.injEq, Prod.mk.injEq] at h
      exact h.1 ▸ (becomes_advanceUntil _ _ _).reaches
    | _ => cases hc

/-- **Commands are runs.** Whatever is done to a running system, its state after all that follows is reached by a
list of moves. -/
theorem exec_run {w w' : World} {c : Command} {r : Reply} (hc : c.isPlain = true ∨ c.takesTime = true)
    (h : w.exec c = .ok (w', r)) : Reaches w w' := by
  unfold exec at h
  cases hp : w.perform c with
  | error e => simp [hp, Except.map] at h
  | ok q =>
    simp only [hp, Except.map, Except.ok.injEq, Prod.mk.injEq] at h
    exact h.1 ▸ (reaches_perform hc hp).trans (Becomes.refl q.1).settle.1.reaches

/-- what a list of moves does to the hub is a list of operations -/
theorem hub_run (w : World) (moves : List Move) : ∃ ops, (w.run moves).hub = w.hub.run ops := by
  induction moves generalizing w with
  | nil => exact ⟨[], rfl⟩
  | cons m moves ih =>
    obtain ⟨a, ha⟩ := hub_move w m
    obtain ⟨b, hb⟩ := ih (w.move m)
    refine ⟨a ++ b, ?_⟩
    rw [show w.run (m :: moves) = (w.move m).run moves from rfl, hb, ha]
    exact (Trace.run_append _ _ _ _).symm

end World

end ChainFeed
