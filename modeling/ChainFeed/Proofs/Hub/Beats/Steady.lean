/-
The heartbeat against its clock.

A heartbeat shares its relay with other senders and with a receiver, which act in any order between its turns. Main
statements:
- `advanceTo_passes`: letting time pass is a run of the heartbeat's own turns, in which it is woken in time.
- `ends_turn`: why the heartbeat ends; `ended_run`: it does nothing more then.
- `gaveUp_turn`: a ping that has waited for as long as it may, and has no place, is taken out of the line.
- `steady`: no ping comes early, one attempt at a time, none sent after it was given up, and why the heartbeat ends.
-/
import ChainFeed.Proofs.Hub.Beats.Attempts
import ChainFeed.Proofs.Schedule

namespace ChainFeed.TimedHeartbeat

variable {h : TimedHeartbeat}

/-! ## Letting time pass -/

/-- whether nothing happens but that time passes and the heartbeat gets its turns -/
def Input.isPassing : Input → Bool
  | .turn | .wait _ => true
  | _ => false

/-- the moves that the heartbeat can still make without time passing -/
def left (h : TimedHeartbeat) : Nat :=
  if h.heartbeat.running then
    1 + 2 * min (h.now + 1 - h.heartbeat.deadline) (tolerance + 1) + if h.heartbeat.waiting then 1 else 0
  else 0

section

variable {k : TimedHeartbeat}

theorem left_pos (hr : h.heartbeat.running = true) : 0 < h.left := by
  unfold left
  rw [if_pos hr]
  omega

theorem left_ended (hr : h.heartbeat.running = false) : h.left = 0 := by
  simp [left, hr]

/-- an attempt uses up a beat -/
theorem left_begins (hi : h.heartbeat.interval ≠ 0) (hbegins : h.begins = true) :
    min (h.now + 1 - nextDeadline h.heartbeat.deadline h.heartbeat.interval h.now) (tolerance + 1) <
      min (h.now + 1 - h.heartbeat.deadline) (tolerance + 1) := by
  obtain ⟨-, -, -, hd, -⟩ := begins_eq_true.1 hbegins
  unfold nextDeadline tolerance
  split_ifs <;> omega

theorem left_step (ht : h.Tidy) (hi : h.heartbeat.interval ≠ 0) (hk : h.step = some k) : k.left < h.left := by
  have hrunning := step_running hk
  have hturned := turned ht
  rw [turn, hk, Option.getD_some] at hturned
  cases hturned with
  | slept asleep => simp [asleep] at hk
  | ended _ _ _ _ running => exact lt_of_eq_of_lt (left_ended running) (left_pos hrunning)
  | lined begins settings waiting running =>
    have hless := left_begins hi begins
    obtain ⟨-, -, hw, -, -⟩ := begins_eq_true.1 begins
    simp only [left, running, hrunning, waiting, hw, settings.deadline running, begins, if_true]
    simp only [Bool.false_eq_true, if_false]
    omega
  | @settled b _ fate began settings waiting running =>
    by_cases hgoes : fate = .abandoned
    · have hended : b.running = false := by simp [running, hgoes]
      exact lt_of_eq_of_lt (left_ended hended) (left_pos hrunning)
    rw [decide_eq_true hgoes] at running
    simp only [left, running, hrunning, waiting, settings.deadline running, if_true, Bool.false_eq_true, if_false]
    by_cases hbegins : h.begins = true
    · have hless := left_begins hi hbegins
      rw [if_pos hbegins]
      omega
    · rw [if_neg hbegins, if_pos (began.resolve_left hbegins)]
      omega

/-- without time passing the heartbeat comes to sleep, by turns of its task -/
theorem settle_turns (ht : h.Tidy) (hi : h.heartbeat.interval ≠ 0) :
    ∃ turns, h.settle = h.run (List.replicate turns .turn) ∧ h.settle.step = none ∧ h.settle.now = h.now ∧
      h.settle.Tidy ∧ h.settle.heartbeat.interval ≠ 0 := by
  have hkeep : ∀ u v : TimedHeartbeat,
      (u.Tidy ∧ u.heartbeat.interval ≠ 0 ∧ u.now = h.now ∧ ∃ turns, u = h.run (List.replicate turns .turn)) →
      u.step = some v →
      v.Tidy ∧ v.heartbeat.interval ≠ 0 ∧ v.now = h.now ∧ ∃ turns, v = h.run (List.replicate turns .turn) := by
    rintro u v ⟨htidy, hinterval, hnow, turns, hrun⟩ hv
    have hturn : u.turn = v := by rw [turn, hv, Option.getD_some]
    have hturned := turned htidy
    rw [hturn] at hturned
    refine ⟨tidy_turned htidy hturned, ?_, ?_, turns + 1, ?_⟩
    · cases hturned with
      | slept => exact hinterval
      | ended _ settings | lined _ settings | settled _ _ settings => exact settings.interval ▸ hinterval
    · cases hturned <;> exact hnow
    · rw [List.replicate_succ', run_concat, ← hrun]
      exact hturn.symm
  have hstart : h.Tidy ∧ h.heartbeat.interval ≠ 0 ∧ h.now = h.now ∧ ∃ turns, h = h.run (List.replicate turns .turn) :=
    ⟨ht, hi, rfl, 0, rfl⟩
  have hfew : h.left ≤ Schedule.burst := by
    unfold left tolerance Schedule.burst
    split_ifs <;> omega
  obtain ⟨⟨htidy, hinterval, hnow, turns, hrun⟩, hasleep⟩ :=
    Schedule.settle_waits left hkeep (fun u v hu hv => left_step hu.1 hu.2.1 hv) 3 hstart hfew
  exact ⟨turns, hrun, hasleep, hnow, htidy, hinterval⟩

/-- a heartbeat that sleeps wants to be woken later -/
theorem now_lt_timers (ht : h.Tidy) (hs : h.step = none) {d : Nat} (hd : d ∈ h.timers) : h.now < d := by
  have hnone := step_eq_none.1 hs
  unfold Heartbeat.step at hnone
  by_cases hw : h.heartbeat.waiting = true
  · obtain ⟨hr, limit, hline⟩ := ht.sending hw
    obtain rfl : d = limit := by simpa [timers, Heartbeat.deadlines, hw, hline] using hd
    rw [if_neg (by simp [hr])] at hnone
    split_ifs at hnone
    obtain ⟨offer, ho, hlt⟩ := Heartbeat.beat_eq_none hnone
    rw [hline] at ho
    cases ho
    exact hlt
  · have hidle : h.heartbeat.waiting = false := by simpa using hw
    obtain ⟨hr, rfl⟩ : h.heartbeat.running = true ∧ d = h.heartbeat.deadline := by
      simpa [timers, Heartbeat.deadlines, hidle, ht.idle hidle] using hd
    by_contra hlate
    rw [if_neg (by simp [hr]), if_neg hw, if_pos (Nat.le_of_not_lt hlate)] at hnone
    simp only at hnone
    split_ifs at hnone
    obtain ⟨offer, ho, -⟩ := Heartbeat.beat_eq_none hnone
    rw [ht.idle hidle] at ho
    cases ho

theorem timers_subset {d : Nat} (hd : d ∈ h.timers) : d ∈ timed.deadlines h := by
  refine List.mem_append.2 ((List.mem_append.1 hd).imp_right fun hd => ?_)
  obtain ⟨offer, hin, rfl⟩ := List.mem_map.1 hd
  exact List.mem_map_of_mem (List.mem_of_mem_filter hin)

/-- a heartbeat that sleeps is not woken too late, if time passes up to the next timer at most -/
theorem isPunctual_wait (ht : h.Tidy) (hs : h.step = none) {now : Nat} (hnow : h.now ≤ now)
    (hnext : ∀ t, timed.nextTimer h = some t → now ≤ t) : Input.isPunctual h (.wait (now - h.now)) = true := by
  refine Bool.and_eq_true_iff.2 ⟨by rw [hs]; rfl, List.all_eq_true.2 fun d hd => decide_eq_true ?_⟩
  obtain ⟨t, ht, -, hle⟩ := Schedule.nextTimer_le (m := timed) (timers_subset hd) (now_lt_timers ht hs hd)
  have := hnext t ht
  omega

theorem isPunctual_turns (h : TimedHeartbeat) (turns : Nat) : h.isPunctual (List.replicate turns .turn) = true := by
  induction turns generalizing h with
  | zero => rfl
  | succ n ih => exact ih h.turn

/-- the heartbeat does what it can, and then time passes up to the next timer at most -/
theorem settle_wait (ht : h.Tidy) (hi : h.heartbeat.interval ≠ 0) {now : Nat} (hnow : h.now ≤ now)
    (hnext : ∀ t, timed.nextTimer h.settle = some t → now ≤ t) : ∃ inputs : List Input,
      (∀ i ∈ inputs, i.isPassing = true) ∧ h.isPunctual inputs = true ∧ h.run inputs = { h.settle with now } := by
  obtain ⟨turns, hrun, hasleep, hsame, htidy, -⟩ := settle_turns ht hi
  refine ⟨List.replicate turns .turn ++ [.wait (now - h.settle.now)], ?_, ?_, ?_⟩
  · intro i hin
    rcases List.mem_append.1 hin with hin | hin
    · rw [List.eq_of_mem_replicate hin]
      rfl
    · rw [List.mem_singleton.1 hin]
      rfl
  · rw [isPunctual_append, isPunctual_turns, ← hrun, Bool.true_and, isPunctual, isPunctual, Bool.and_true]
    exact isPunctual_wait htidy hasleep (hsame.symm ▸ hnow) hnext
  · rw [run_concat, ← hrun]
    show { h.settle with now := h.settle.now + (now - h.settle.now) } = { h.settle with now }
    rw [hsame, Nat.add_sub_cancel' hnow]

/-- **Letting time pass is a run of the heartbeat's own turns, in which it is always woken in time.** -/
theorem advanceTo_passes (ht : h.Tidy) (hi : h.heartbeat.interval ≠ 0) (timers : Nat) {target : Nat}
    (hle : h.now ≤ target) (htimers : target < h.now + timers) :
    ∃ inputs : List Input, (∀ i ∈ inputs, i.isPassing = true) ∧ h.isPunctual inputs = true ∧
      h.run inputs = timed.advanceTo (fun _ => false) target timers h ∧ (h.run inputs).now = target := by
  induction timers generalizing h with
  | zero => omega
  | succ n ih =>
    obtain ⟨-, -, -, hsame, htidy, hinterval⟩ := settle_turns ht hi
    by_cases hreached : ∃ t, timed.nextTimer h.settle = some t ∧ t ≤ target
    · obtain ⟨t, hnext, hearly⟩ := hreached
      have hlater : h.settle.now < t := by
        have hin := (List.min?_eq_some_iff.1 hnext).1
        exact of_decide_eq_true (List.mem_filter.1 hin).2
      have htime : h.now ≤ t := hsame ▸ Nat.le_of_lt hlater
      obtain ⟨before, hpassing, hpunctual, hrun⟩ := settle_wait ht hi htime fun t' ht' =>
        Nat.le_of_eq (Option.some.inj (hnext.symm.trans ht'))
      have hmoved : Tidy { h.settle with now := t } := ⟨htidy.idle, htidy.sending⟩
      obtain ⟨after, hpassing', hpunctual', hrun', hnow⟩ := ih hmoved hinterval hearly (by simp only; omega)
      have happend : h.run (before ++ after) = { h.settle with now := t }.run after := by rw [run_append, hrun]
      refine ⟨before ++ after, ?_, ?_, ?_, ?_⟩
      · intro i hin
        exact (List.mem_append.1 hin).elim (hpassing i) (hpassing' i)
      · rw [isPunctual_append, hpunctual, hrun, hpunctual']
        rfl
      · rw [happend, hrun', Schedule.advanceTo_next (m := timed) _ rfl hnext hearly]
        rfl
      · rw [happend, hnow]
    · have hlate : ∀ t, timed.nextTimer h.settle = some t → target ≤ t := fun t ht =>
        Nat.le_of_not_le fun hle => hreached ⟨t, ht, hle⟩
      obtain ⟨inputs, hpassing, hpunctual, hrun⟩ := settle_wait ht hi hle hlate
      refine ⟨inputs, hpassing, hpunctual, ?_, by rw [hrun]⟩
      rw [hrun]
      simp only [Schedule.Timed.advanceTo, Bool.false_eq_true, if_false]
      cases hnext : timed.nextTimer (timed.settle h) with
      | none => rfl
      | some t =>
        dsimp only
        rw [if_neg fun hle => hreached ⟨t, hnext, hle⟩]
        rfl

theorem advance_passes (ht : h.Tidy) (hi : h.heartbeat.interval ≠ 0) (ms : Nat) : ∃ inputs : List Input,
    (∀ i ∈ inputs, i.isPassing = true) ∧ h.isPunctual inputs = true ∧ h.run inputs = h.advance ms ∧
      (h.advance ms).now = h.now + ms := by
  obtain ⟨inputs, hpassing, hpunctual, hrun, hnow⟩ :=
    advanceTo_passes ht hi (ms + 1) (Nat.le_add_right h.now ms) (by omega)
  exact ⟨inputs, hpassing, hpunctual, hrun, (congrArg now hrun).symm.trans hnow⟩

end

/-! ## The end -/

theorem turn_signals (h : TimedHeartbeat) : h.turn.shutdown = h.shutdown ∧ h.turn.held = h.held ∧
    h.turn.relay.receiving = h.relay.receiving := by
  cases hstep : h.step with
  | none =>
    rw [turn, hstep]
    exact ⟨rfl, rfl, rfl⟩
  | some k =>
    rw [turn, hstep, Option.getD_some]
    obtain ⟨x, hx, rfl⟩ := Option.map_eq_some_iff.1 hstep
    exact ⟨rfl, rfl, (Heartbeat.step_kept hx).2⟩

/-- nothing else tells the heartbeat to end, closes the relay or lets go of it -/
theorem act_signals (i : Input) : ((h.act i).shutdown = true → h.shutdown = true ∨ i = .cancel) ∧
    ((h.act i).relay.receiving = false → h.relay.receiving = false ∨ i = .closeReceiver) ∧
    ((h.act i).held = false → h.held = false ∨ i = .dropSenders) := by
  cases i with
  | turn =>
    obtain ⟨hshutdown, hheld, hreceiving⟩ := h.turn_signals
    simp only [act, hshutdown, hheld, hreceiving]
    exact ⟨Or.inl, Or.inl, Or.inl⟩
  | send e =>
    simp only [act, fill, Relay.tryPush]
    split_ifs <;> exact ⟨Or.inl, Or.inl, Or.inl⟩
  | offer task e patience =>
    simp only [act]
    split_ifs
    · cases ho : h.relay.attempt (.producer task) e h.now patience with
      | none => exact ⟨Or.inl, Or.inl, Or.inl⟩
      | some x => exact ⟨Or.inl, fun hr => Or.inl ((Relay.receiving_attempt ho) ▸ hr), Or.inl⟩
    · exact ⟨Or.inl, Or.inl, Or.inl⟩
  | closeReceiver => exact ⟨Or.inl, fun _ => Or.inr rfl, Or.inl⟩
  | dropSenders => exact ⟨Or.inl, Or.inl, fun _ => Or.inr rfl⟩
  | cancel => exact ⟨fun _ => Or.inr rfl, Or.inl, Or.inl⟩
  | wait | withdraw | receive => exact ⟨Or.inl, Or.inl, Or.inl⟩

/-- a heartbeat that has ended does nothing more -/
theorem ended_act (hr : h.heartbeat.running = false) (i : Input) : (h.act i).heartbeat = h.heartbeat ∧
    i.atTurn (if h.begins then [h.now] else []) = [] ∧ i.atTurn (entering h h.turn) = [] := by
  have hasleep : h.turn = h := by
    cases hstep : h.step with
    | none => rw [turn, hstep, Option.getD_none]
    | some k => exact absurd (step_running hstep) (by simp [hr])
  have hbegins : h.begins = false := by simp [begins, hr]
  by_cases hi : i = .turn
  · subst hi
    refine ⟨by rw [act, hasleep], by simp [hbegins, Input.atTurn], ?_⟩
    rw [hasleep, entering_same rfl]
    rfl
  · exact ⟨(act_apart hi).1, Input.atTurn_of_ne hi _, Input.atTurn_of_ne hi _⟩

theorem ended_run (hr : h.heartbeat.running = false) (inputs : List Input) :
    (h.run inputs).heartbeat = h.heartbeat ∧ begun h inputs = [] ∧ entered h inputs = [] := by
  induction inputs generalizing h with
  | nil => exact ⟨rfl, rfl, rfl⟩
  | cons i inputs ih =>
    obtain ⟨hsame, hbegun, hentered⟩ := ended_act hr i
    obtain ⟨hsame', hbegun', hentered'⟩ := ih (h := h.act i) (hsame ▸ hr)
    refine ⟨hsame'.trans hsame, ?_, ?_⟩
    · rw [begun, Trace.record, hbegun, List.nil_append]
      exact hbegun'
    · rw [entered, Trace.record, hentered, List.nil_append]
      exact hentered'

section

variable {capacity interval patience : Nat}

theorem signals_run (hs : start capacity interval patience = .ok h) (inputs : List Input) :
    ((h.run inputs).shutdown = true → .cancel ∈ inputs) ∧
      ((h.run inputs).relay.receiving = false → .closeReceiver ∈ inputs) ∧
      ((h.run inputs).held = false → .dropSenders ∈ inputs) := by
  induction inputs using List.reverseRecOn with
  | nil =>
    obtain ⟨relay, hr, rfl⟩ := start_eq hs
    exact ⟨nofun, fun hreceiving => absurd hreceiving (by simp [run, (Relay.create_eq hr).2]), nofun⟩
  | append_singleton inputs i ih =>
    obtain ⟨hcancel, hclose, hdrop⟩ := ih
    obtain ⟨hcancel', hclose', hdrop'⟩ := act_signals (h := h.run inputs) i
    rw [run_concat]
    have hin : ∀ {j : Input}, j ∈ inputs ∨ i = j → j ∈ inputs ++ [i] := by
      rintro j (hj | rfl)
      · exact List.mem_append_left _ hj
      · exact List.mem_append_right _ (List.mem_singleton.2 rfl)
    exact ⟨fun hx => hin ((hcancel' hx).imp_left hcancel), fun hx => hin ((hclose' hx).imp_left hclose),
      fun hx => hin ((hdrop' hx).imp_left hdrop)⟩

/-- The beat at which nobody else could send, an order to end, or the closed relay: nothing else ends the heartbeat. -/
theorem ends_turn (hs : start capacity interval patience = .ok h) {before : List Input} {i : Input}
    (hr : (h.run before).heartbeat.running = true) (hended : ((h.run before).act i).heartbeat.running = false) :
    i = .turn ∧ (.cancel ∈ before ∨ .closeReceiver ∈ before ∨ .dropSenders ∈ before ∧
      (h.run before).heartbeat.waiting = false ∧ (h.run before).heartbeat.deadline ≤ (h.run before).now) := by
  have hturn : i = .turn := by
    by_contra hne
    rw [(act_apart hne).1, hr] at hended
    cases hended
  subst hturn
  refine ⟨rfl, ?_⟩
  obtain ⟨hcancel, hclose, hdrop⟩ := signals_run hs before
  have hturned := turned (beating_run hs before).tidy
  rw [act] at hended
  generalize (h.run before).turn = k at hturned hended
  cases hturned with
  | slept => exact absurd hr (by simp [hended])
  | ended _ _ was _ _ _ _ cause =>
    rcases cause with hshutdown | ⟨hheld, hd⟩
    · exact Or.inl (hcancel hshutdown)
    · exact Or.inr (Or.inr ⟨hdrop hheld, was, hd⟩)
  | lined _ _ _ running =>
    rw [running] at hended
    cases hended
  | settled fate _ _ _ running _ _ _ _ cause =>
    rw [running] at hended
    have habandoned : fate = .abandoned := by simpa using hended
    exact (cause habandoned).imp hcancel fun hclosed => Or.inl (hclose hclosed)

/-- once it has ended, it has nothing in line, and all that is noted of it was noted before -/
theorem stays_run (hs : start capacity interval patience = .ok h) {before : List Input}
    (hr : (h.run before).heartbeat.running = false) (after : List Input) :
    (h.run (before ++ after)).heartbeat.running = false ∧ (h.run (before ++ after)).relay.line .heartbeat = [] ∧
      begun h (before ++ after) = begun h before ∧ entered h (before ++ after) = entered h before := by
  obtain ⟨hsame, hbegun, hentered⟩ := ended_run hr after
  rw [← run_append] at hsame
  have hidle : (h.run before).heartbeat.waiting = false := by
    by_contra hw
    rw [((beating_run hs before).tidy.sending (by simpa using hw)).1] at hr
    cases hr
  refine ⟨by rw [hsame, hr], (beating_run hs _).tidy.idle (by rw [hsame, hidle]), ?_, ?_⟩
  · rw [begun, Trace.record_append]
    exact (congrArg _ hbegun).trans (List.append_nil _)
  · rw [entered, Trace.record_append]
    exact (congrArg _ hentered).trans (List.append_nil _)

/-- a ping that has waited for as long as it may, and still has no place, is taken out of the line -/
theorem gaveUp_turn (hs : start capacity interval patience = .ok h) {before : List Input} {b : Nat}
    (hw : (h.run before).heartbeat.waiting = true) (hb : b ∈ (begun h before).getLast?)
    (hlate : b + patience ≤ (h.run before).now) (hplace : (h.run before).relay.hasPlace .heartbeat = false) :
    ((h.run before).turn.relay.line .heartbeat = []) ∧ entering (h.run before) (h.run before).turn = [] := by
  have hbeating := beating_run hs before
  obtain ⟨hr, past, b', hbegun, -, hline⟩ := hbeating.sending hw
  obtain rfl : b' = b := by simpa [hbegun] using hb
  have hturned := turned hbeating.tidy
  generalize (h.run before).turn = k at hturned ⊢
  cases hturned with
  | slept asleep =>
    have hlater := now_lt_timers hbeating.tidy asleep (d := b' + patience) (by simp [timers, hline])
    omega
  | ended _ _ was => exact absurd hw (by simp [was])
  | lined begins =>
    obtain ⟨-, -, hidle, -, -⟩ := begins_eq_true.1 begins
    exact absurd hw (by simp [hidle])
  | settled fate _ _ _ _ line queue place =>
    refine ⟨line, entering_same ?_⟩
    have hnot : fate ≠ .sent := fun hsent => absurd (place hsent (by simp [hline])) (by simp [hplace])
    simpa [hnot] using queue

/-- as many notes as there are come by a time, if each comes an interval after the one before at the earliest -/
theorem length_filter_le_div {Note : Type} (hi : 0 < interval) {l : List (Nat × Note)}
    (hl : ∀ k t e, l[k]? = some (t, e) → (k + 1) * interval ≤ t) (now : Nat) :
    (l.filter fun x => x.1 ≤ now).length ≤ now / interval := by
  induction l using List.reverseRecOn with
  | nil => exact Nat.zero_le _
  | append_singleton l x ih =>
    have hbefore : ∀ k t e, l[k]? = some (t, e) → (k + 1) * interval ≤ t := fun k t e hin =>
      hl k t e ((List.getElem?_append_left (List.getElem?_eq_some_iff.1 hin).1).trans hin)
    have hlast : (l.length + 1) * interval ≤ x.1 := hl l.length x.1 x.2 List.getElem?_concat_length
    rw [List.filter_append, List.length_append]
    by_cases hx : x.1 ≤ now
    · have hfew := List.length_filter_le (fun x : Nat × Note => decide (x.1 ≤ now)) l
      have hall : l.length + 1 ≤ now / interval := (Nat.le_div_iff_mul_le hi).2 (Nat.le_trans hlast hx)
      have hone := List.length_filter_le (fun x : Nat × Note => decide (x.1 ≤ now)) [x]
      rw [List.length_singleton] at hone
      omega
    · simpa [hx] using ih hbefore

/-! ## What the heartbeat does and does not -/

/-- what is known of a heartbeat, whatever happened to it and to its relay -/
structure Steady (interval patience : Nat) (h : TimedHeartbeat) (inputs : List Input) : Prop where
  /-- no ping comes before its beat -/
  late : ∀ k t e, (entered h inputs)[k]? = some (t, e) → (k + 1) * interval ≤ t
  few : ∀ now, ((entered h inputs).filter fun x => x.1 ≤ now).length ≤ now / interval
  /-- one attempt at a time: all that began have ended, except for the one in line -/
  single : (begun h inputs).length = (settled h inputs).length + ((h.run inputs).relay.line .heartbeat).length ∧
    ((h.run inputs).relay.line .heartbeat).length ≤ 1
  /-- what the heartbeat puts in are the pings of the attempts that end well -/
  pings : entered h inputs = ((settled h inputs).filter fun x => x.2 = .sent).map fun x => (x.1, .ping)
  /-- an attempt is skipped after the heartbeat's patience only -/
  patient : ∀ b t fate, (b, t, fate) ∈ (begun h inputs).zip (settled h inputs) →
    b ≤ t ∧ (fate = .skipped → b + patience ≤ t)
  /-- an attempt that has waited for that long, and has no place, ends there and puts nothing in -/
  skips : ∀ before after b, inputs = before ++ .turn :: after → (h.run before).heartbeat.waiting = true →
    b ∈ (begun h before).getLast? → b + patience ≤ (h.run before).now →
    (h.run before).relay.hasPlace .heartbeat = false →
    ((h.run (before ++ [.turn])).relay.line .heartbeat = []) ∧ entered h (before ++ [.turn]) = entered h before
  /-- no attempt lasts longer, if the heartbeat is woken in time -/
  timely : h.isPunctual inputs = true → InTime patience (begun h inputs) (settled h inputs) (h.run inputs)
  /-- it is woken in time if time is let pass -/
  passes : (h.run inputs).heartbeat.interval = interval ∧ ∀ ms, ∃ passing : List Input,
    (∀ i ∈ passing, i.isPassing = true) ∧ (h.run inputs).isPunctual passing = true ∧
    (h.run inputs).run passing = (h.run inputs).advance ms ∧ ((h.run inputs).advance ms).now = (h.run inputs).now + ms
  /-- it keeps the relay open while an attempt is under way, and not longer -/
  holds : (h.run inputs).heartbeat.waiting = true ↔ (h.run inputs).relay.line .heartbeat ≠ []
  /-- it ends when it was told to, when the relay is closed, or at a beat when nobody else can send -/
  ends : ∀ before i after, inputs = before ++ i :: after → (h.run before).heartbeat.running = true →
    (h.run (before ++ [i])).heartbeat.running = false →
    i = .turn ∧ (.cancel ∈ before ∨ .closeReceiver ∈ before ∨ .dropSenders ∈ before ∧
      (h.run before).heartbeat.waiting = false ∧ (h.run before).heartbeat.deadline ≤ (h.run before).now)
  /-- once it has ended, it does nothing more -/
  stays : ∀ before after, inputs = before ++ after → (h.run before).heartbeat.running = false →
    (h.run inputs).heartbeat.running = false ∧ (h.run inputs).relay.line .heartbeat = [] ∧
      begun h inputs = begun h before ∧ entered h inputs = entered h before

/-- **The heartbeat never floods, never delivers late and never keeps the relay open**, whatever happens to it and to
its relay, and in whatever order. One whose interval is so long that no time can be told for its first beat never runs,
so that nothing at all is put in. -/
theorem steady (hi : 0 < interval) (hs : start capacity interval patience = .ok h) (inputs : List Input) :
    Steady interval patience h inputs where
  late := (beating_run hs inputs).entered_late
  few := length_filter_le_div hi (beating_run hs inputs).entered_late
  single := (beating_run hs inputs).single
  pings := (beating_run hs inputs).entered_eq
  patient := (beating_run hs inputs).ordered
  skips := by
    rintro before after b - hw hb hlate hplace
    obtain ⟨hline, hnone⟩ := gaveUp_turn hs hw hb hlate hplace
    refine ⟨by rw [run_concat]; exact hline, ?_⟩
    rw [entered, Trace.record_concat]
    exact (congrArg _ hnone).trans (List.append_nil _)
  timely := inTime_run hs
  passes := by
    have hb := beating_run hs inputs
    have hinterval : (h.run inputs).heartbeat.interval ≠ 0 := by rw [hb.interval_eq]; omega
    exact ⟨hb.interval_eq, advance_passes hb.tidy hinterval⟩
  holds := (beating_run hs inputs).tidy.waiting_iff
  ends := by
    rintro before i after - hr hended
    rw [run_concat] at hended
    exact ends_turn hs hr hended
  stays := by
    rintro before after rfl hr
    exact stays_run hs hr after

end

/-- A patience that is longer than the interval. The first beat finds the relay full and is skipped when its time is up,
by which time the second is 2 ms late; that one is sent when room is made. At the third nobody else can send. -/
theorem steady_two : ∃ h inputs, start 1 5 7 = .ok h ∧
    inputs = [.send .newBlock, .wait 5, .turn, .wait 7, .turn, .turn, .receive 1, .turn, .dropSenders, .wait 3, .turn,
      .cancel, .wait 9, .turn] ∧
    h.isPunctual inputs = true ∧ begun h inputs = [5, 12] ∧ settled h inputs = [(12, .skipped), (12, .sent)] ∧
    entered h inputs = [(12, .ping)] ∧ (h.run inputs).heartbeat.running = false ∧ 0 < 5 ∧ Steady 5 7 h inputs := by
  refine ⟨_, _, rfl, rfl, ?_, ?_, ?_, ?_, ?_, ?_, steady ?_ (show start 1 5 7 = .ok _ from rfl) _⟩
  all_goals decide

end ChainFeed.TimedHeartbeat
