/-
What the hub works with besides its clients: the relay, the two timers and the background tasks.

- `machinery_apply`: most of what is done to a hub leaves all of it alone.
- `Relay.attempt_closed`: a closed relay refuses whatever is offered to it; `Relay.receiving_attempt`: no offer opens
  or closes it.
- `Ticker.step_stopping`: a flush timer that was told to end gets nearer to its end with every move.
- `producer_apply`: the events of a background task change by its own moves only.
- `ready_apply`: only the order to do so changes the ready flag.
-/
import ChainFeed.Proofs.Hub.Sound

namespace ChainFeed

/-! ## Relay -/

namespace Relay

variable {r r' : Relay} {o : Origin} {e : Event} {now patience : Nat} {outcome : Option Outcome}

theorem attempt_closed (hr : r.receiving = false) :
    r.attempt o e now patience = some (r.withdraw o, some .refused) := by
  simp [attempt, hr]

/-- offers neither close the relay nor open it -/
theorem receiving_attempt (hr : r.attempt o e now patience = some (r', outcome)) :
    r'.receiving = r.receiving := by
  unfold attempt at hr
  cases ho : r.offer? o with
  | none =>
    simp only [ho] at hr
    split_ifs at hr <;> cases hr <;> rfl
  | some offer =>
    simp only [ho] at hr
    split_ifs at hr <;> cases hr <;> rfl

theorem receiving_take? (ht : r.take? = some (e, r')) : r'.receiving = r.receiving := by
  unfold take? at ht
  split at ht <;> cases ht
  rfl

end Relay

/-! ## Timers -/

namespace Heartbeat

variable {b b' : Heartbeat} {r r' : Relay} {now : Nat} {held shutdown : Bool}

theorem receiving_beat (hb : b.beat r now = some (b', r')) : r'.receiving = r.receiving := by
  unfold beat at hb
  split at hb <;> cases hb <;> exact Relay.receiving_attempt ‹_›

/-- a heartbeat moves only while it runs, and leaves the relay open or closed -/
theorem step_kept (hb : b.step r now held shutdown = some (b', r')) :
    b.running = true ∧ r'.receiving = r.receiving := by
  unfold step at hb
  split_ifs at hb with hr
  all_goals refine ⟨by simpa using hr, ?_⟩
  · cases hb
    rfl
  · exact receiving_beat hb
  · exact receiving_beat hb
  · cases hb
    rfl

/-- a heartbeat that runs ends at once when the hub was told to stop -/
theorem step_shutdown (hb : b.running = true) :
    b.step r now held true = some ({ b with waiting := false, running := false }, r.withdraw .heartbeat) := by
  simp [step, hb]

/-- what a move of the heartbeat comes to -/
inductive Moved (b : Heartbeat) (r : Relay) (now : Nat) : Heartbeat → Relay → Prop
  /-- it ends -/
  | ended {b' : Heartbeat} {r' : Relay} (running : b'.running = false) (waiting : b'.waiting = false)
      (relay : r' = r.withdraw .heartbeat ∨ b.waiting = false ∧ r' = r) : Moved b r now b' r'
  /-- it offers a ping at a beat, or goes on offering it -/
  | offered {b' : Heartbeat} {r' : Relay} {outcome : Option Outcome}
      (attempt : r.attempt .heartbeat .ping now b.patience = some (r', outcome))
      (beat : b.waiting = true ∧ b'.deadline = b.deadline ∨
        b.waiting = false ∧ b.deadline ≤ now ∧ b'.deadline = nextDeadline b.deadline b.interval now)
      (interval : b'.interval = b.interval) (waiting : b'.waiting = outcome.isNone)
      (running : b'.running = decide (outcome ≠ some .refused)) : Moved b r now b' r'

theorem moved_beat {b₀ : Heartbeat} (hr : b.running = true) (hb : b.beat r now = some (b', r'))
    (hp : b.patience = b₀.patience) (hi : b.interval = b₀.interval)
    (hd : b₀.waiting = true ∧ b.deadline = b₀.deadline ∨
      b₀.waiting = false ∧ b₀.deadline ≤ now ∧ b.deadline = nextDeadline b₀.deadline b₀.interval now) :
    b₀.Moved r now b' r' := by
  unfold beat at hb
  rcases ha : r.attempt .heartbeat .ping now b.patience with _ | ⟨r₁, outcome⟩
  · simp [ha] at hb
  rw [ha] at hb
  rw [hp] at ha
  rcases outcome with _ | _ | _ | _ <;> cases hb
  · exact .offered ha hd hi rfl hr
  · exact .offered ha hd hi rfl hr
  · exact .offered ha hd hi rfl hr
  · exact .offered ha hd hi rfl rfl

/-- **What a move of the heartbeat comes to.** -/
theorem moved (hb : b.step r now held shutdown = some (b', r')) : b.running = true ∧ b.Moved r now b' r' := by
  unfold step at hb
  split_ifs at hb with hr _ hw hd
  all_goals refine ⟨by simpa using hr, ?_⟩
  · cases hb
    exact .ended rfl rfl (Or.inl rfl)
  · exact moved_beat (by simpa using hr) hb rfl rfl (Or.inl ⟨hw, rfl⟩)
  · exact moved_beat (by simpa using hr) hb rfl rfl (Or.inr ⟨by simpa using hw, hd, rfl⟩)
  · cases hb
    exact .ended rfl (by simpa using hw) (Or.inr ⟨by simpa using hw, rfl⟩)

end Heartbeat

namespace Ticker

/-- a timer that goes on with the same interval, and is told to end if it was before -/
structure Keeps (t t' : Ticker) : Prop where
  interval : t'.interval = t.interval
  stopping : t'.stopping = t.stopping
  running : t'.running = true → t.running = true

theorem Keeps.refl (t : Ticker) : Keeps t t := ⟨rfl, rfl, id⟩

theorem Keeps.clear {t t' : Ticker} (hk : Keeps t t') : Keeps t t'.clear :=
  ⟨hk.interval, hk.stopping, hk.running⟩

theorem keeps_reset (t : Ticker) : Keeps t t.reset := by
  unfold reset
  split_ifs
  · exact ⟨rfl, rfl, id⟩
  · exact .refl t

theorem keeps_step {t t' : Ticker} {now : Nat} (ht : t.step now = some t') : Keeps t t' := by
  unfold step at ht
  split_ifs at ht with hr <;> cases ht
  all_goals exact ⟨rfl, rfl, fun _ => by simpa using hr⟩

/-- the moves that a timer which was told to end can still make at a time -/
def left (t : Ticker) (now : Nat) : Nat :=
  if t.running then (now + 1 - t.deadline) + t.resets + 1 else 0

theorem lt_nextDeadline (deadline now : Nat) {interval : Nat} (hi : interval ≠ 0) :
    deadline < nextDeadline deadline interval now := by
  unfold nextDeadline
  split_ifs <;> omega

/-- each move of a timer leaves fewer of them -/
theorem left_step {t t' : Ticker} {now : Nat} (hi : t.interval ≠ 0) (ht : t.step now = some t') :
    t'.left now < t.left now := by
  have hlater := lt_nextDeadline t.deadline now hi
  unfold step at ht
  split_ifs at ht with hr hd hn hs <;> cases ht
  all_goals simp only [Bool.not_eq_true', Bool.not_eq_false] at hr
  all_goals simp only [left, hr, if_true]
  · omega
  · omega
  · simp

theorem left_reset (t : Ticker) (now : Nat) : t.reset.left now ≤ t.left now + 1 := by
  unfold reset
  split_ifs with hr
  · rw [Bool.and_eq_true] at hr
    simp only [left, hr.1, if_true]
    omega
  · exact Nat.le_succ _

/-- **A timer that was told to end comes to its end.** It serves the deadlines that have passed and the resets that
wait, and nothing keeps it from ending then. -/
theorem step_stopping (now : Nat) {t : Ticker} (hr : t.running = true) (hs : t.stopping = true)
    (hi : t.interval ≠ 0) : ∃ t', t.step now = some t' ∧ t'.left now < t.left now := by
  have hmoves : ∃ t', t.step now = some t' := by
    simp only [step, hr, hs, Bool.not_true, Bool.false_eq_true, if_false, if_true]
    split_ifs <;> exact ⟨_, rfl⟩
  obtain ⟨t', ht⟩ := hmoves
  exact ⟨t', ht, left_step hi ht⟩

end Ticker

namespace Hub

/-- handling an event leaves the heartbeat alone and keeps the flush timer going -/
theorem handle_timers {h : Hub} (hr : h.registry.Nodup) (hc : h.connections = h.registry.length) (e : Event) :
    h.ticker.Keeps (h.handle e).ticker ∧ (h.handle e).heartbeat = h.heartbeat := by
  have hannounced : ∀ tx, h.ticker.Keeps (h.announced tx).ticker ∧ (h.announced tx).heartbeat = h.heartbeat :=
    fun tx => by
      simp only [announced, modifyClients_frame, and_true]
      split_ifs
      · exact h.ticker.keeps_reset
      · exact .refl _
  have hbroadcast : ∀ {k : Hub}, k.registry.Nodup → k.connections = k.registry.length → ∀ e,
      (k.broadcast e).ticker = k.ticker ∧ (k.broadcast e).heartbeat = k.heartbeat := fun hr hc e => by
    rw [broadcast_eq hr hc e]
    simp [setRegistry]
  have hh := handling hr e
  generalize h.round? e = r, h.handle e = k at hh
  cases hh with
  | discarded | dropped => exact ⟨.refl _, rfl⟩
  | buffered => exact hannounced _
  | @flushed tx =>
    obtain ⟨ht, hb⟩ := hbroadcast (k := h.announced tx) (by simpa using hr) (by simpa using hc) .newTxs
    simp only [flush, hb, ht]
    exact ⟨(hannounced tx).1.clear, (hannounced tx).2⟩
  | signalled =>
    obtain ⟨ht, hb⟩ := hbroadcast hr hc .newTxs
    simp only [flush, hb, ht]
    exact ⟨(Ticker.Keeps.refl _).clear, trivial⟩
  | @broadcast e =>
    obtain ⟨ht, hb⟩ := hbroadcast hr hc e
    rw [ht, hb]
    exact ⟨.refl _, rfl⟩

/-! ## What leaves relay, timers and background tasks alone -/

/-- whether an operation leaves relay, timers and background tasks alone -/
def Op.isQuiet : Op → Bool
  | .publish _ | .produce .. | .turn _ | .tick _ | .beat _ => false
  | _ => true

/-- what the hub works with besides its clients -/
def machinery (h : Hub) : Relay × Ticker × Heartbeat × List Producer :=
  (h.relay, h.ticker, h.heartbeat, h.producers)

@[simp] theorem machinery_modifyClient (h : Hub) (id : ClientId) (f : Client → Client) :
    (h.modifyClient id f).machinery = h.machinery := by
  simp [machinery]

/-- such an operation also leaves the ready flag alone, unless it sets it -/
theorem quiet_apply (h : Hub) {op : Op} (hop : op.isQuiet = true) :
    (h.apply op).machinery = h.machinery ∧
      ((∀ ready, op ≠ .setReady ready) → (h.apply op).ready = h.ready) := by
  have hclient : ∀ (id : ClientId) (f : Client → Client), (h.modifyClient id f).machinery = h.machinery ∧
      ((∀ ready, op ≠ .setReady ready) → (h.modifyClient id f).ready = h.ready) := fun id f =>
    ⟨machinery_modifyClient h id f, fun _ => by simp⟩
  cases op with
  | register =>
    simp only [apply]
    split
    · rename_i hk
      obtain ⟨-, -, c, -, rfl⟩ := register_ok hk
      exact ⟨rfl, fun _ => rfl⟩
    · exact ⟨rfl, fun _ => rfl⟩
  | unregister =>
    simp only [apply, unregister]
    split_ifs <;> exact ⟨rfl, fun _ => rfl⟩
  | subscribe =>
    simp only [apply]
    split
    · rename_i hk
      obtain ⟨rfl, -⟩ | ⟨c, s, -, -, rfl⟩ := subscribe_ok hk
      · exact ⟨rfl, fun _ => rfl⟩
      · exact hclient _ _
    · exact ⟨rfl, fun _ => rfl⟩
  | unsubscribe =>
    simp only [apply]
    split
    · rename_i hk
      obtain ⟨rfl, -⟩ | ⟨c, s, -, -, rfl⟩ := unsubscribe_ok hk
      · exact ⟨rfl, fun _ => rfl⟩
      · exact hclient _ _
    · exact ⟨rfl, fun _ => rfl⟩
  | take =>
    simp only [apply]
    split
    · rename_i hk
      obtain ⟨c, rest, -, -, rfl⟩ := receive_eq_some hk
      exact hclient _ _
    · exact ⟨rfl, fun _ => rfl⟩
  | drain =>
    simp only [apply, drainTxs]
    split
    · exact ⟨rfl, fun _ => rfl⟩
    · exact hclient _ _
  | unsubscribeAll | hangUp => exact hclient _ _
  | stop | release => exact ⟨rfl, fun _ => rfl⟩
  | setReady ready => exact ⟨rfl, fun hne => absurd rfl (hne ready)⟩
  | publish | produce | turn | tick | beat => cases hop

theorem machinery_apply (h : Hub) {op : Op} (hop : op.isQuiet = true) :
    (h.apply op).machinery = h.machinery :=
  (quiet_apply h hop).1

/-! ## Background tasks -/

/-- a background task whose event is offered to a closed relay is told so -/
theorem producerStep_closed {h : Hub} {task now : Nat} {p : Producer} {e : Event} {rest : List Event}
    (hr : h.relay.receiving = false) (hp : h.producers[task]? = some p) (he : p.remaining = e :: rest) :
    h.producerStep task now = some { h with
      relay := h.relay.withdraw (.producer task)
      producers := h.producers.set task { remaining := rest, outcomes := p.outcomes ++ [.refused] } } := by
  simp only [producerStep, hp, he, Relay.attempt_closed hr]

/-- what a background task does: its own events and the relay's queue change -/
theorem producerStep_kept {h k : Hub} {task now : Nat} (hk : h.producerStep task now = some k) :
    k.relay.receiving = h.relay.receiving ∧ k.ticker = h.ticker ∧ k.heartbeat = h.heartbeat ∧
    ∀ other, other ≠ task → k.producers[other]? = h.producers[other]? := by
  unfold producerStep at hk
  split at hk
  · cases hk
  · split at hk
    · cases hk
    · split at hk
      · cases hk
      · rename_i ha
        cases hk
        exact ⟨Relay.receiving_attempt ha, rfl, rfl, fun _ _ => rfl⟩
      · rename_i ha
        cases hk
        exact ⟨Relay.receiving_attempt ha, rfl, rfl, fun other hne => List.getElem?_set_ne (Ne.symm hne)⟩

/-- the hub's turn leaves background tasks alone -/
theorem producers_turn {h : Hub} (hs : Sound h) (now : Nat) : (h.apply (.turn now)).producers = h.producers := by
  have ht := turn h now
  generalize h.apply (.turn now) = k at ht
  cases ht with
  | closed => simp [drain_eq, setRegistry]
  | expelled =>
    unfold expel
    split_ifs <;> simp [endSending, setRegistry]
  | @handled e relay =>
    exact (handle_frame (h := { h with relay }) hs.registry_nodup hs.count e).2.2.2.2.2.2.2.2.2.1
  | _ => rfl

/-- **The events of a background task change by its own moves only.** -/
theorem producer_apply {h : Hub} (hs : Sound h) {task : Nat} {p : Producer} (hp : h.producers[task]? = some p)
    {op : Op} (hop : ∀ now, op ≠ .produce task now) : (h.apply op).producers[task]? = some p := by
  cases hq : op.isQuiet with
  | true =>
    have hm := machinery_apply h hq
    simp only [machinery, Prod.mk.injEq] at hm
    rw [hm.2.2.2, hp]
  | false =>
    cases op with
    | publish events =>
      have hlen := (List.getElem?_eq_some_iff.1 hp).1
      exact (List.getElem?_append_left hlen).trans hp
    | produce other now =>
      simp only [apply]
      cases hk : h.producerStep other now with
      | none => exact hp
      | some k =>
        have hne : task ≠ other := fun he => hop now (by rw [he])
        exact ((producerStep_kept hk).2.2.2 task hne).trans hp
    | turn now => rw [producers_turn hs, hp]
    | tick now =>
      simp only [apply, tickerStep]
      cases h.ticker.step now <;> exact hp
    | beat now =>
      simp only [apply, heartbeatStep]
      cases h.heartbeat.step h.relay now h.isHeld h.shutdown <;> exact hp
    | _ => cases hq

/-! ## The ready flag -/

theorem ready_handle {h : Hub} (hr : h.registry.Nodup) (hc : h.connections = h.registry.length) (e : Event) :
    (h.handle e).ready = h.ready := by
  have hbroadcast : ∀ {k : Hub}, k.registry.Nodup → k.connections = k.registry.length → ∀ e,
      (k.broadcast e).ready = k.ready := by
    intro k hr hc e
    rw [broadcast_eq hr hc e]
    simp
  have hh := handling hr e
  generalize h.round? e = r, h.handle e = k at hh
  cases hh with
  | discarded | dropped => rfl
  | buffered => simp [announced]
  | @flushed tx =>
    calc (h.announced tx).flush.ready = (h.announced tx).ready :=
          hbroadcast (k := h.announced tx) (by simpa using hr) (by simpa using hc) .newTxs
      _ = h.ready := by simp [announced]
  | signalled => exact hbroadcast hr hc .newTxs
  | broadcast => exact hbroadcast hr hc _

theorem ready_turn {h : Hub} (hs : Sound h) (now : Nat) : (h.apply (.turn now)).ready = h.ready := by
  have ht := turn h now
  generalize h.apply (.turn now) = k at ht
  cases ht with
  | closed => simp [drain_eq]
  | expelled =>
    unfold expel
    split_ifs <;> simp [endSending]
  | @handled e relay => exact ready_handle (h := { h with relay }) hs.registry_nodup hs.count e
  | _ => rfl

/-- **Only the order to do so changes the ready flag.** -/
theorem ready_apply {h : Hub} (hs : Sound h) {op : Op} (hop : ∀ ready, op ≠ .setReady ready) :
    (h.apply op).ready = h.ready := by
  cases hq : op.isQuiet with
  | true => exact (quiet_apply h hq).2 hop
  | false =>
    cases op with
    | publish => rfl
    | produce task now =>
      simp only [apply, producerStep]
      split
      · rfl
      · split
        · rfl
        · split <;> rfl
    | turn now => exact ready_turn hs now
    | tick now =>
      simp only [apply, tickerStep]
      cases h.ticker.step now <;> rfl
    | beat now =>
      simp only [apply, heartbeatStep]
      cases h.heartbeat.step h.relay now h.isHeld h.shutdown <;> rfl
    | _ => cases hq

end Hub

end ChainFeed
