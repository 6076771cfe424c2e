/-
What waits for the hub: clients on their way in, clients on their way out, and events. Nothing of it is passed over.

As long as nobody tells the hub to stop:
- `work`: what the hub's turn does about its errand; a hub that waits has none (`errand?_of_waits`).
- `Feeds.act`: a step takes the errand from the front of its queue, and what is new comes to the end of a queue.
- `Feeds.acts`: along a run, what was taken up and what still waits is what came in, in the same order.
- `idle_of_closing`: the hub closes down only when nothing waits and nobody can send any more.
-/
import ChainFeed.Proofs.Hub.Accounting
import ChainFeed.Proofs.Hub.Trail

namespace ChainFeed

theorem Relay.take?_eq_some {r r' : Relay} {e : Event} (ht : r.take? = some (e, r')) :
    ∃ rest, r.queue = e :: rest ∧ r' = { r with queue := rest } := by
  unfold take? at ht
  split at ht <;> cases ht
  exact ⟨_, ‹_›, rfl⟩

theorem Relay.take?_eq_none {r : Relay} (ht : r.take? = none) : r.queue = [] := by
  unfold take? at ht
  split at ht
  · assumption
  · cases ht

namespace Hub

variable {h k : Hub}

/-! ## The hub's turn -/

/-- the client that comes into the registry -/
def Errand.entrant? : Errand → Option ClientId
  | .enter id => some id
  | _ => none

/-- the client that is taken out at its own wish -/
def Errand.leaver? : Errand → Option ClientId
  | .leave id => some id
  | _ => none

/-- the event that is handled -/
def Errand.event? : Errand → Option Event
  | .handle e => some e
  | _ => none

/-- nothing waits for the hub, and nobody can send it anything any more -/
structure Idle (h : Hub) : Prop where
  registrations : h.registrations = []
  unregistrations : h.unregistrations = []
  events : h.relay.queue = []
  unheld : h.isHeld = false
  unbeaten : h.heartbeat.waiting = false

/-- what the hub's turn does about its errand -/
inductive Work (h : Hub) (now : Nat) : Option Errand → Hub → Prop
  | started (phase : h.phase = .created) : Work h now none (h.start now)
  | entered {id : ClientId} {rest : List ClientId} (queue : h.registrations = id :: rest) :
      Work h now (some (.enter id)) ({ h with registrations := rest }.enrol id)
  | left {id : ClientId} {rest : List ClientId} (queue : h.unregistrations = id :: rest) :
      Work h now (some (.leave id)) ({ h with unregistrations := rest }.expel id)
  | handled {e : Event} {rest : List Event} (queue : h.relay.queue = e :: rest) :
      Work h now (some (.handle e)) ({ h with relay := { h.relay with queue := rest } }.handle e)
  | closed (phase : h.phase = .running) (reason : h.shutdown = true ∨ h.Idle) : Work h now none h.drain
  | halted (phase : h.phase = .draining) (timers : h.ticker.running = false ∧ h.heartbeat.running = false) :
      Work h now none { h with phase := .stopped }

/-- **What the hub's turn does about its errand.** -/
theorem work {now : Nat} (hk : h.step now = some k) : Work h now h.errand? k := by
  unfold step at hk
  by_cases hp : h.phase = .running
  · rw [hp] at hk
    simp only [loopStep] at hk
    by_cases hs : h.shutdown = true
    · rw [if_pos hs] at hk
      cases hk
      rw [show h.errand? = none by simp [errand?, hs]]
      exact .closed hp (Or.inl hs)
    rw [if_neg hs] at hk
    have hx : h.phase = .running ∧ h.shutdown = false := ⟨hp, by simpa using hs⟩
    split at hk
    · rename_i id rest hr
      cases hk
      rw [show h.errand? = some (.enter id) by simp [errand?, hx, hr]]
      exact .entered hr
    · rename_i id rest hr hu
      cases hk
      rw [show h.errand? = some (.leave id) by simp [errand?, hx, hr, hu]]
      exact .left hu
    · rename_i e relay hr hu ht
      cases hk
      obtain ⟨rest, hq, rfl⟩ := Relay.take?_eq_some ht
      rw [show h.errand? = some (.handle e) by simp [errand?, hx, hr, hu, hq]]
      exact .handled hq
    · rename_i hr hu ht
      have hq := Relay.take?_eq_none ht
      rw [show h.errand? = none by simp [errand?, hx, hr, hu, hq]]
      split_ifs at hk with hw
      cases hk
      rw [Bool.or_eq_true, not_or, Bool.not_eq_true, Bool.not_eq_true] at hw
      exact .closed hp (Or.inr ⟨hr, hu, hq, hw.1, hw.2⟩)
  · rw [errand?, if_neg fun hx => hp hx.1]
    cases hphase : h.phase with
    | created =>
      simp only [hphase] at hk
      cases hk
      exact .started hphase
    | running => exact absurd hphase hp
    | draining =>
      simp only [hphase] at hk
      split_ifs at hk with ht
      cases hk
      exact .halted hphase (by simpa using ht)
    | stopped =>
      simp only [hphase] at hk
      cases hk

/-- a hub that waits has no errand -/
theorem errand?_of_waits {now : Nat} (hk : h.step now = none) : h.errand? = none := by
  unfold step at hk
  by_cases hx : h.phase = .running ∧ h.shutdown = false
  · simp only [hx.1, loopStep, hx.2, Bool.false_eq_true, if_false] at hk
    rw [errand?, if_pos hx]
    rcases hr : h.registrations with _ | ⟨id, rest⟩
    · rcases hu : h.unregistrations with _ | ⟨id, rest⟩
      · rcases hq : h.relay.queue with _ | ⟨e, rest⟩
        · rfl
        · simp [hr, hu, Relay.take?, hq] at hk
      · simp [hr, hu] at hk
    · simp [hr] at hk
  · rw [errand?, if_neg hx]

/-! ## A hub that nobody tells to stop -/

/-- what holds of a hub that nobody has told to stop: only closing down tells it so, and a hub that has closed down has
no events -/
structure Serving (h : Hub) : Prop where
  untold : h.isOpen = true → h.shutdown = false
  empty : h.isOpen = false → h.relay.queue = []

theorem serving_create {config : HubConfig} (hh : Hub.create config = .ok h) : Serving h := by
  obtain ⟨-, -, -, -, -, hp, hsd, -⟩ := create_ok hh
  exact ⟨fun _ => hsd, fun hc => by simp [isOpen, hp] at hc⟩

/-- whether the hub was told to stop, and whether anyone outside holds on to it -/
def orders (h : Hub) : Bool × Bool :=
  (h.shutdown, h.held)

@[simp] theorem orders_modifyClient (h : Hub) (id : ClientId) (f : Client → Client) :
    (h.modifyClient id f).orders = h.orders := by
  simp [orders]

/-- nothing else from outside tells the hub to stop, or lets go of it -/
theorem orders_outside {a : Act} (ha : a.asOp.isTurn = false) (hstop : a ≠ .op .stop) (hrelease : a ≠ .op .release) :
    (h.act a).orders = h.orders := by
  cases a with
  | arrive =>
    simp only [act, arrive]
    split
    · rfl
    · split_ifs <;> rfl
  | op op =>
    simp only [act]
    cases op with
    | register =>
      simp only [apply]
      split
      · rename_i hk
        obtain ⟨-, -, c, -, rfl⟩ := register_ok hk
        rfl
      · rfl
    | unregister id =>
      simp only [apply, unregister]
      split_ifs <;> rfl
    | subscribe id r =>
      simp only [apply]
      split
      · rename_i hk
        rcases subscribe_ok hk with ⟨rfl, -⟩ | ⟨c, s, -, -, rfl⟩
        · rfl
        · exact orders_modifyClient _ _ _
      · rfl
    | unsubscribe id r =>
      simp only [apply]
      split
      · rename_i hk
        rcases unsubscribe_ok hk with ⟨rfl, -⟩ | ⟨c, s, -, -, rfl⟩
        · rfl
        · exact orders_modifyClient _ _ _
      · rfl
    | unsubscribeAll | hangUp => exact orders_modifyClient _ _ _
    | take id =>
      simp only [apply]
      split
      · rename_i hk
        obtain ⟨c, rest, -, -, rfl⟩ := receive_eq_some hk
        exact orders_modifyClient _ _ _
      · rfl
    | drain id =>
      simp only [apply, drainTxs]
      split
      · rfl
      · exact orders_modifyClient _ _ _
    | produce task now =>
      simp only [apply, producerStep]
      split
      · rfl
      · split
        · rfl
        · split <;> rfl
    | tick now =>
      simp only [apply, tickerStep]
      cases h.ticker.step now <;> rfl
    | beat now =>
      simp only [apply, heartbeatStep]
      cases h.heartbeat.step h.relay now h.isHeld h.shutdown <;> rfl
    | turn now => cases ha
    | stop => exact absurd rfl hstop
    | release => exact absurd rfl hrelease
    | publish | setReady => rfl

theorem shutdown_outside {a : Act} (ha : a.asOp.isTurn = false) (hstop : a ≠ .op .stop) :
    (h.act a).shutdown = h.shutdown := by
  by_cases hrelease : a = .op .release
  · rw [hrelease]
    rfl
  · exact congrArg Prod.fst (orders_outside (h := h) ha hstop hrelease)

/-- an attempt to put an event in line adds events at the end of the queue only, and none to a relay that is closed -/
theorem queue_attempt {r r' : Relay} {o : Origin} {e : Event} {now patience : Nat} {outcome : Option Outcome}
    (hr : r.attempt o e now patience = some (r', outcome)) :
    ∃ new, r'.queue = r.queue ++ new ∧ (r.receiving = false → new = []) := by
  by_cases hclosed : r.receiving = false
  · rw [Relay.attempt_closed hclosed] at hr
    cases hr
    exact ⟨[], by simp [Relay.withdraw], fun _ => rfl⟩
  · have hoffers : r.Offers fun _ => True := fun _ _ => trivial
    obtain ⟨new, hnew, -⟩ := (Relay.grown_attempt hoffers trivial hr).queue
    exact ⟨new, hnew, fun hx => absurd hx hclosed⟩

/-- from outside, events only come to the end of the queue, and none to a relay that is closed -/
theorem events_outside {a : Act} (ha : a.asOp.isTurn = false) :
    ∃ new, (h.act a).relay.queue = h.relay.queue ++ new ∧ (h.relay.receiving = false → new = []) := by
  have hsame : (h.act a).relay = h.relay →
      ∃ new, (h.act a).relay.queue = h.relay.queue ++ new ∧ (h.relay.receiving = false → new = []) := by
    intro hr
    exact ⟨[], by rw [hr, List.append_nil], fun _ => rfl⟩
  cases a with
  | arrive => exact hsame (congrArg Prod.fst (machinery_arrive h))
  | op op =>
    cases hq : op.isQuiet with
    | true => exact hsame (congrArg Prod.fst (machinery_apply h hq))
    | false =>
      cases op with
      | publish events => exact hsame rfl
      | produce task now =>
        simp only [act, apply, producerStep] at hsame ⊢
        split
        · exact ⟨[], by simp, fun _ => rfl⟩
        · split
          · exact ⟨[], by simp, fun _ => rfl⟩
          · split
            · exact ⟨[], by simp, fun _ => rfl⟩
            · exact queue_attempt ‹_›
            · exact queue_attempt ‹_›
      | tick now =>
        refine hsame ?_
        simp only [act, apply, tickerStep]
        cases h.ticker.step now <;> rfl
      | beat now =>
        simp only [act, apply, heartbeatStep] at hsame ⊢
        rcases hb : h.heartbeat.step h.relay now h.isHeld h.shutdown with _ | ⟨b, r⟩
        · exact ⟨[], by simp, fun _ => rfl⟩
        · rcases (Heartbeat.moved hb).2 with ⟨-, -, rfl | ⟨-, rfl⟩⟩ | ⟨attempt, -⟩
          · exact ⟨[], by simp [Relay.withdraw], fun _ => rfl⟩
          · exact ⟨[], by simp, fun _ => rfl⟩
          · exact queue_attempt attempt
      | turn now => cases ha
      | _ => cases hq

/-- putting a client out changes nothing but the client and the registry -/
theorem expel_frame (h : Hub) (id : ClientId) :
    (h.expel id).phase = h.phase ∧ (h.expel id).shutdown = h.shutdown ∧ (h.expel id).held = h.held ∧
      (h.expel id).registrations = h.registrations ∧ (h.expel id).unregistrations = h.unregistrations ∧
      (h.expel id).relay = h.relay ∧ (h.expel id).producers = h.producers ∧ (h.expel id).ticker = h.ticker ∧
      (h.expel id).heartbeat = h.heartbeat := by
  unfold expel
  split_ifs <;> simp [endSending]

/-- the hub's turn leaves the waiting where it is, but for its errand -/
theorem Work.queues {now : Nat} {errand : Option Errand} (hw : Work h now errand k) (hs : Sound h) (hv : Serving h) :
    h.registrations = (errand.bind Errand.entrant?).toList ++ k.registrations ∧
      h.unregistrations = (errand.bind Errand.leaver?).toList ++ k.unregistrations ∧
      h.relay.queue = (errand.bind Errand.event?).toList ++ k.relay.queue := by
  cases hw with
  | started => exact ⟨rfl, rfl, rfl⟩
  | entered queue => exact ⟨queue, rfl, rfl⟩
  | @left id rest queue =>
    obtain ⟨-, -, -, hr, hu, hrelay, -⟩ := expel_frame { h with unregistrations := rest } id
    exact ⟨hr.symm, by rw [hu]; exact queue, by rw [hrelay]; rfl⟩
  | @handled e rest queue =>
    have hk := handle_frame (h := { h with relay := { h.relay with queue := rest } }) hs.registry_nodup hs.count e
    obtain ⟨-, -, -, -, -, -, hr, hu, hrelay, -, -⟩ := hk
    exact ⟨hr.symm, hu.symm, by rw [hrelay]; exact queue⟩
  | closed phase reason =>
    rcases reason with hsd | hidle
    · have hopen : h.isOpen = true := by simp [isOpen, phase]
      exact absurd (hsd.symm.trans (hv.untold hopen)) (by decide)
    · simp [drain_eq, Relay.close, hidle.registrations, hidle.unregistrations, hidle.events]
  | halted => exact ⟨rfl, rfl, rfl⟩

/-- the hub's turn leaves those alone that wait in line for the relay, and the heartbeat too, but for setting it going -/
theorem Work.frame {now : Nat} {errand : Option Errand} (hw : Work h now errand k) (hs : Sound h) :
    k.relay.waiting = h.relay.waiting ∧ k.relay.capacity = h.relay.capacity ∧ k.producers = h.producers ∧
      k.held = h.held ∧ (k.heartbeat = h.heartbeat ∧ (k.phase = .created → h.phase = .created) ∨
        h.phase = .created ∧ k = h.start now) := by
  cases hw with
  | started phase => exact ⟨rfl, rfl, rfl, rfl, Or.inr ⟨phase, rfl⟩⟩
  | entered => exact ⟨rfl, rfl, rfl, rfl, Or.inl ⟨rfl, id⟩⟩
  | @left id rest =>
    obtain ⟨hphase, -, hheld, -, -, hrelay, hproducers, -, hbeat⟩ := expel_frame { h with unregistrations := rest } id
    exact ⟨by rw [hrelay], by rw [hrelay], hproducers, hheld, Or.inl ⟨hbeat, fun hx => hphase.symm.trans hx⟩⟩
  | @handled e rest =>
    have hframe := handle_frame (h := { h with relay := { h.relay with queue := rest } }) hs.registry_nodup hs.count e
    have htimers := handle_timers (h := { h with relay := { h.relay with queue := rest } }) hs.registry_nodup hs.count e
    obtain ⟨-, hphase, -, hheld, -, -, -, -, hrelay, hproducers, -⟩ := hframe
    exact ⟨by rw [hrelay], by rw [hrelay], hproducers, hheld, Or.inl ⟨htimers.2, fun hx => hphase.symm.trans hx⟩⟩
  | closed => simp [drain_eq, Relay.close]
  | halted => exact ⟨rfl, rfl, rfl, rfl, Or.inl ⟨rfl, fun hx => by cases hx⟩⟩

theorem serving_turn (hs : Sound h) (hv : Serving h) {now : Nat} {errand : Option Errand}
    (hw : Work h now errand k) : Serving k := by
  cases hw with
  | started phase =>
    have hopen : h.isOpen = true := by simp [isOpen, phase]
    exact ⟨fun _ => hv.untold hopen, fun hc => by simp [start, isOpen] at hc⟩
  | entered => exact ⟨hv.untold, hv.empty⟩
  | @left id rest =>
    obtain ⟨hphase, hshutdown, -, -, -, hrelay, -⟩ := expel_frame { h with unregistrations := rest } id
    refine ⟨fun hx => hshutdown.trans (hv.untold ?_), fun hx => ?_⟩
    · rwa [isOpen, hphase] at hx
    · rw [isOpen, hphase] at hx
      rw [hrelay]
      exact hv.empty hx
  | @handled e rest queue =>
    have hk := handle_frame (h := { h with relay := { h.relay with queue := rest } }) hs.registry_nodup hs.count e
    obtain ⟨-, hphase, hshutdown, -⟩ := hk
    have hopen : h.isOpen = true := by
      by_contra hc
      rw [Bool.not_eq_true] at hc
      rw [hv.empty hc] at queue
      cases queue
    refine ⟨fun _ => hshutdown.trans (hv.untold hopen), fun hc => ?_⟩
    rw [isOpen, hphase] at hc
    exact absurd (hopen.symm.trans hc) (by decide)
  | closed =>
    rw [drain_eq]
    exact ⟨fun hx => by simp [isOpen] at hx, fun _ => rfl⟩
  | halted phase =>
    have hclosed : h.isOpen = false := by simp [isOpen, phase]
    exact ⟨fun hx => by simp [isOpen] at hx, fun _ => hv.empty hclosed⟩

/-- a turn of the hub, whether there is anything to do or not -/
theorem act_work (h : Hub) (now : Nat) : h.step now = none ∧ h.act (.op (.turn now)) = h ∨
    ∃ k, h.act (.op (.turn now)) = k ∧ Work h now h.errand? k := by
  rcases hk : h.step now with _ | k
  · exact Or.inl ⟨rfl, by simp [act, apply, hk]⟩
  · exact Or.inr ⟨k, by simp [act, apply, hk], work hk⟩

/-- nobody takes hold of a hub again that everybody outside has let go of -/
theorem held_act (hs : Sound h) (hheld : h.held = false) (a : Act) : (h.act a).held = false := by
  cases ha : a.asOp.isTurn with
  | false =>
    by_cases hstop : a = .op .stop
    · rw [hstop]
      exact hheld
    by_cases hrelease : a = .op .release
    · rw [hrelease]
      rfl
    · exact (congrArg Prod.snd (orders_outside (h := h) ha hstop hrelease)).trans hheld
  | true =>
    obtain ⟨now, rfl⟩ := act_turn ha
    rcases act_work h now with ⟨-, hk⟩ | ⟨k, hk, hw⟩
    · rw [hk]
      exact hheld
    · rw [hk, (hw.frame hs).2.2.2.1]
      exact hheld

theorem serving_act (hs : Sound h) (ho : Orderly h) (hv : Serving h) {a : Act} (hne : a ≠ .op .stop) :
    Serving (h.act a) := by
  cases ha : a.asOp.isTurn with
  | false =>
    have hphase := (effect_frame (effect_act h ha)).2.1
    refine ⟨fun hx => ?_, fun hx => ?_⟩
    · rw [shutdown_outside ha hne]
      exact hv.untold (by simpa [isOpen, hphase] using hx)
    · have hclosed : h.isOpen = false := by simpa [isOpen, hphase] using hx
      obtain ⟨new, hnew, hnone⟩ := events_outside (h := h) ha
      rw [hnew, hv.empty hclosed, hnone (ho.closed hclosed).1, List.append_nil]
  | true =>
    obtain ⟨now, rfl⟩ := act_turn ha
    rcases act_work h now with ⟨-, hk⟩ | ⟨k, hk, hw⟩
    · rw [hk]
      exact hv
    · rw [hk]
      exact serving_turn hs hv hw

theorem serving_acts (hs : Sound h) (ho : Orderly h) (hv : Serving h) {as : List Act} (has : ∀ a ∈ as, a ≠ .op .stop) :
    Serving (h.acts as) := by
  induction as generalizing h with
  | nil => exact hv
  | cons a as ih =>
    obtain ⟨hne, has⟩ := List.forall_mem_cons.1 has
    exact ih (sound_act hs a) (orderly_act hs ho a) (serving_act hs ho hv hne) has

/-! ## What waits, and what is taken up -/

section

variable {A : Type} {queue : Hub → List A} {part : Errand → Option A}

/-- what a step takes up of a queue -/
def due (part : Errand → Option A) (h : Hub) (a : Act) : List A :=
  ((h.errandOf? a).bind part).toList

/-- what comes to a queue in a step -/
def gained (queue : Hub → List A) (h : Hub) (a : Act) : List A :=
  if a.asOp.isTurn then [] else (queue (h.act a)).drop (queue h).length

/-- a queue that the errands of a kind are taken from -/
structure Feeds (queue : Hub → List A) (part : Errand → Option A) : Prop where
  outside : ∀ {h : Hub} {a : Act}, a.asOp.isTurn = false → ∃ new, queue (h.act a) = queue h ++ new
  turn : ∀ {h k : Hub} {now : Nat} {errand : Option Errand}, Sound h → Serving h → Work h now errand k →
    queue h = (errand.bind part).toList ++ queue k

theorem feeds_registrations : Feeds registrations Errand.entrant? where
  outside {h a} ha := by
    have he := effect_act h ha
    generalize a.asOp = op, h.act a = k at he
    cases he with
    | calm hc => exact ⟨[], by rw [hc.registrations, List.append_nil]⟩
    | entered => exact ⟨_, rfl⟩
    | _ => exact ⟨[], by simp⟩
  turn hs hv hw := (hw.queues hs hv).1

theorem feeds_unregistrations : Feeds unregistrations Errand.leaver? where
  outside {h a} ha := by
    have he := effect_act h ha
    generalize a.asOp = op, h.act a = k at he
    cases he with
    | calm hc => exact ⟨[], by rw [hc.unregistrations, List.append_nil]⟩
    | unregistered => exact ⟨_, rfl⟩
    | _ => exact ⟨[], by simp⟩
  turn hs hv hw := (hw.queues hs hv).2.1

theorem feeds_events : Feeds (·.relay.queue) Errand.event? where
  outside ha := by
    obtain ⟨new, hnew, -⟩ := events_outside ha
    exact ⟨new, hnew⟩
  turn hs hv hw := (hw.queues hs hv).2.2

/-- **A step takes its errand from the front of a queue, and what is new comes to the end of it.** -/
theorem Feeds.act (hf : Feeds queue part) (hs : Sound h) (hv : Serving h) (a : Act) :
    queue h ++ gained queue h a = due part h a ++ queue (h.act a) := by
  cases ha : a.asOp.isTurn with
  | false =>
    obtain ⟨new, hnew⟩ := hf.outside (h := h) ha
    simp [gained, due, errandOf?, ha, hnew]
  | true =>
    obtain ⟨now, rfl⟩ := act_turn ha
    rw [gained, due, errandOf?, if_pos ha, if_pos ha, List.append_nil]
    rcases act_work h now with ⟨hwaits, hk⟩ | ⟨k, hk, hw⟩
    · rw [hk, errand?_of_waits hwaits]
      rfl
    · rw [hk]
      exact hf.turn hs hv hw

/-- **Nothing that waits is passed over.** Along a list of steps in which nobody tells the hub to stop, what was taken up,
followed by what still waits, is what waited at first, followed by what came in. -/
theorem Feeds.acts (hf : Feeds queue part) (hs : Sound h) (ho : Orderly h) (hv : Serving h) {as : List Act}
    (has : ∀ a ∈ as, a ≠ .op .stop) :
    queue h ++ Trace.record Hub.act (gained queue) h as = Trace.record Hub.act (due part) h as ++ queue (h.acts as) :=
  Trace.record_balanced (P := fun k => Sound k ∧ Orderly k ∧ Serving k) (C := fun a => a ≠ .op .stop) queue
    (gained queue) (due part)
    (fun _ a hk hne => ⟨sound_act hk.1 a, orderly_act hk.1 hk.2.1 a, serving_act hk.1 hk.2.1 hk.2.2 hne⟩)
    (fun _ a hk _ => hf.act hk.1 hk.2.2 a) ⟨hs, ho, hv⟩ has

end

/-- **A hub that nobody has told to stop closes down only when nothing waits for it**, and when nobody can send it
anything any more. -/
theorem idle_of_closing (hs : Sound h) (hv : Serving h) (hopen : h.isOpen = true) {a : Act}
    (hc : (h.act a).isOpen = false) : h.Idle := by
  have hkept : (h.act a).phase = h.phase → h.Idle := by
    intro hphase
    rw [isOpen, hphase] at hc
    exact absurd (hopen.symm.trans hc) (by decide)
  cases ha : a.asOp.isTurn with
  | false => exact hkept (effect_frame (effect_act h ha)).2.1
  | true =>
    obtain ⟨now, rfl⟩ := act_turn ha
    rcases act_work h now with ⟨-, hk⟩ | ⟨k, hk, hw⟩
    · exact hkept (by rw [hk])
    · rw [hk] at hc hkept
      generalize h.errand? = errand at hw
      cases hw with
      | closed _ reason => exact reason.resolve_left (by simp [hv.untold hopen])
      | started => simp [start, isOpen] at hc
      | entered => exact hkept rfl
      | @left id rest => exact hkept (expel_frame { h with unregistrations := rest } id).1
      | @handled e rest =>
        have hframe := handle_frame (h := { h with relay := { h.relay with queue := rest } }) hs.registry_nodup
          hs.count e
        exact hkept hframe.2.1
      | halted phase => simp [isOpen, phase] at hopen

end Hub

end ChainFeed
