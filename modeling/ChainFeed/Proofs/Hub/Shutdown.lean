/-
Closing a hub down for good.

A hub that was told to stop handles no event any more. Its next turns set it going if it was only made, close every
channel and the relay, and stop it once both timers have ended. Register calls that were made in time, and that had
to wait for a place, may come to it in between (`Act.arrive`). Main statements:
- `phase_act`: the phase moves forward, one phase at a time.
- `totals_act`, `queued_act`: once the hub was told to stop nothing is counted, and nothing comes into a channel.
- `orderly_act`: a hub that has closed down takes no events, and it stops when its timers have ended.
- `unasked_acts`: telling the hub to stop again, or to drop clients, makes no difference.
- `ends`: the hub and its timers come to the end by themselves.
- `refused_of_offers`, `refused_apply`: an event that is offered to a closed hub is refused, once and for all.
-/
import ChainFeed.Proofs.Hub.Machinery
import ChainFeed.Proofs.Hub.Membership

namespace ChainFeed

/-- the phase that comes next -/
def HubPhase.next? : HubPhase → Option HubPhase
  | created => some running
  | running => some draining
  | draining => some stopped
  | stopped => none

namespace Hub

/-! ## Register calls that come to their place late -/

/-- a register call that was made before the hub was told to stop comes to a place among the registrations -/
def arrive (h : Hub) : Hub :=
  match Client.create h.config with
  | .error _ => h
  | .ok c =>
    if h.isOpen && h.registrations.length < maxRegistrations then
      { h with
        clients := h.clients ++ [c]
        registrations := h.registrations ++ [h.clients.length + 1] }
    else h

/-- one thing that happens to a hub, with register calls that were kept waiting -/
inductive Act where
  | op (o : Op)
  | arrive

/-- the operation that it comes to -/
def Act.asOp : Act → Op
  | .op o => o
  | .arrive => .register

def act (h : Hub) : Act → Hub
  | .op o => h.apply o
  | .arrive => h.arrive

/-- the hub after a list of such things -/
def acts (h : Hub) (as : List Act) : Hub :=
  Trace.run act h as

theorem acts_append (h : Hub) (as bs : List Act) : h.acts (as ++ bs) = (h.acts as).acts bs :=
  Trace.run_append _ _ _ _

theorem effect_act (h : Hub) {a : Act} (ha : a.asOp.isTurn = false) : Effect h a.asOp (h.act a) := by
  cases a with
  | op op => exact effect h ha
  | arrive =>
    simp only [act, arrive]
    split
    · exact .calm (.refl h)
    · rename_i c hc
      split_ifs with ho
      · rw [Bool.and_eq_true] at ho
        exact .entered hc ho.1
      · exact .calm (.refl h)

theorem machinery_arrive (h : Hub) : h.arrive.machinery = h.machinery := by
  unfold arrive
  split
  · rfl
  · split_ifs <;> rfl

theorem act_turn {a : Act} (ha : a.asOp.isTurn = true) : ∃ now, a = .op (.turn now) := by
  cases a with
  | op op =>
    obtain ⟨now, rfl⟩ := Op.eq_turn ha
    exact ⟨now, rfl⟩
  | arrive => cases ha

section

variable {h : Hub}

theorem sound_act (hs : Sound h) (a : Act) : Sound (h.act a) := by
  cases ha : a.asOp.isTurn with
  | false => exact sound_effect hs (effect_act h ha)
  | true =>
    obtain ⟨now, rfl⟩ := act_turn ha
    exact sound_apply hs (.turn now)

/-! ## One step -/

/-- **The phase moves forward, one phase at a time.** -/
theorem phase_act (hs : Sound h) (a : Act) :
    (h.act a).phase = h.phase ∨ h.phase.next? = some (h.act a).phase := by
  cases ha : a.asOp.isTurn with
  | false => exact Or.inl (effect_frame (effect_act h ha)).2.1
  | true =>
    obtain ⟨now, rfl⟩ := act_turn ha
    have ht := turn h now
    change (h.apply (.turn now)).phase = _ ∨ _ = some (h.apply (.turn now)).phase
    generalize h.apply (.turn now) = k at ht
    cases ht with
    | started now hp => exact Or.inr (by rw [hp]; rfl)
    | closed hp => exact Or.inr (by rw [hp, drain_eq]; rfl)
    | halted hp => exact Or.inr (by rw [hp]; rfl)
    | expelled =>
      left
      unfold expel
      split_ifs <;> simp [endSending]
    | @handled e relay => exact Or.inl (handled hs.registry_nodup hs.count e relay).phase
    | _ => exact Or.inl rfl

theorem shutdown_act (hs : Sound h) (hsd : h.shutdown = true) (a : Act) : (h.act a).shutdown = true := by
  cases a with
  | op o => exact shutdown_apply hs hsd o
  | arrive => exact (effect_frame (effect_act h (a := .arrive) rfl)).2.2.2 hsd

/-- **A hub that was told to stop counts nothing.** -/
theorem totals_act (hsd : h.shutdown = true) (a : Act) : (h.act a).totals = h.totals := by
  cases ha : a.asOp.isTurn with
  | false => exact (effect_frame (effect_act h ha)).2.2.1
  | true =>
    obtain ⟨now, rfl⟩ := act_turn ha
    have hn : h.nextEvent? = none := nextEvent?_of_closing (Or.inl hsd)
    have ht := turn h now
    change (h.apply (.turn now)).totals = _
    generalize h.apply (.turn now) = k at ht
    cases ht with
    | closed => simp [drain_eq, setRegistry]
    | enrolled _ hr => simp [hsd] at hr
    | expelled _ hr => simp [hsd] at hr
    | handled hn' => simp [hn] at hn'
    | _ => rfl

/-- **A hub that was told to stop delivers nothing.** Clients take what is queued for them. -/
theorem queued_act (hs : Sound h) (hsd : h.shutdown = true) (a : Act) (id : ClientId) :
    h.queued id = taken id h a.asOp ++ (h.act a).queued id := by
  cases a with
  | op o =>
    have hqueued := queued_apply hs o id
    rw [accepted_eq_nil (nextEvent?_of_closing (Or.inl hsd)), List.append_nil] at hqueued
    exact hqueued
  | arrive => exact (queued_effect (effect_act h (a := .arrive) rfl) (by simp [Act.asOp]) id).symm

end

/-! ## Relay and timers at every moment -/

section

variable {h : Hub}

/-- relay and timers follow the phase: a hub that has closed down takes no events and has told its timers to end,
and it has stopped only after both ended -/
structure Orderly (h : Hub) : Prop where
  timed : h.ticker.running = true → h.ticker.interval ≠ 0
  closed : h.isOpen = false → h.relay.receiving = false ∧ h.ticker.stopping = true
  ended : h.phase = .stopped → h.ticker.running = false ∧ h.heartbeat.running = false

theorem Orderly.of_kept {k : Hub} (ho : Orderly h) (hp : k.phase = h.phase)
    (hr : k.relay.receiving = h.relay.receiving) (ht : h.ticker.Keeps k.ticker)
    (hb : k.heartbeat.running = true → h.heartbeat.running = true) : Orderly k where
  timed hx := ht.interval ▸ ho.timed (ht.running hx)
  closed hx := by
    rw [hr, ht.stopping]
    exact ho.closed (by simpa [isOpen, hp] using hx)
  ended hx := by
    obtain ⟨hticker, hheartbeat⟩ := ho.ended (hp ▸ hx)
    rw [← Bool.not_eq_true] at hticker hheartbeat
    exact ⟨by simpa using mt ht.running hticker, by simpa using mt hb hheartbeat⟩

theorem orderly_create {config : HubConfig} (hh : Hub.create config = .ok h) : Orderly h := by
  have hp : h.phase = .created := (create_ok hh).2.2.2.2.2.1
  have hr : h.ticker.running = false := by
    unfold Hub.create at hh
    cases hc : Relay.create (max config.relayCapacity 1) with
    | error e => simp [hc, Except.map] at hh
    | ok relay =>
      simp only [hc, Except.map, Except.ok.injEq] at hh
      rw [← hh]
      rfl
  exact ⟨fun hx => by simp [hr] at hx, fun hx => by simp [isOpen, hp] at hx, fun hx => by simp [hp] at hx⟩

theorem orderly_quiet (ho : Orderly h) {k : Hub} (hp : k.phase = h.phase) (hm : k.machinery = h.machinery) :
    Orderly k := by
  simp only [machinery, Prod.mk.injEq] at hm
  obtain ⟨hr, ht, hb, -⟩ := hm
  exact ho.of_kept hp (by rw [hr]) (ht ▸ .refl _) (by rw [hb]; exact id)

theorem orderly_turn (hs : Sound h) (ho : Orderly h) {k : Hub} (ht : Turn h k) : Orderly k := by
  cases ht with
  | started now hp =>
    refine ⟨fun hx => ?_, fun hx => by simp [isOpen, start] at hx, fun hx => by cases hx⟩
    simpa [start, Ticker.start] using hx
  | waited => exact ho
  | closed hp =>
    have hkept : h.drain.ticker = h.ticker.stop ∧ h.drain.relay = h.relay.close ∧ h.drain.phase = .draining := by
      simp [drain_eq]
    obtain ⟨ht, hr, hp⟩ := hkept
    refine ⟨fun hx => ?_, fun _ => by rw [ht, hr]; exact ⟨rfl, rfl⟩, fun hx => by simp [hp] at hx⟩
    rw [ht] at hx ⊢
    exact ho.timed hx
  | enrolled => exact orderly_quiet ho rfl rfl
  | @expelled id rest =>
    have hq : Orderly { h with unregistrations := rest } := orderly_quiet ho rfl rfl
    unfold expel
    split_ifs
    · exact orderly_quiet hq (by simp [endSending]) (machinery_modifyClient _ _ _)
    · exact hq
  | @handled e relay hn took =>
    have hh := handle_frame (h := { h with relay }) hs.registry_nodup hs.count e
    obtain ⟨ht, hb⟩ := handle_timers (h := { h with relay }) hs.registry_nodup hs.count e
    exact ho.of_kept hh.2.1 (by rw [hh.2.2.2.2.2.2.2.2.1]; exact Relay.receiving_take? took) ht
      (by rw [hb]; exact id)
  | halted hp hended => exact ⟨ho.timed, fun _ => ho.closed (by simp [isOpen, hp]), fun _ => hended⟩

/-- **Every step keeps relay and timers in order.** -/
theorem orderly_act (hs : Sound h) (ho : Orderly h) (a : Act) : Orderly (h.act a) := by
  cases a with
  | arrive => exact orderly_quiet ho (effect_frame (effect_act h (a := .arrive) rfl)).2.1 (machinery_arrive h)
  | op o =>
    cases hq : o.isQuiet with
    | true =>
      have ht : o.isTurn = false := by cases o <;> first | rfl | cases hq
      exact orderly_quiet ho (effect_frame (effect h ht)).2.1 (machinery_apply h hq)
    | false =>
      simp only [act]
      cases o with
      | publish events => exact ⟨ho.timed, ho.closed, ho.ended⟩
      | produce task now =>
        simp only [apply]
        cases hk : h.producerStep task now with
        | none => exact ho
        | some k =>
          obtain ⟨hr, ht, hb, -⟩ := producerStep_kept hk
          exact ho.of_kept (producerStep_calm hk).phase hr (ht ▸ .refl _) (by rw [Option.getD_some, hb]; exact id)
      | tick now =>
        simp only [apply, tickerStep]
        cases ht : h.ticker.step now with
        | none => exact ho
        | some t => exact ho.of_kept rfl rfl (Ticker.keeps_step ht) id
      | beat now =>
        simp only [apply, heartbeatStep]
        cases hb : h.heartbeat.step h.relay now h.isHeld h.shutdown with
        | none => exact ho
        | some p =>
          obtain ⟨hrunning, hr⟩ := Heartbeat.step_kept hb
          exact ho.of_kept rfl hr (.refl _) fun _ => hrunning
      | turn now => exact orderly_turn hs ho (turn h now)
      | _ => cases hq

/-- a hub that has closed down stays closed -/
theorem closed_act (hs : Sound h) (hc : h.isOpen = false) (a : Act) : (h.act a).isOpen = false := by
  have hphase : h.phase = .draining ∨ h.phase = .stopped := by
    cases hp : h.phase <;> simp [isOpen, hp] at hc ⊢
  rcases phase_act hs a with hk | hk
  · simpa [isOpen, hk] using hc
  · rcases hphase with hp | hp
    · rw [hp] at hk
      simp [isOpen, ← Option.some.inj (show some HubPhase.stopped = _ from hk)]
    · rw [hp] at hk
      cases hk

/-- a hub that has stopped stays as it is to the outside -/
theorem stopped_act (hs : Sound h) (hp : h.phase = .stopped) (a : Act) : (h.act a).phase = .stopped := by
  rcases phase_act hs a with hk | hk
  · exact hk.trans hp
  · rw [hp] at hk
    cases hk

end

/-! ## Orders that make no difference -/

/-- the hub without the wishes of clients to be dropped -/
def unasked (h : Hub) : Hub :=
  { h with unregistrations := [] }

/-- whether the hub is told to stop, or to drop a client -/
def Act.isIdle : Act → Bool
  | .op .stop | .op (.unregister _) => true
  | _ => false

theorem unasked_modifyClient (h : Hub) (id : ClientId) (f : Client → Client) :
    (h.modifyClient id f).unasked = (h.unasked.modifyClient id f).unasked := by
  unfold modifyClient
  split_ifs <;> rfl

/-- closing down throws the wishes to be dropped away, and closes the same channels without them -/
theorem unasked_drain (h : Hub) : h.drain.unasked = h.unasked.drain.unasked := by
  have hmodify : ∀ (ids : List ClientId) (k l : Hub), k.unasked = l.unasked →
      (k.modifyClients ids (·.dismissed)).unasked = (l.modifyClients ids (·.dismissed)).unasked := by
    intro ids
    induction ids with
    | nil => exact fun k l hkl => hkl
    | cons id ids ih =>
      intro k l hkl
      refine ih _ _ ?_
      rw [unasked_modifyClient k, unasked_modifyClient l, hkl]
  have hclients := congrArg Hub.clients (hmodify (h.registry ++ h.registrations) h h.unasked rfl)
  rw [drain_eq, drain_eq]
  simp only [unasked, setRegistry, modifyClients_frame] at hclients ⊢
  rw [hclients]

theorem unasked_arrive (h : Hub) : h.arrive.unasked = h.unasked.arrive.unasked := by
  have ho : h.unasked.isOpen = h.isOpen := rfl
  have hconfig : h.unasked.config = h.config := rfl
  have hwaiting : h.unasked.registrations = h.registrations := rfl
  simp only [arrive, ho, hconfig, hwaiting]
  cases Client.create h.config with
  | error e => rfl
  | ok c => cases h.isOpen && decide (h.registrations.length < maxRegistrations) <;> rfl

theorem unasked_produce (h : Hub) (task now : Nat) :
    (h.apply (.produce task now)).unasked = (h.unasked.apply (.produce task now)).unasked := by
  have hproducers : h.unasked.producers = h.producers := rfl
  have hrelay : h.unasked.relay = h.relay := rfl
  have hconfig : h.unasked.config = h.config := rfl
  simp only [apply, producerStep, hproducers, hrelay, hconfig]
  cases h.producers[task]? with
  | none => rfl
  | some p =>
    cases hp : p.remaining with
    | nil => simp only [hp]; rfl
    | cons e rest =>
      simp only [hp]
      cases h.relay.attempt (.producer task) e now h.config.publishTimeout with
      | none => rfl
      | some q =>
        obtain ⟨relay, outcome⟩ := q
        cases outcome <;> rfl

/-- a hub that was told to stop does not look at the wishes to be dropped -/
theorem unasked_turn {h : Hub} (hsd : h.shutdown = true) (now : Nat) :
    (h.apply (.turn now)).unasked = (h.unasked.apply (.turn now)).unasked := by
  have hphase : h.unasked.phase = h.phase := rfl
  have hk : h.unasked.shutdown = true := hsd
  have htimers : (h.unasked.ticker.running || h.unasked.heartbeat.running) =
      (h.ticker.running || h.heartbeat.running) := rfl
  simp only [apply, step, hphase]
  cases h.phase with
  | created | stopped => rfl
  | running =>
    simp only [loopStep, hsd, hk, if_true]
    exact unasked_drain h
  | draining =>
    simp only [htimers]
    cases h.ticker.running || h.heartbeat.running <;> rfl

/-- once the hub was told to stop, what happens does not depend on the wishes to be dropped -/
theorem unasked_act {h : Hub} (hsd : h.shutdown = true) (a : Act) :
    (h.act a).unasked = (h.unasked.act a).unasked := by
  have hclient : ∀ id, h.unasked.client? id = h.client? id := fun _ => rfl
  cases a with
  | arrive => exact unasked_arrive h
  | op o =>
    simp only [act]
    cases o with
    | register =>
      have hclosed : ∀ k : Hub, k.shutdown = true → k.apply .register = k := fun k hk => by
        simp [apply, register, hk]
      rw [hclosed h hsd, hclosed h.unasked hsd]
      rfl
    | unregister id =>
      have ho : h.unasked.isOpen = h.isOpen := rfl
      simp only [apply, unregister, ho]
      cases h.isOpen <;> rfl
    | subscribe id r =>
      simp only [apply, subscribe, hclient]
      cases h.client? id with
      | none => rfl
      | some c =>
        cases hs : c.subscriptions.subscribe r with
        | error e => simp only [hs]; rfl
        | ok p => simpa only [hs] using unasked_modifyClient h id _
    | unsubscribe id r =>
      simp only [apply, unsubscribe, hclient]
      cases h.client? id with
      | none => rfl
      | some c =>
        cases hs : c.subscriptions.unsubscribe r with
        | error e => simp only [hs]; rfl
        | ok p => simpa only [hs] using unasked_modifyClient h id _
    | unsubscribeAll id | hangUp id => exact unasked_modifyClient h id _
    | take id =>
      simp only [apply, receive, hclient]
      cases (h.client? id).bind (·.channel.take?) with
      | none => rfl
      | some p => exact unasked_modifyClient h id _
    | drain id =>
      simp only [apply, drainTxs, hclient]
      cases h.client? id with
      | none => rfl
      | some c => exact unasked_modifyClient h id _
    | produce task now => exact unasked_produce h task now
    | turn now => exact unasked_turn hsd now
    | tick now =>
      have hticker : h.unasked.ticker = h.ticker := rfl
      simp only [apply, tickerStep, hticker]
      cases h.ticker.step now <;> rfl
    | beat now =>
      have hbeat : h.unasked.heartbeat.step h.unasked.relay now h.unasked.isHeld h.unasked.shutdown =
          h.heartbeat.step h.relay now h.isHeld h.shutdown := rfl
      simp only [apply, heartbeatStep, hbeat]
      cases h.heartbeat.step h.relay now h.isHeld h.shutdown <;> rfl
    | publish | stop | release | setReady => rfl

theorem unasked_idle {h : Hub} (hsd : h.shutdown = true) {a : Act} (ha : a.isIdle = true) :
    (h.act a).unasked = h.unasked := by
  cases a with
  | arrive => cases ha
  | op o =>
    cases o with
    | unregister id =>
      simp only [act, apply, unregister]
      cases h.isOpen <;> rfl
    | stop =>
      simp only [act, apply, stop, unasked]
      rw [hsd]
    | _ => cases ha

/-- **Telling the hub to stop again, or to drop clients, makes no difference.** Without these orders the same happens
as with them. -/
theorem unasked_acts {h k : Hub} (hs : Sound h) (hsd : h.shutdown = true) (ks : Sound k) (ksd : k.shutdown = true)
    (hk : h.unasked = k.unasked) (as : List Act) :
    (h.acts as).unasked = (k.acts (as.filter (!·.isIdle))).unasked := by
  induction as generalizing h k with
  | nil => exact hk
  | cons a as ih =>
    have hs' := sound_act hs a
    have hsd' := shutdown_act hs hsd a
    cases ha : a.isIdle with
    | true =>
      rw [List.filter_cons_of_neg (by simp [ha])]
      exact ih hs' hsd' ks ksd ((unasked_idle hsd ha).trans hk)
    | false =>
      rw [List.filter_cons_of_pos (by simp [ha])]
      have hnext : (h.act a).unasked = (k.act a).unasked := by rw [unasked_act hsd, hk, ← unasked_act ksd]
      exact ih hs' hsd' (sound_act ks a) (shutdown_act ks ksd a) hnext

/-! ## The end -/

/-- whether the hub's own task or one of its timers makes a move at a time -/
def Act.isOwn (now : Nat) (a : Act) : Prop :=
  a = .op (.turn now) ∨ a = .op (.tick now) ∨ a = .op (.beat now)

/-- the moves that the timers can still make before the hub stops -/
def left (h : Hub) (now : Nat) : Nat :=
  h.ticker.left now + if h.heartbeat.running then 1 else 0

/-- the hub can come to its end by moves of its own -/
def Ends (h : Hub) (now : Nat) : Prop :=
  ∃ as, (∀ a ∈ as, Act.isOwn now a) ∧ (h.acts as).phase = .stopped

theorem Ends.of_act {h : Hub} {now : Nat} {a : Act} (ha : a.isOwn now) (he : (h.act a).Ends now) : h.Ends now := by
  obtain ⟨as, has, hp⟩ := he
  exact ⟨a :: as, List.forall_mem_cons.2 ⟨ha, has⟩, hp⟩

/-- a hub that has closed down waits for its timers, and each of their moves brings it nearer to its end -/
theorem ends_draining {h : Hub} (now : Nat) (hs : Sound h) (ho : Orderly h) (hsd : h.shutdown = true)
    (hp : h.phase = .draining) : h.Ends now := by
  -- by induction on the moves that the timers have left: the flush timer ends first, then the heartbeat
  induction hn : h.left now using Nat.strongRecOn generalizing h with
  | ind n ih =>
    subst hn
    have hclosed := ho.closed (by simp [isOpen, hp])
    cases ht : h.ticker.running with
    | true =>
      obtain ⟨t, hstep, hless⟩ := Ticker.step_stopping now ht hclosed.2 (ho.timed ht)
      have hk : h.act (.op (.tick now)) = { h with ticker := t } := by simp [act, apply, tickerStep, hstep]
      have hnext := ih (h := h.act (.op (.tick now))) _ (by rw [hk]; exact Nat.add_lt_add_right hless _)
        (sound_act hs _) (orderly_act hs ho _) (by rw [hk]; exact hsd) (by rw [hk]; exact hp) rfl
      exact .of_act (Or.inr (Or.inl rfl)) hnext
    | false =>
      cases hb : h.heartbeat.running with
      | true =>
        have hk : h.act (.op (.beat now)) = { h with
            heartbeat := { h.heartbeat with waiting := false, running := false }
            relay := h.relay.withdraw .heartbeat } := by
          simp [act, apply, heartbeatStep, hsd, Heartbeat.step_shutdown hb]
        have hnext := ih (h := h.act (.op (.beat now))) _ (by rw [hk]; simp [left, hb])
          (sound_act hs _) (orderly_act hs ho _) (by rw [hk]; exact hsd) (by rw [hk]; exact hp) rfl
        exact .of_act (Or.inr (Or.inr rfl)) hnext
      | false =>
        refine ⟨[.op (.turn now)], by simp [Act.isOwn], ?_⟩
        simp [acts, act, apply, step, hp, ht, hb]

/-- **A hub that was told to stop comes to its end.** At whatever time, some moves of its own task and of its timers
stop it, and nobody else has to do anything for it. -/
theorem ends {h : Hub} (now : Nat) (hs : Sound h) (ho : Orderly h) (hsd : h.shutdown = true) : h.Ends now := by
  have hown : Act.isOwn now (.op (.turn now)) := Or.inl rfl
  have hrunning : ∀ {h : Hub}, Sound h → Orderly h → h.shutdown = true → h.phase = .running → h.Ends now :=
    fun {h} hs ho hsd hp => by
      have hk : h.act (.op (.turn now)) = h.drain := by simp [act, apply, step, hp, loopStep, hsd]
      exact .of_act hown (ends_draining now (sound_act hs _) (orderly_act hs ho _)
        (shutdown_act hs hsd _) (by rw [hk, drain_eq]))
  cases hp : h.phase with
  | created =>
    have hk : h.act (.op (.turn now)) = h.start now := by simp [act, apply, step, hp]
    exact .of_act hown (hrunning (sound_act hs _) (orderly_act hs ho _) (shutdown_act hs hsd _)
      (by rw [hk]; rfl))
  | running => exact hrunning hs ho hsd hp
  | draining => exact ends_draining now hs ho hsd hp
  | stopped => exact ⟨[], by simp, hp⟩

/-! ## A run after the hub was told to stop -/

/-- what every step of a sound hub keeps is kept by a list of them -/
theorem kept_acts {P : Hub → Prop} (hstep : ∀ k a, Sound k → P k → P (k.act a)) {h : Hub} (hs : Sound h)
    (hp : P h) (as : List Act) : Sound (h.acts as) ∧ P (h.acts as) :=
  Trace.run_induction (P := fun k => Sound k ∧ P k) (fun k a hk => ⟨sound_act hk.1 a, hstep k a hk.1 hk.2⟩) ⟨hs, hp⟩ as

theorem silent_acts {h : Hub} (hs : Sound h) (hsd : h.shutdown = true) (as : List Act) :
    (h.acts as).shutdown = true ∧ (h.acts as).totals = h.totals :=
  (kept_acts (P := fun k => k.shutdown = true ∧ k.totals = h.totals)
    (fun _ a hs hk => ⟨shutdown_act hs hk.1 a, (totals_act hk.1 a).trans hk.2⟩) hs ⟨hsd, rfl⟩ as).2

/-- what a client takes out of its channel along a list of things that happen -/
def takings (id : ClientId) (h : Hub) (as : List Act) : List Event :=
  Trace.record act (fun k a => taken id k a.asOp) h as

/-- **Nothing comes into a channel once the hub was told to stop.** What a client takes, followed by what is queued for
it, is what was queued. -/
theorem queued_acts {h : Hub} (hs : Sound h) (hsd : h.shutdown = true) (as : List Act) (id : ClientId) :
    takings id h as ++ (h.acts as).queued id = h.queued id := by
  induction as generalizing h with
  | nil => rfl
  | cons a as ih =>
    calc takings id h (a :: as) ++ (h.acts (a :: as)).queued id
        = taken id h a.asOp ++ (takings id (h.act a) as ++ ((h.act a).acts as).queued id) := List.append_assoc _ _ _
      _ = taken id h a.asOp ++ (h.act a).queued id := by rw [ih (sound_act hs a) (shutdown_act hs hsd a)]
      _ = h.queued id := (queued_act hs hsd a id).symm

/-- a hub that has stopped stays so, and the figures that it tells stay as they are -/
theorem stopped_acts {h : Hub} (hs : Sound h) (hsd : h.shutdown = true) (hp : h.phase = .stopped)
    (as : List Act) : (h.acts as).phase = .stopped ∧ (h.acts as).stats = h.stats := by
  have hempty : ∀ {k : Hub}, Sound k → k.phase = .stopped → k.connections = 0 := fun hk hkp => by
    rw [hk.count, (hk.closed (by simp [isOpen, hkp])).1, List.length_nil]
  have hkept := kept_acts (P := (·.phase = .stopped)) (fun _ a hk hp => stopped_act hk hp a) hs hp as
  refine ⟨hkept.2, ?_⟩
  rw [stats, stats, hempty hs hp, (silent_acts hs hsd as).2]
  exact congrArg (HubStats.mk · _) (hempty hkept.1 hkept.2)

/-! ## What is offered to a hub that has closed down -/

/-- a hub that has closed down, with all that holds of it at every moment -/
structure Shut (h : Hub) : Prop where
  sound : Sound h
  orderly : Orderly h
  closed : h.isOpen = false

theorem shut_apply {h : Hub} (hc : Shut h) (op : Op) : Shut (h.apply op) :=
  ⟨sound_apply hc.sound op, orderly_act hc.sound hc.orderly (.op op), closed_act hc.sound hc.closed (.op op)⟩

/-- the background task was told that the hub takes no events -/
def refused (h : Hub) (task : Nat) : Prop :=
  h.producers[task]? = some { remaining := [], outcomes := [.refused] }

/-- the background task still has its one event to offer, or was told that the hub takes none -/
def offers (h : Hub) (task : Nat) (e : Event) : Prop :=
  h.producers[task]? = some { remaining := [e] } ∨ h.refused task

theorem refused_apply {h : Hub} (hs : Sound h) {task : Nat} (hr : h.refused task) (op : Op) :
    (h.apply op).refused task := by
  by_cases hop : ∃ now, op = .produce task now
  · obtain ⟨now, rfl⟩ := hop
    have hdone : h.producerStep task now = none := by
      rw [refused] at hr
      simp only [producerStep, hr]
    simpa only [apply, hdone, Option.getD_none] using hr
  · exact producer_apply hs hr fun now hp => hop ⟨now, hp⟩

/-- the task's own move is refused -/
theorem refused_of_offers {h : Hub} (hc : Shut h) {task : Nat} {e : Event} (ho : h.offers task e) (now : Nat) :
    h.refused task ∨ ∃ k, h.producerStep task now = some k ∧ k.refused task := by
  rcases ho with hp | hr
  · have hlen := (List.getElem?_eq_some_iff.1 hp).1
    refine Or.inr ⟨_, producerStep_closed (hc.orderly.closed hc.closed).1 hp rfl, ?_⟩
    simp [refused, hlen]
  · exact Or.inl hr

theorem offers_apply {h : Hub} (hc : Shut h) {task : Nat} {e : Event} (ho : h.offers task e) (op : Op) :
    (h.apply op).offers task e := by
  by_cases hop : ∃ now, op = .produce task now
  · obtain ⟨now, rfl⟩ := hop
    rcases refused_of_offers hc ho now with hr | ⟨k, hk, hr⟩
    · exact Or.inr (refused_apply hc.sound hr _)
    · exact Or.inr (by simpa only [apply, hk, Option.getD_some] using hr)
  · rcases ho with hp | hr
    · exact Or.inl (producer_apply hc.sound hp fun now hx => hop ⟨now, hx⟩)
    · exact Or.inr (refused_apply hc.sound hr op)

end Hub

end ChainFeed
