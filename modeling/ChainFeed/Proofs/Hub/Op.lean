/-
Everything that can happen to a hub, one operation at a time, and what each of them can do.

An operation is either the hub's own turn or something that is done to it from outside: by clients, by their
sessions, by producers and by the timers. Main statements:
- `effect`: an operation from outside adds to a queue of the hub, changes one client, or changes nothing that
  clients see.
- `turn`: the hub's turn starts it, takes one message in the order registrations, unregistrations, events, or
  closes it down.
- `turn_handled`: a turn that has an event to handle makes `Handled` of it; `turn_quiet`: else it closes channels at
  most.
-/
import ChainFeed.Proofs.Feed.Targets
import ChainFeed.Proofs.Hub.Handling
import ChainFeed.Proofs.Trace

namespace ChainFeed.Hub

/-! ## Operations -/

/-- one thing that happens to a hub -/
inductive Op where
  /-- a client is made and handed to the hub -/
  | register
  | unregister (id : ClientId)
  | subscribe (id : ClientId) (request : SubscriptionRequest)
  | unsubscribe (id : ClientId) (request : SubscriptionRequest)
  | unsubscribeAll (id : ClientId)
  /-- a client takes the oldest event from its channel -/
  | take (id : ClientId)
  | hangUp (id : ClientId)
  /-- a client takes its waiting transactions -/
  | drain (id : ClientId)
  | publish (events : List Event)
  /-- a background task makes a move -/
  | produce (task now : Nat)
  /-- the hub's own task makes a move -/
  | turn (now : Nat)
  /-- the flush timer makes a move -/
  | tick (now : Nat)
  /-- the heartbeat makes a move -/
  | beat (now : Nat)
  | stop
  | release
  | setReady (ready : Bool)

/-- the client that an operation from outside is about -/
def Op.client? : Op → Option ClientId
  | .unregister id | .subscribe id _ | .unsubscribe id _ | .unsubscribeAll id | .take id | .hangUp id
  | .drain id => some id
  | _ => none

/-- whether the operation is the hub's own turn -/
def Op.isTurn : Op → Bool
  | .turn _ => true
  | _ => false

theorem Op.eq_turn {op : Op} (ht : op.isTurn = true) : ∃ now, op = .turn now := by
  cases op with
  | turn now => exact ⟨now, rfl⟩
  | _ => cases ht

/-- carries out an operation; one that is not possible changes nothing -/
def apply (h : Hub) : Op → Hub
  | .register =>
    match h.register with
    | .ok (.ok (k, _)) => k
    | _ => h
  | .unregister id => h.unregister id
  | .subscribe id request =>
    match h.subscribe id request with
    | .ok (k, _) => k
    | .error _ => h
  | .unsubscribe id request =>
    match h.unsubscribe id request with
    | .ok (k, _) => k
    | .error _ => h
  | .unsubscribeAll id => h.unsubscribeAll id
  | .take id =>
    match h.receive id with
    | some (_, k) => k
    | none => h
  | .hangUp id => h.hangUp id
  | .drain id => (h.drainTxs id).2
  | .publish events => (h.publish events).1
  | .produce task now => (h.producerStep task now).getD h
  | .turn now => (h.step now).getD h
  | .tick now => (h.tickerStep now).getD h
  | .beat now => (h.heartbeatStep now).getD h
  | .stop => h.stop
  | .release => h.release
  | .setReady ready => h.setReady ready

/-- the hub after a list of operations -/
def run (h : Hub) (ops : List Op) : Hub :=
  Trace.run apply h ops

@[simp] theorem run_nil (h : Hub) : h.run [] = h := rfl

/-- what is noted of each operation along a list of them -/
def record {Note : Type} (note : Hub → Op → List Note) (h : Hub) (ops : List Op) : List Note :=
  Trace.record apply note h ops

/-! ## What is done from outside -/

/-- `k` differs from `h` at most in its relay, its timers and what keeps it alive -/
structure Calm (h k : Hub) : Prop where
  config : k.config = h.config
  phase : k.phase = h.phase
  shutdown : h.shutdown = true → k.shutdown = true
  clients : k.clients = h.clients
  registry : k.registry = h.registry
  connections : k.connections = h.connections
  registrations : k.registrations = h.registrations
  unregistrations : k.unregistrations = h.unregistrations
  totals : k.totals = h.totals

theorem Calm.refl (h : Hub) : Calm h h := ⟨rfl, rfl, id, rfl, rfl, rfl, rfl, rfl, rfl⟩

theorem Calm.client? {h k : Hub} (hk : Calm h k) (id : ClientId) : k.client? id = h.client? id := by
  simp [Hub.client?, hk.clients]

/-- what an operation from outside can do -/
inductive Effect (h : Hub) : Op → Hub → Prop
  /-- nothing that clients see changes -/
  | calm {op : Op} {k : Hub} (calm : Calm h k) : Effect h op k
  | entered {c : Client} (fits : Client.create h.config = .ok c) (isOpen : h.isOpen = true) :
      Effect h .register
        { h with
          clients := h.clients ++ [c]
          registrations := h.registrations ++ [h.clients.length + 1] }
  | unregistered {id : ClientId} (isOpen : h.isOpen = true) :
      Effect h (.unregister id) { h with unregistrations := h.unregistrations ++ [id] }
  /-- the client gets other subscriptions -/
  | subscribed {op : Op} {id : ClientId} {c : Client} {s : Subscriptions} (about : op.client? = some id)
      (client : h.client? id = some c) (change : c.subscriptions.Change s) :
      Effect h op (h.modifyClient id ({ · with subscriptions := s }))
  | taken {id : ClientId} {c : Client} {e : Event} {rest : List Event} (client : h.client? id = some c)
      (queue : c.channel.queue = e :: rest) :
      Effect h (.take id) (h.modifyClient id ({ · with channel := { c.channel with queue := rest } }))
  | hungUp {id : ClientId} :
      Effect h (.hangUp id) (h.modifyClient id fun c => { c with channel := c.channel.endReceiving })
  | drained {id : ClientId} {c : Client} (client : h.client? id = some c) :
      Effect h (.drain id) (h.modifyClient id ({ · with buffer := c.buffer.drain.2 }))

theorem producerStep_calm {h k : Hub} {task now : Nat} (hk : h.producerStep task now = some k) :
    Calm h k := by
  unfold producerStep at hk
  split at hk
  · cases hk
  · split at hk
    · cases hk
    · split at hk
      · cases hk
      · cases hk
        exact ⟨rfl, rfl, id, rfl, rfl, rfl, rfl, rfl, rfl⟩
      · cases hk
        exact ⟨rfl, rfl, id, rfl, rfl, rfl, rfl, rfl, rfl⟩

theorem tickerStep_calm {h k : Hub} {now : Nat} (hk : h.tickerStep now = some k) : Calm h k := by
  obtain ⟨t, -, rfl⟩ := Option.map_eq_some_iff.1 hk
  exact ⟨rfl, rfl, id, rfl, rfl, rfl, rfl, rfl, rfl⟩

theorem heartbeatStep_calm {h k : Hub} {now : Nat} (hk : h.heartbeatStep now = some k) : Calm h k := by
  obtain ⟨t, -, rfl⟩ := Option.map_eq_some_iff.1 hk
  exact ⟨rfl, rfl, id, rfl, rfl, rfl, rfl, rfl, rfl⟩

theorem Calm.getD {h : Hub} {k? : Option Hub} (hk : ∀ k, k? = some k → Calm h k) : Calm h (k?.getD h) := by
  cases k? with
  | none => exact .refl h
  | some k => exact hk k rfl

theorem register_ok {h k : Hub} {id : ClientId} (hk : h.register = .ok (.ok (k, id))) :
    h.isOpen = true ∧ id = h.clients.length + 1 ∧ ∃ c, Client.create h.config = .ok c ∧
      k = { h with
            clients := h.clients ++ [c]
            registrations := h.registrations ++ [h.clients.length + 1] } := by
  unfold register at hk
  split_ifs at hk with hs
  · cases hk
  · simp only [Bool.or_eq_true, not_or, Bool.not_eq_true, Bool.not_eq_false'] at hs
    cases hc : Client.create h.config with
    | error e => simp [hc, Except.map] at hk
    | ok c =>
      simp only [hc, Except.map, Except.ok.injEq, Prod.mk.injEq] at hk
      exact ⟨hs.2, hk.2.symm, c, rfl, hk.1.symm⟩

theorem subscribe_ok {h k : Hub} {id : ClientId} {r : SubscriptionRequest} {b : Bool}
    (hk : h.subscribe id r = .ok (k, b)) :
    k = h ∧ h.client? id = none ∨ ∃ c s, h.client? id = some c ∧ c.subscriptions.subscribe r = .ok (s, b) ∧
      k = h.modifyClient id ({ · with subscriptions := s }) := by
  unfold subscribe at hk
  split at hk
  · rename_i hc
    cases hk
    exact Or.inl ⟨rfl, hc⟩
  · rename_i c hc
    split at hk
    · cases hk
    · rename_i s changed hs
      cases hk
      exact Or.inr ⟨c, s, hc, hs, rfl⟩

theorem unsubscribe_ok {h k : Hub} {id : ClientId} {r : SubscriptionRequest} {b : Bool}
    (hk : h.unsubscribe id r = .ok (k, b)) :
    k = h ∧ h.client? id = none ∨ ∃ c s, h.client? id = some c ∧ c.subscriptions.unsubscribe r = .ok (s, b) ∧
      k = h.modifyClient id ({ · with subscriptions := s }) := by
  unfold unsubscribe at hk
  split at hk
  · rename_i hc
    cases hk
    exact Or.inl ⟨rfl, hc⟩
  · rename_i c hc
    split at hk
    · cases hk
    · rename_i s changed hs
      cases hk
      exact Or.inr ⟨c, s, hc, hs, rfl⟩

theorem receive_eq_some {h k : Hub} {id : ClientId} {e : Event} (hk : h.receive id = some (e, k)) :
    ∃ c rest, h.client? id = some c ∧ c.channel.queue = e :: rest ∧
      k = h.modifyClient id ({ · with channel := { c.channel with queue := rest } }) := by
  unfold receive at hk
  split at hk
  · cases hk
  · rename_i hb
    cases hk
    obtain ⟨c, hc, ht⟩ := Option.bind_eq_some_iff.1 hb
    unfold Channel.take? at ht
    split at ht
    · cases ht
    · rename_i a rest hq
      cases ht
      exact ⟨c, rest, hc, hq, rfl⟩

/-- **What an operation from outside can do.** -/
theorem effect (h : Hub) {op : Op} (hop : op.isTurn = false) : Effect h op (h.apply op) := by
  cases op with
  | register =>
    simp only [apply]
    split
    · rename_i k id hk
      obtain ⟨ho, -, c, hc, rfl⟩ := register_ok hk
      exact .entered hc ho
    · exact .calm (.refl h)
  | unregister id =>
    simp only [apply, unregister]
    split_ifs with ho
    · exact .unregistered ho
    · exact .calm (.refl h)
  | subscribe id r =>
    simp only [apply]
    split
    · rename_i k b hk
      rcases subscribe_ok hk with ⟨rfl, -⟩ | ⟨c, s, hc, hs, rfl⟩
      · exact .calm (.refl _)
      · exact .subscribed rfl hc (.added hs)
    · exact .calm (.refl h)
  | unsubscribe id r =>
    simp only [apply]
    split
    · rename_i k b hk
      rcases unsubscribe_ok hk with ⟨rfl, -⟩ | ⟨c, s, hc, hs, rfl⟩
      · exact .calm (.refl _)
      · exact .subscribed rfl hc (.removed hs)
    · exact .calm (.refl h)
  | unsubscribeAll id =>
    cases hc : h.client? id with
    | none =>
      have hk : h.apply (.unsubscribeAll id) = h := modifyClient_self (by simp [hc])
      rw [hk]
      exact .calm (.refl h)
    | some c => exact .subscribed rfl hc .cleared
  | take id =>
    simp only [apply]
    split
    · rename_i e k hk
      obtain ⟨c, rest, hc, hq, rfl⟩ := receive_eq_some hk
      exact .taken hc hq
    · exact .calm (.refl h)
  | hangUp id => exact .hungUp
  | drain id =>
    simp only [apply, drainTxs]
    split
    · exact .calm (.refl h)
    · rename_i c hc
      exact .drained hc
  | publish events => exact .calm ⟨rfl, rfl, id, rfl, rfl, rfl, rfl, rfl, rfl⟩
  | produce task now => exact .calm (.getD fun k => producerStep_calm)
  | turn now => simp [Op.isTurn] at hop
  | tick now => exact .calm (.getD fun k => tickerStep_calm)
  | beat now => exact .calm (.getD fun k => heartbeatStep_calm)
  | stop => exact .calm ⟨rfl, rfl, fun _ => rfl, rfl, rfl, rfl, rfl, rfl, rfl⟩
  | release => exact .calm ⟨rfl, rfl, id, rfl, rfl, rfl, rfl, rfl, rfl⟩
  | setReady ready => exact .calm ⟨rfl, rfl, id, rfl, rfl, rfl, rfl, rfl, rfl⟩

/-- nobody is registered or put out from outside -/
theorem effect_registry {h k : Hub} {op : Op} (he : Effect h op k) : k.registry = h.registry := by
  cases he with
  | calm hk => exact hk.registry
  | _ => simp

/-- what nothing from outside changes; a hub that was told to stop stays so -/
theorem effect_frame {h k : Hub} {op : Op} (he : Effect h op k) :
    k.config = h.config ∧ k.phase = h.phase ∧ k.totals = h.totals ∧ (h.shutdown = true → k.shutdown = true) := by
  cases he with
  | calm hk => exact ⟨hk.config, hk.phase, hk.totals, hk.shutdown⟩
  | _ => simp

/-! ## The hub's own turn -/

/-- the event that the hub handles when it is its turn: events come after shutdown, registrations and
unregistrations -/
def nextEvent? (h : Hub) : Option Event :=
  if h.phase = .running ∧ h.shutdown = false ∧ h.registrations = [] ∧ h.unregistrations = [] then
    h.relay.queue.head?
  else none

/-- a hub that closes down handles no event -/
theorem nextEvent?_of_closing {h : Hub}
    (hr : h.shutdown = true ∨ h.registrations = [] ∧ h.unregistrations = [] ∧ h.relay.queue = []) :
    h.nextEvent? = none := by
  unfold nextEvent?
  rcases hr with hr | ⟨-, -, hr⟩ <;> simp [hr]

/-- what the hub's turn can do -/
inductive Turn (h : Hub) : Hub → Prop
  | started (now : Nat) (phase : h.phase = .created) : Turn h (h.start now)
  /-- there is nothing to do -/
  | waited (nothing : h.nextEvent? = none) : Turn h h
  | closed (phase : h.phase = .running)
      (reason : h.shutdown = true ∨ h.registrations = [] ∧ h.unregistrations = [] ∧ h.relay.queue = []) :
      Turn h h.drain
  | enrolled {id : ClientId} {rest : List ClientId} (phase : h.phase = .running)
      (running : h.shutdown = false) (queue : h.registrations = id :: rest) :
      Turn h ({ h with registrations := rest }.enrol id)
  | expelled {id : ClientId} {rest : List ClientId} (phase : h.phase = .running)
      (running : h.shutdown = false) (settled : h.registrations = [])
      (queue : h.unregistrations = id :: rest) :
      Turn h ({ h with unregistrations := rest }.expel id)
  | handled {e : Event} {relay : Relay} (next : h.nextEvent? = some e) (took : h.relay.take? = some (e, relay)) :
      Turn h ({ h with relay }.handle e)
  | halted (phase : h.phase = .draining) (timers : h.ticker.running = false ∧ h.heartbeat.running = false) :
      Turn h { h with phase := .stopped }

/-- **What the hub's turn can do.** -/
theorem turn (h : Hub) (now : Nat) : Turn h (h.apply (.turn now)) := by
  unfold apply step
  cases hp : h.phase with
  | created => exact .started now hp
  | running =>
    simp only [loopStep]
    by_cases hs : h.shutdown = true
    · simpa [hs] using Turn.closed hp (Or.inl hs)
    · rw [if_neg hs]
      rw [Bool.not_eq_true] at hs
      split
      · rename_i id rest hr
        exact .enrolled hp hs hr
      · rename_i id rest hr hu
        exact .expelled hp hs hr hu
      · rename_i e relay hr hu ht
        refine .handled ?_ ht
        have hq : h.relay.queue.head? = some e := by
          unfold Relay.take? at ht
          split at ht <;> cases ht
          simp [*]
        simp [nextEvent?, hp, hs, hr, hu, hq]
      · rename_i hr hu ht
        have hq : h.relay.queue = [] := by
          unfold Relay.take? at ht
          split at ht
          · assumption
          · cases ht
        split_ifs
        · exact .waited (by simp [nextEvent?, hq])
        · exact .closed hp (Or.inr ⟨hr, hu, hq⟩)
  | draining =>
    simp only
    split_ifs with ht
    · exact .waited (by simp [nextEvent?, hp])
    · exact .halted hp (by simpa using ht)
  | stopped => exact .waited (by simp [nextEvent?, hp])

/-- `k` is `h` after the event was handled -/
structure Handled (h : Hub) (e : Event) (k : Hub) : Prop where
  client? : ∀ id, k.client? id =
    if id ∈ h.registry then (h.client? id).map fun c => (c.absorbed e).inRound (h.round? e) else h.client? id
  registry : k.registry = h.registry.filter fun id => !(h.round? e).any fun r => h.refuses r id
  registrations : k.registrations = h.registrations
  unregistrations : k.unregistrations = h.unregistrations
  phase : k.phase = h.phase
  shutdown : k.shutdown = h.shutdown
  clients : k.clients.length = h.clients.length
  count : k.connections = k.registry.length
  events : k.totals.events = h.totals.events + (h.round? e).toList.length

theorem handled {h : Hub} (hr : h.registry.Nodup) (hc : h.connections = h.registry.length) (e : Event)
    (relay : Relay) : Handled h e ({ h with relay }.handle e) := by
  obtain ⟨-, hp, hsd, -, hl, hcount, hrs, hu, -, -, hev⟩ := handle_frame (h := { h with relay }) hr hc e
  exact ⟨client?_handle (h := { h with relay }) hr hc e, handle_registry (h := { h with relay }) hr hc e, hrs, hu,
    hp, hsd, hl, hcount, hev⟩

/-- a turn that has an event to handle handles it -/
theorem turn_handled {h : Hub} (hr : h.registry.Nodup) (hc : h.connections = h.registry.length) {e : Event}
    (hn : h.nextEvent? = some e) (now : Nat) : Handled h e (h.apply (.turn now)) := by
  have hquiet : h.nextEvent? ≠ none := by simp [hn]
  have hk : h.phase = .running ∧ h.shutdown = false ∧ h.registrations = [] ∧ h.unregistrations = [] := by
    unfold nextEvent? at hn
    split_ifs at hn with hp
    exact hp
  have ht := turn h now
  generalize h.apply (.turn now) = k at ht
  cases ht with
  | started _ hp => simp [hk.1] at hp
  | waited hq => exact absurd hq hquiet
  | closed _ hreason => exact absurd (nextEvent?_of_closing hreason) hquiet
  | enrolled _ _ hq => simp [hk.2.2.1] at hq
  | expelled _ _ _ hq => simp [hk.2.2.2] at hq
  | @handled e' relay hn' =>
    cases hn.symm.trans hn'
    exact handled hr hc e relay
  | halted hp => simp [hk.1] at hp

/-- a turn without an event to handle closes channels at most -/
theorem turn_quiet {α : Type} (view : Client → α) {h : Hub} (hv : ∀ c : Client, view c.dismissed = view c)
    (hn : h.nextEvent? = none) (now : Nat) (id : ClientId) :
    ((h.apply (.turn now)).client? id).map view = (h.client? id).map view := by
  have ht := turn h now
  generalize h.apply (.turn now) = k at ht
  cases ht with
  | closed =>
    rw [drain_eq]
    exact view_modifyClients h _ hv id
  | @expelled j rest =>
    unfold expel
    split_ifs
    · exact view_modifyClient view { h with unregistrations := rest } j hv id
    · rfl
  | handled hn' => simp [hn] at hn'
  | _ => rfl

end ChainFeed.Hub
