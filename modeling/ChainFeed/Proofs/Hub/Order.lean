/-
The order of the registry does not matter.

The hub goes over its registry in no particular order. `Reordered` relates hubs that differ in this order only;
`Rearranged` is a run in which the registry is put into any other order before each operation.

- `apply_reordered`: an operation takes hubs that differ in the order to hubs that differ in the order.
- `run_rearranged`: every such run ends in the same hub, apart from the order.
-/
import ChainFeed.Proofs.Hub.Sound

namespace ChainFeed.Hub

/-- `k` is `h` with its registry in another order -/
def Reordered (h k : Hub) : Prop :=
  ∃ r, r.Perm h.registry ∧ k = h.setRegistry r

/-- a run from `h` to `k` that puts the registry into some order before each operation -/
inductive Rearranged : Hub → List Op → Hub → Prop
  | nil {h : Hub} : Rearranged h [] h
  | cons {h h' k : Hub} {op : Op} {ops : List Op} (order : Reordered h h')
      (rest : Rearranged (h'.apply op) ops k) : Rearranged h (op :: ops) k

theorem Reordered.trans {h k l : Hub} (hk : Reordered h k) (kl : Reordered k l) : Reordered h l := by
  obtain ⟨r, p, rfl⟩ := hk
  obtain ⟨s, q, rfl⟩ := kl
  exact ⟨s, q.trans p, rfl⟩

theorem modifyClient_setRegistry (h : Hub) (r : List ClientId) (id : ClientId) (f : Client → Client) :
    (h.setRegistry r).modifyClient id f = (h.modifyClient id f).setRegistry r :=
  modifyClients_setRegistry h r [id] f

/-- an operation from outside does not look at the registry -/
theorem apply_setRegistry (h : Hub) (r : List ClientId) {op : Op} (hop : op.isTurn = false) :
    (h.setRegistry r).apply op = (h.apply op).setRegistry r := by
  cases op with
  | register =>
    simp only [apply, register, isOpen_setRegistry, setRegistry_frame]
    cases h.shutdown || !h.isOpen
    · cases Client.create h.config <;> rfl
    · rfl
  | unregister id =>
    simp only [apply, unregister, isOpen_setRegistry, setRegistry_frame]
    cases h.isOpen <;> rfl
  | subscribe id q =>
    simp only [apply, subscribe, client?_setRegistry]
    cases h.client? id with
    | none => rfl
    | some c => rcases hs : c.subscriptions.subscribe q with _ | ⟨s, b⟩ <;> simp [hs, modifyClient_setRegistry]
  | unsubscribe id q =>
    simp only [apply, unsubscribe, client?_setRegistry]
    cases h.client? id with
    | none => rfl
    | some c => rcases hs : c.subscriptions.unsubscribe q with _ | ⟨s, b⟩ <;> simp [hs, modifyClient_setRegistry]
  | unsubscribeAll id => exact modifyClient_setRegistry h r id _
  | take id =>
    simp only [apply, receive, client?_setRegistry]
    rcases (h.client? id).bind (·.channel.take?) with _ | ⟨e, channel⟩ <;> simp [modifyClient_setRegistry]
  | hangUp id => exact modifyClient_setRegistry h r id _
  | drain id =>
    simp only [apply, drainTxs, client?_setRegistry]
    cases h.client? id <;> simp [modifyClient_setRegistry]
  | publish events => rfl
  | produce task now =>
    simp only [apply, producerStep, setRegistry_frame]
    cases h.producers[task]? with
    | none => rfl
    | some p =>
      cases hp : p.remaining with
      | nil => simp [hp]
      | cons e rest =>
        simp only [hp]
        rcases h.relay.attempt (.producer task) e now h.config.publishTimeout with _ | ⟨relay, _ | outcome⟩ <;>
          rfl
  | turn now => cases hop
  | tick now =>
    simp only [apply, tickerStep, setRegistry_frame]
    cases h.ticker.step now <;> rfl
  | beat now =>
    simp only [apply, heartbeatStep, isHeld_setRegistry, setRegistry_frame]
    cases h.heartbeat.step h.relay now h.isHeld h.shutdown <;> rfl
  | stop => rfl
  | release => rfl
  | setReady ready => rfl

/-! ## The hub's own turn -/

section

variable {h : Hub} {r : List ClientId} (hn : h.registry.Nodup) (p : r.Perm h.registry)
include hn p

theorem modifyClients_reordered (f : Client → Client) :
    (h.setRegistry r).modifyClients r f = (h.modifyClients h.registry f).setRegistry r := by
  rw [modifyClients_setRegistry, modifyClients_perm h p (p.nodup_iff.2 hn)]

omit hn in
theorem fills_reordered (tx : Transaction) : (h.setRegistry r).fills tx = h.fills tx := by
  rw [Bool.eq_iff_iff]
  simp only [fills, List.any_eq_true, client?_setRegistry]
  exact exists_congr fun id => and_congr_left fun _ => p.mem_iff

theorem announced_reordered (tx : Transaction) :
    (h.setRegistry r).announced tx = (h.announced tx).setRegistry r := by
  have hm := modifyClients_reordered hn p (·.buffered tx)
  simp only [announced, fills_reordered p]
  show ({ (h.setRegistry r).modifyClients r (·.buffered tx) with
    ticker := if h.fills tx then h.ticker.reset else h.ticker } : Hub) = _
  rw [hm]
  rfl

theorem broadcast_reordered (hc : h.connections = h.registry.length) (e : Event) :
    Reordered (h.broadcast e) ((h.setRegistry r).broadcast e) := by
  have hm := modifyClients_reordered hn p (·.afterRound e)
  have hl : (r.filter (h.refuses e)).length = (h.registry.filter (h.refuses e)).length :=
    (p.filter _).length_eq
  rw [broadcast_eq hn hc e, broadcast_eq (h := h.setRegistry r) (p.nodup_iff.2 hn) rfl e]
  refine ⟨r.filter fun id => !h.refuses e id, p.filter _, ?_⟩
  show ({ ((h.setRegistry r).modifyClients r (·.afterRound e)).setRegistry (r.filter fun id => !h.refuses e id) with
    totals := { h.totals with
      events := h.totals.events + 1
      evicted := h.totals.evicted + (r.filter (h.refuses e)).length } } : Hub) = _
  rw [hm, hl]
  rfl

theorem flush_reordered (hc : h.connections = h.registry.length) :
    Reordered h.flush (h.setRegistry r).flush := by
  obtain ⟨s, q, hs⟩ := broadcast_reordered hn p hc .newTxs
  refine ⟨s, q, ?_⟩
  simp only [flush, hs]
  rfl

theorem handle_reordered (hc : h.connections = h.registry.length) (e : Event) :
    Reordered (h.handle e) ((h.setRegistry r).handle e) := by
  have he : r.isEmpty = h.registry.isEmpty := by
    rw [Bool.eq_iff_iff, List.isEmpty_iff, List.isEmpty_iff]
    exact ⟨fun hr => List.nil_perm.1 (hr ▸ p), fun hr => List.perm_nil.1 (hr ▸ p)⟩
  unfold handle
  show Reordered _ (if r.isEmpty = true then _ else _)
  rw [he]
  split_ifs
  · exact ⟨r, p, rfl⟩
  · exact ⟨r, p, rfl⟩
  · cases e with
    | newTx tx =>
      have hf : (h.setRegistry r).flushes tx = h.flushes tx := by
        simp only [flushes, fills_reordered p]
        rfl
      simp only [handleTx_eq hn tx, handleTx_eq (h := h.setRegistry r) (p.nodup_iff.2 hn) tx, hf,
        announced_reordered hn p tx]
      split_ifs
      · exact flush_reordered (by simpa using hn) (by simpa using p) (by simpa using hc)
      · exact ⟨r, by simpa using p, rfl⟩
    | newTxs => exact flush_reordered hn p hc
    | _ => exact broadcast_reordered hn p hc _

end

theorem drain_reordered {h : Hub} {r : List ClientId} (hn : (h.registry ++ h.registrations).Nodup)
    (p : r.Perm h.registry) : (h.setRegistry r).drain = h.drain := by
  have hp : (r ++ h.registrations).Perm (h.registry ++ h.registrations) := p.append_right _
  rw [drain_eq, drain_eq]
  simp only [setRegistry_frame, modifyClients_setRegistry, setRegistry_setRegistry,
    modifyClients_perm h hp (hp.nodup_iff.2 hn)]

theorem expel_reordered {h : Hub} {r : List ClientId} (p : r.Perm h.registry) (id : ClientId) :
    Reordered (h.expel id) ((h.setRegistry r).expel id) := by
  simp only [expel, setRegistry_frame, p.mem_iff]
  split_ifs
  · refine ⟨r.erase id, p.erase id, ?_⟩
    simp only [endSending, modifyClient_setRegistry, setRegistry_setRegistry]
  · exact ⟨r, p, rfl⟩

theorem loopStep_reordered {h : Hub} {r : List ClientId} (hs : Sound h) (p : r.Perm h.registry) :
    Reordered (h.loopStep.getD h) ((h.setRegistry r).loopStep.getD (h.setRegistry r)) := by
  have hd : Reordered h.drain (h.setRegistry r).drain :=
    ⟨[], List.Perm.refl _, by rw [drain_reordered hs.nodup p, drain_eq]; rfl⟩
  simp only [loopStep, setRegistry_frame, isHeld_setRegistry]
  cases h.shutdown
  · simp only [Bool.false_eq_true, if_false]
    rcases h.registrations with _ | ⟨id, rest⟩
    · rcases h.unregistrations with _ | ⟨id, rest⟩
      · rcases h.relay.take? with _ | ⟨e, relay⟩
        · cases h.isHeld || h.heartbeat.waiting
          · exact hd
          · exact ⟨r, p, rfl⟩
        · exact handle_reordered
            (h := { h with shutdown := false, registrations := [], unregistrations := [], relay })
            hs.registry_nodup p hs.count e
      · exact expel_reordered (h := { h with shutdown := false, registrations := [], unregistrations := rest })
          p id
    · exact ⟨r ++ [id], p.append_right _, rfl⟩
  · exact hd

theorem turn_reordered {h : Hub} {r : List ClientId} (hs : Sound h) (p : r.Perm h.registry) (now : Nat) :
    Reordered (h.apply (.turn now)) ((h.setRegistry r).apply (.turn now)) := by
  simp only [apply, step, setRegistry_frame]
  cases h.phase with
  | created => exact ⟨r, p, rfl⟩
  | running => exact loopStep_reordered hs p
  | draining => cases h.ticker.running || h.heartbeat.running <;> exact ⟨r, p, rfl⟩
  | stopped => exact ⟨r, p, rfl⟩

/-! ## Runs -/

/-- **An operation takes hubs that differ in the order to hubs that differ in the order.** -/
theorem apply_reordered {h k : Hub} (hs : Sound h) (hk : Reordered h k) (op : Op) :
    Reordered (h.apply op) (k.apply op) := by
  obtain ⟨r, p, rfl⟩ := hk
  cases ht : op.isTurn
  · rw [apply_setRegistry h r ht]
    exact ⟨r, effect_registry (effect h ht) ▸ p, rfl⟩
  · obtain ⟨now, rfl⟩ := Op.eq_turn ht
    exact turn_reordered hs p now

/-- **The order in which the hub goes over its registry does not matter**, whatever it is at each operation. -/
theorem run_rearranged {h k : Hub} {ops : List Op} (hs : Sound h) (hk : Rearranged h ops k) :
    Reordered (h.run ops) k := by
  suffices hrun : ∀ {h₀ : Hub}, Sound h₀ → Reordered h₀ h → Reordered (h₀.run ops) k from
    hrun hs ⟨h.registry, List.Perm.refl _, (setRegistry_self hs.count).symm⟩
  clear hs
  induction hk with
  | nil => exact fun _ hr => hr
  | cons order _ ih => exact fun hs hr => ih (sound_apply hs _) (apply_reordered hs (hr.trans order) _)

end ChainFeed.Hub
