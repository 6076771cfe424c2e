/-
What one round of delivery and one announced transaction do to each client and to the registry.

- `deliverAll_eq`, `bufferForAll_eq`: the passes over the registry change each client by itself.
- `broadcast_registry`: a round puts out exactly the clients that refuse the event.
- `client?_broadcast`: every other client that wants the event has it at the end of its queue.
-/
import ChainFeed.Proofs.Hub.Clients

namespace ChainFeed

/-! ## One client in a round -/

namespace Client

/-- whether the client wants the event and cannot take it -/
def refuses (c : Client) (e : Event) : Bool :=
  c.wants e && (c.channel.offer? e).isNone

/-- the client after the event was offered to it -/
def offered (c : Client) (e : Event) : Client :=
  if c.wants e then
    match c.channel.offer? e with
    | some channel => { c with channel }
    | none => c
  else c

/-- the client whose channel the hub has closed -/
def dismissed (c : Client) : Client :=
  { c with channel := c.channel.endSending }

/-- the client after a round: one that refused the event is put out -/
def afterRound (c : Client) (e : Event) : Client :=
  if c.refuses e then c.dismissed else c.offered e

/-- the client after a transaction was announced -/
def buffered (c : Client) (tx : Transaction) : Client :=
  if c.subscriptions.hasKind .newTxs then { c with buffer := c.buffer.append tx } else c

/-- whether the transaction makes the client's buffer due -/
def dueWith (c : Client) (tx : Transaction) : Bool :=
  c.subscriptions.hasKind .newTxs && (c.buffer.append tx).isDue

/-- a client refuses what it wants while its channel is closed or full -/
theorem refuses_iff {c : Client} {e : Event} :
    c.refuses e = true ↔ c.wants e = true ∧
      (c.channel.receiving = false ∨ c.channel.capacity ≤ c.channel.queue.length) := by
  simp only [refuses, Channel.offer?, Bool.and_eq_true, decide_eq_true_eq]
  cases hr : c.channel.receiving
  · simp
  · by_cases hl : c.channel.queue.length < c.channel.capacity
    · simp [hl, Nat.not_le.2 hl]
    · simp [hl, Nat.not_lt.1 hl]

@[simp] theorem refuses_buffered (c : Client) (tx : Transaction) (e : Event) :
    (c.buffered tx).refuses e = c.refuses e := by
  unfold buffered
  split_ifs <;> rfl

theorem offered_of_refuses {c : Client} {e : Event} (h : c.refuses e = true) : c.offered e = c := by
  simp only [refuses, Bool.and_eq_true, Option.isNone_iff_eq_none] at h
  simp [offered, h]

/-- a client that wants an event and does not refuse it has it last in its queue -/
theorem offered_queue {c : Client} {e : Event} :
    (c.offered e).channel.queue =
      c.channel.queue ++ if c.wants e && !c.refuses e then [e] else [] := by
  unfold offered refuses
  by_cases hw : c.wants e = true
  · cases ho : c.channel.offer? e with
    | none => simp [hw]
    | some d =>
      obtain ⟨-, -, rfl⟩ := Channel.offer?_eq_some_iff.1 ho
      simp [hw]
  · simp [hw]

/-- only the queue of a client changes when an event is offered to it -/
theorem offered_eq (c : Client) (e : Event) :
    c.offered e = { c with channel := { c.channel with queue := (c.offered e).channel.queue } } := by
  unfold offered
  split_ifs with hw
  · cases ho : c.channel.offer? e with
    | none => rfl
    | some d =>
      obtain ⟨-, -, rfl⟩ := Channel.offer?_eq_some_iff.1 ho
      rfl
  · rfl

theorem afterRound_queue {c : Client} {e : Event} :
    (c.afterRound e).channel.queue =
      c.channel.queue ++ if c.wants e && !c.refuses e then [e] else [] := by
  unfold afterRound
  by_cases hr : c.refuses e = true
  · simp [hr, dismissed, Channel.endSending]
  · rw [if_neg hr]
    exact offered_queue

@[simp] theorem afterRound_frame (c : Client) (e : Event) :
    (c.afterRound e).subscriptions = c.subscriptions ∧ (c.afterRound e).buffer = c.buffer ∧
    (c.afterRound e).channel.capacity = c.channel.capacity ∧
    (c.afterRound e).channel.receiving = c.channel.receiving := by
  unfold afterRound
  split_ifs
  · simp [dismissed, Channel.endSending]
  · rw [offered_eq]
    simp

/-- a round closes the channels of those that refuse -/
theorem afterRound_sending (c : Client) (e : Event) :
    (c.afterRound e).channel.sending = (c.channel.sending && !c.refuses e) := by
  unfold afterRound
  split_ifs with hr
  · simp [dismissed, Channel.endSending, hr]
  · rw [offered_eq]
    simp [hr]

end Client

namespace Hub

/-! ## Passes over the registry -/

/-- whether a client refuses the event -/
def refuses (h : Hub) (e : Event) (id : ClientId) : Bool :=
  (h.client? id).any (·.refuses e)

theorem deliver_eq (h : Hub) (e : Event) (id : ClientId) :
    h.deliver e id = (h.modifyClient id (·.offered e), h.refuses e id) := by
  unfold deliver refuses
  cases hc : h.client? id with
  | none =>
    have hs : h.modifyClient id (·.offered e) = h := modifyClient_self (by simp [hc])
    simp [hs]
  | some c =>
    by_cases hw : c.wants e = true
    · cases ho : c.channel.offer? e with
      | none =>
        have hs : h.modifyClient id (·.offered e) = h := modifyClient_self fun d hd => by
          rw [hc] at hd
          cases hd
          simp [Client.offered, hw, ho]
        simp [hw, ho, hs, Client.refuses]
      | some channel =>
        have hs : h.modifyClient id (·.offered e) = h.modifyClient id ({ · with channel := channel }) :=
          modifyClient_congr fun d hd => by
            rw [hc] at hd
            cases hd
            simp [Client.offered, hw, ho]
        simp [hw, ho, hs, Client.refuses]
    · have hs : h.modifyClient id (·.offered e) = h := modifyClient_self fun d hd => by
        rw [hc] at hd
        cases hd
        simp [Client.offered, hw]
      simp [hw, hs, Client.refuses]

/-- delivery to several clients offers the event to each of them -/
theorem deliverAll_eq (h : Hub) (e : Event) {ids : List ClientId} (hn : ids.Nodup) :
    h.deliverAll e ids = (h.modifyClients ids (·.offered e), ids.filter (h.refuses e)) := by
  induction ids generalizing h with
  | nil => rfl
  | cons id ids ih =>
    obtain ⟨hid, hn⟩ := List.nodup_cons.1 hn
    have hr : ids.filter ((h.modifyClient id (·.offered e)).refuses e) = ids.filter (h.refuses e) := by
      apply List.filter_congr
      intro j hj
      have hne : j ≠ id := fun he => hid (he ▸ hj)
      simp [refuses, client?_modifyClient, hne]
    simp only [deliverAll, deliver_eq, ih _ hn, hr, modifyClients_cons, List.filter_cons]

theorem bufferFor_eq (h : Hub) (tx : Transaction) (id : ClientId) :
    h.bufferFor tx id =
      (h.modifyClient id (·.buffered tx), (h.client? id).any (·.dueWith tx)) := by
  unfold bufferFor bufferTx
  cases hc : h.client? id with
  | none =>
    have hs : h.modifyClient id (·.buffered tx) = h := modifyClient_self (by simp [hc])
    simp [hs]
  | some c =>
    by_cases hk : c.subscriptions.hasKind .newTxs = true
    · have hs : h.modifyClient id (·.buffered tx) =
          h.modifyClient id fun c => { c with buffer := c.buffer.append tx } :=
        modifyClient_congr fun d hd => by
          rw [hc] at hd
          cases hd
          simp [Client.buffered, hk]
      simp [hk, hs, Client.dueWith]
    · have hs : h.modifyClient id (·.buffered tx) = h := modifyClient_self fun d hd => by
        rw [hc] at hd
        cases hd
        simp [Client.buffered, hk]
      simp [hk, hs, Client.dueWith]

/-- an announced transaction goes into the buffer of every client that takes `newtxs`; no buffer that is due
keeps the clients after it from getting theirs -/
theorem bufferForAll_eq (h : Hub) (tx : Transaction) {ids : List ClientId} (hn : ids.Nodup) :
    h.bufferForAll tx ids = (h.modifyClients ids (·.buffered tx),
      ids.any fun id => (h.client? id).any (·.dueWith tx)) := by
  induction ids generalizing h with
  | nil => rfl
  | cons id ids ih =>
    obtain ⟨hid, hn⟩ := List.nodup_cons.1 hn
    have hd : (ids.any fun j => ((h.modifyClient id (·.buffered tx)).client? j).any (·.dueWith tx)) =
        ids.any fun j => (h.client? j).any (·.dueWith tx) := by
      rw [Bool.eq_iff_iff, List.any_eq_true, List.any_eq_true]
      refine exists_congr fun j => and_congr_right fun hj => ?_
      have hne : j ≠ id := fun he => hid (he ▸ hj)
      simp [client?_modifyClient, hne]
    simp only [bufferForAll, bufferFor_eq, ih _ hn, hd, modifyClients_cons, List.any_cons]

/-! ## Putting clients out -/

@[simp] theorem setRegistry_setRegistry (h : Hub) (r s : List ClientId) :
    (h.setRegistry r).setRegistry s = h.setRegistry s := rfl

@[simp] theorem setRegistry_frame (h : Hub) (r : List ClientId) :
    (h.setRegistry r).config = h.config ∧ (h.setRegistry r).phase = h.phase ∧
    (h.setRegistry r).shutdown = h.shutdown ∧ (h.setRegistry r).ready = h.ready ∧
    (h.setRegistry r).held = h.held ∧ (h.setRegistry r).clients = h.clients ∧
    (h.setRegistry r).registry = r ∧ (h.setRegistry r).connections = r.length ∧
    (h.setRegistry r).registrations = h.registrations ∧
    (h.setRegistry r).unregistrations = h.unregistrations ∧ (h.setRegistry r).relay = h.relay ∧
    (h.setRegistry r).ticker = h.ticker ∧ (h.setRegistry r).heartbeat = h.heartbeat ∧
    (h.setRegistry r).producers = h.producers ∧ (h.setRegistry r).totals = h.totals := by
  simp [setRegistry]

@[simp] theorem isOpen_setRegistry (h : Hub) (r : List ClientId) : (h.setRegistry r).isOpen = h.isOpen := rfl

@[simp] theorem isHeld_setRegistry (h : Hub) (r : List ClientId) : (h.setRegistry r).isHeld = h.isHeld := rfl

@[simp] theorem client?_setRegistry (h : Hub) (r : List ClientId) (id : ClientId) :
    (h.setRegistry r).client? id = h.client? id := rfl

theorem modifyClients_setRegistry (h : Hub) (r : List ClientId) (ids : List ClientId)
    (f : Client → Client) :
    (h.setRegistry r).modifyClients ids f = (h.modifyClients ids f).setRegistry r := by
  induction ids generalizing h with
  | nil => rfl
  | cons id ids ih =>
    rw [modifyClients_cons, modifyClients_cons, ← ih]
    congr 1
    unfold modifyClient
    split_ifs <;> rfl

theorem setRegistry_self {h : Hub} (hc : h.connections = h.registry.length) :
    h.setRegistry h.registry = h := by
  simp [setRegistry, ← hc]

/-- putting several registered clients out closes their channels and leaves the others registered -/
theorem foldl_expel (h : Hub) {ids : List ClientId} (hn : ids.Nodup) (hs : ∀ id ∈ ids, id ∈ h.registry)
    (hr : h.registry.Nodup) (hc : h.connections = h.registry.length) :
    ids.foldl expel h =
      (h.modifyClients ids (·.dismissed)).setRegistry (h.registry.filter (· ∉ ids)) := by
  induction ids generalizing h with
  | nil => simpa using (setRegistry_self hc).symm
  | cons id ids ih =>
    obtain ⟨hid, hn⟩ := List.nodup_cons.1 hn
    have he : h.registry.erase id = h.registry.filter (· ≠ id) := by
      rw [hr.erase_eq_filter id]
      exact List.filter_congr fun j _ => by simp [bne, beq_eq_decide]
    have hx : h.expel id = (h.modifyClient id (·.dismissed)).setRegistry (h.registry.filter (· ≠ id)) := by
      simp only [expel, hs id (by simp), if_true, he]
      rfl
    rw [List.foldl_cons, hx, ih _ hn]
    · rw [modifyClients_setRegistry, setRegistry_setRegistry, modifyClients_cons]
      congr 1
      simp only [setRegistry, List.filter_filter]
      apply List.filter_congr
      intro j _
      simp [Bool.and_comm]
    · intro j hj
      have hne : j ≠ id := fun he => hid (he ▸ hj)
      simp [setRegistry, hs j (by simp [hj]), hne]
    · exact hr.filter _
    · rfl

/-- closing down dismisses every client that is registered or waits to be -/
theorem drain_eq (h : Hub) :
    h.drain = { (h.modifyClients (h.registry ++ h.registrations) (·.dismissed)).setRegistry [] with
      phase := .draining
      shutdown := true
      registrations := []
      unregistrations := []
      relay := h.relay.close
      ticker := h.ticker.stop } := by
  have hm : (h.registry ++ h.registrations).foldl endSending h =
      h.modifyClients (h.registry ++ h.registrations) (·.dismissed) := rfl
  simp only [drain, hm, setRegistry_frame, modifyClients_frame]

/-! ## One round -/

section

variable {h : Hub} (hr : h.registry.Nodup) (hc : h.connections = h.registry.length)
include hr hc

/-- a round changes each registered client by itself and puts out those that refuse -/
theorem broadcast_eq (e : Event) :
    h.broadcast e =
      { (h.modifyClients h.registry (·.afterRound e)).setRegistry
          (h.registry.filter fun id => !h.refuses e id) with
        totals :=
          { h.totals with
            events := h.totals.events + 1
            evicted := h.totals.evicted + (h.registry.filter (h.refuses e)).length } } := by
  have hx := foldl_expel (h.modifyClients h.registry (·.offered e)) (hr.filter (h.refuses e))
    (fun id hid => by simpa using (List.mem_filter.1 hid).1) (by simpa using hr) (by simpa using hc)
  have hm : (h.modifyClients h.registry (·.offered e)).modifyClients (h.registry.filter (h.refuses e))
      (·.dismissed) = h.modifyClients h.registry (·.afterRound e) := by
    apply eq_of_client?
    · intro j
      rw [client?_modifyClients _ (hr.filter _), client?_modifyClients h hr, client?_modifyClients h hr]
      cases hj : h.client? j with
      | none => simp
      | some c =>
        have hf : h.refuses e j = c.refuses e := by simp [refuses, hj]
        by_cases hm : j ∈ h.registry
        · by_cases hcr : c.refuses e = true
          · simp [hm, hf, hcr, Client.afterRound, Client.offered_of_refuses hcr]
          · simp [hm, hf, hcr, Client.afterRound]
        · simp [hm]
    · rw [modifyClients_eq _ _ (·.dismissed), modifyClients_eq h _ (·.offered e),
        modifyClients_eq h _ (·.afterRound e)]
  have hf : h.registry.filter (· ∉ h.registry.filter (h.refuses e)) =
      h.registry.filter fun id => !h.refuses e id := by
    apply List.filter_congr
    intro j hj
    simp [hj]
  simp only [broadcast, deliverAll_eq h e hr, hx, hm, modifyClients_frame, hf]
  simp [setRegistry]

theorem client?_broadcast (e : Event) (id : ClientId) :
    (h.broadcast e).client? id =
      if id ∈ h.registry then (h.client? id).map (·.afterRound e) else h.client? id := by
  rw [broadcast_eq hr hc e]
  exact client?_modifyClients h hr _ id

/-- **A round puts out exactly the clients that refuse the event.** -/
theorem broadcast_registry (e : Event) :
    (h.broadcast e).registry = h.registry.filter fun id => !h.refuses e id := by
  rw [broadcast_eq hr hc e]
  rfl

theorem broadcast_frame (e : Event) :
    (h.broadcast e).config = h.config ∧ (h.broadcast e).phase = h.phase ∧
    (h.broadcast e).shutdown = h.shutdown ∧ (h.broadcast e).held = h.held ∧
    (h.broadcast e).clients.length = h.clients.length ∧
    (h.broadcast e).connections = (h.broadcast e).registry.length ∧
    (h.broadcast e).registrations = h.registrations ∧
    (h.broadcast e).unregistrations = h.unregistrations ∧ (h.broadcast e).relay = h.relay ∧
    (h.broadcast e).producers = h.producers ∧
    (h.broadcast e).totals.events = h.totals.events + 1 := by
  rw [broadcast_eq hr hc e]
  simp [setRegistry]

end

end Hub

end ChainFeed
