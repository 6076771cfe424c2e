/-
What becomes of one event that the hub takes from the relay.

`round?` tells the round that an event causes, `Client.absorbed` what the event does to a buffer. Main statements:
- `client?_handle`: a registered client first absorbs the event and then takes part in the round; others stay as they are.
- `handle_registry`: a round puts out exactly those that refuse it, and without a round the registry stays.
- `round?_cases`: a round is for the event itself, or for `newtxs` in place of a transaction.
-/
import ChainFeed.Proofs.Hub.Round

namespace ChainFeed

/-- whether the event can be in a client's channel: well formed, and neither a single transaction nor a request -/
def Event.isDeliverable (e : Event) : Bool :=
  e.isValid && !e.isRequest && e.kind ≠ .newTx

namespace Client

/-- the client after the event came to the hub: a valid transaction is buffered -/
def absorbed (c : Client) (e : Event) : Client :=
  match e with
  | .newTx tx => if tx.isValid then c.buffered tx else c
  | _ => c

/-- the client after the round that an event caused, if it caused one -/
def inRound (c : Client) : Option Event → Client
  | none => c
  | some e => c.afterRound e

@[simp] theorem absorbed_frame (c : Client) (e : Event) :
    (c.absorbed e).subscriptions = c.subscriptions ∧ (c.absorbed e).channel = c.channel := by
  cases e with
  | newTx tx =>
    simp only [absorbed, buffered]
    split_ifs <;> exact ⟨rfl, rfl⟩
  | _ => exact ⟨rfl, rfl⟩

/-- a client that wants a round and does not refuse it has it last in its queue -/
theorem inRound_queue (c : Client) (r : Option Event) :
    (c.inRound r).channel.queue =
      c.channel.queue ++ r.toList.filter fun r => c.wants r && !c.refuses r := by
  cases r with
  | none => simp [inRound]
  | some r => simp [inRound, afterRound_queue, List.filter_cons]

/-- a client that refuses a round is dismissed -/
theorem inRound_sending (c : Client) (r : Option Event) :
    (c.inRound r).channel.sending = (c.channel.sending && !r.any c.refuses) := by
  cases r with
  | none => simp [inRound]
  | some r => simp [inRound, afterRound_sending]

@[simp] theorem inRound_frame (c : Client) (r : Option Event) :
    (c.inRound r).subscriptions = c.subscriptions ∧ (c.inRound r).buffer = c.buffer ∧
    (c.inRound r).channel.capacity = c.channel.capacity ∧
    (c.inRound r).channel.receiving = c.channel.receiving := by
  cases r <;> simp [inRound]

@[simp] theorem wants_absorbed (c : Client) (e r : Event) : (c.absorbed e).wants r = c.wants r := by
  simp [wants]

@[simp] theorem refuses_absorbed (c : Client) (e r : Event) : (c.absorbed e).refuses r = c.refuses r := by
  simp [refuses, wants]

end Client

namespace Hub

/-- whether a transaction makes the buffer of a registered client due -/
def fills (h : Hub) (tx : Transaction) : Bool :=
  h.registry.any fun id => (h.client? id).any (·.dueWith tx)

/-- whether a transaction makes the hub flush: a buffer becomes due, or the timer's flag is up -/
def flushes (h : Hub) (tx : Transaction) : Bool :=
  h.fills tx || h.ticker.due

/-- the hub after a transaction went into the buffers, before the round -/
def announced (h : Hub) (tx : Transaction) : Hub :=
  { h.modifyClients h.registry (·.buffered tx) with
    ticker := if h.fills tx then h.ticker.reset else h.ticker }

/-- the round of delivery that an event causes, if any -/
def round? (h : Hub) (e : Event) : Option Event :=
  if h.registry.isEmpty || !e.isValid || e.isRequest then none
  else
    match e with
    | .newTx tx => if h.flushes tx then some .newTxs else none
    | e => some e

/-- a round is for the event itself, or for `newtxs` in place of a transaction -/
theorem round?_cases {h : Hub} {e r : Event} (hr : h.round? e = some r) :
    e.isValid = true ∧ e.isRequest = false ∧ h.registry ≠ [] ∧
      (r = e ∧ e.kind ≠ .newTx ∨ r = .newTxs ∧ ∃ tx, e = .newTx tx ∧ h.flushes tx = true) := by
  unfold round? at hr
  split_ifs at hr with hd
  simp only [Bool.or_eq_true, not_or, Bool.not_eq_true, Bool.not_eq_false', List.isEmpty_eq_false_iff]
    at hd
  obtain ⟨⟨he, hv⟩, hq⟩ := hd
  refine ⟨hv, hq, he, ?_⟩
  cases e with
  | newTx tx =>
    simp only at hr
    split_ifs at hr with hf
    cases hr
    exact Or.inr ⟨rfl, tx, rfl, hf⟩
  | _ =>
    cases hr
    exact Or.inl ⟨rfl, by simp [Event.kind]⟩

/-- what goes round can be in a client's channel -/
theorem isDeliverable_of_round? {h : Hub} {e r : Event} (hr : h.round? e = some r) :
    r.isDeliverable = true := by
  rcases round?_cases hr with ⟨hv, hq, -, ⟨rfl, hk⟩ | ⟨rfl, -⟩⟩
  · simp [Event.isDeliverable, hv, hq, hk]
  · decide

/-- what handling an event comes to: the round that it causes, and the hub after it -/
inductive Handling (h : Hub) : Event → Option Event → Hub → Prop
  /-- nobody is there -/
  | discarded {e : Event} (empty : h.registry = []) : Handling h e none h
  | dropped {e : Event} (nonempty : h.registry ≠ []) (bad : (!e.isValid || e.isRequest) = true) :
      Handling h e none h.dropEvent
  /-- a transaction that is only buffered -/
  | buffered {tx : Transaction} (nonempty : h.registry ≠ []) (valid : tx.isValid = true)
      (quiet : h.flushes tx = false) : Handling h (.newTx tx) none (h.announced tx)
  | flushed {tx : Transaction} (nonempty : h.registry ≠ []) (valid : tx.isValid = true)
      (due : h.flushes tx = true) : Handling h (.newTx tx) (some .newTxs) (h.announced tx).flush
  | signalled (nonempty : h.registry ≠ []) : Handling h .newTxs (some .newTxs) h.flush
  | broadcast {e : Event} (nonempty : h.registry ≠ []) (valid : e.isValid = true)
      (event : e.isRequest = false) (other : e.kind ≠ .newTx) (plain : e ≠ .newTxs) :
      Handling h e (some e) (h.broadcast e)

section

variable {h : Hub} (hr : h.registry.Nodup) (hc : h.connections = h.registry.length)
include hr

theorem handleTx_eq (tx : Transaction) :
    h.handleTx tx = if h.flushes tx then (h.announced tx).flush else h.announced tx := by
  have hd : h.ticker.reset.due = h.ticker.due := by
    unfold Ticker.reset
    split_ifs <;> rfl
  have hf : (h.registry.any fun id => (h.client? id).any (·.dueWith tx)) = h.fills tx := rfl
  simp only [handleTx, bufferForAll_eq h tx hr, hf, flushes, announced]
  by_cases hdue : h.fills tx = true
  · simp [hdue]
  · rw [modifyClients_eq h h.registry]
    simp [hdue]

theorem client?_announced (tx : Transaction) (id : ClientId) :
    (h.announced tx).client? id =
      if id ∈ h.registry then (h.client? id).map (·.buffered tx) else h.client? id :=
  client?_modifyClients h hr _ id

theorem refuses_announced (tx : Transaction) (e : Event) (id : ClientId) :
    (h.announced tx).refuses e id = h.refuses e id := by
  simp only [refuses, client?_announced hr tx id]
  split_ifs
  · cases h.client? id <;> simp
  · rfl

omit hr in
@[simp] theorem announced_frame (tx : Transaction) :
    (h.announced tx).registry = h.registry ∧ (h.announced tx).connections = h.connections ∧
    (h.announced tx).config = h.config ∧ (h.announced tx).phase = h.phase ∧
    (h.announced tx).shutdown = h.shutdown ∧ (h.announced tx).held = h.held ∧
    (h.announced tx).clients.length = h.clients.length ∧
    (h.announced tx).registrations = h.registrations ∧
    (h.announced tx).unregistrations = h.unregistrations ∧ (h.announced tx).relay = h.relay ∧
    (h.announced tx).producers = h.producers ∧ (h.announced tx).totals = h.totals := by
  simp [announced]

/-- **What handling an event comes to.** -/
theorem handling (e : Event) : Handling h e (h.round? e) (h.handle e) := by
  unfold round? handle
  by_cases he : h.registry = []
  · simpa [he] using Handling.discarded he
  · have hne : h.registry.isEmpty = false := by simpa using he
    by_cases hd : (!e.isValid || e.isRequest) = true
    · simpa [hne, hd] using Handling.dropped he hd
    · have hd' : e.isValid = true ∧ e.isRequest = false := by simpa using hd
      rw [if_neg (by simp [hne, hd'.1, hd'.2]), if_neg (by simp [hne]), if_neg hd]
      obtain ⟨hv, hq⟩ := hd'
      cases e with
      | newTx tx =>
        simp only [handleTx_eq hr tx]
        cases hf : h.flushes tx
        · simpa using Handling.buffered he hv hf
        · simpa using Handling.flushed he hv hf
      | newTxs => exact .signalled he
      | subscribe r => simp [Event.isRequest] at hq
      | unsubscribe r => simp [Event.isRequest] at hq
      | _ => exact .broadcast he hv hq (by simp [Event.kind]) (by simp)

include hc

/-- a registered client absorbs the event and takes part in the round that it causes; no one else is concerned -/
theorem client?_handle (e : Event) (id : ClientId) :
    (h.handle e).client? id =
      if id ∈ h.registry then (h.client? id).map fun c => (c.absorbed e).inRound (h.round? e)
      else h.client? id := by
  have hh := handling hr e
  generalize h.round? e = r, h.handle e = k at hh
  cases hh with
  | discarded he => simp [he]
  | dropped he hd =>
    have ha : ∀ c : Client, c.absorbed e = c := fun c => by
      cases e with
      | newTx tx =>
        have hv : tx.isValid = false := by simpa [Event.isValid, Event.isRequest] using hd
        simp [Client.absorbed, hv]
      | _ => rfl
    simp [dropEvent, client?, ha, Client.inRound]
  | @buffered tx he hv hf => simp [client?_announced hr, Client.absorbed, Client.inRound, hv]
  | @flushed tx he hv hf =>
    have hb := client?_broadcast (h := h.announced tx) (by simpa using hr) (by simpa using hc) .newTxs id
    show ((h.announced tx).broadcast .newTxs).client? id = _
    rw [hb, client?_announced hr]
    by_cases hid : id ∈ h.registry
    · simp [hid, Client.absorbed, Client.inRound, hv, Function.comp_def]
    · simp [hid]
  | signalled he =>
    show (h.broadcast .newTxs).client? id = _
    rw [client?_broadcast hr hc]
    rfl
  | broadcast he hv hq hk hs =>
    have ha : ∀ c : Client, c.absorbed e = c := fun c => by
      cases e with
      | newTx tx => simp [Event.kind] at hk
      | _ => rfl
    rw [client?_broadcast hr hc]
    simp [ha, Client.inRound]

/-- **The registry loses exactly the clients that refuse the round.** -/
theorem handle_registry (e : Event) :
    (h.handle e).registry = h.registry.filter fun id => !(h.round? e).any fun r => h.refuses r id := by
  have hh := handling hr e
  generalize h.round? e = r, h.handle e = k at hh
  cases hh with
  | discarded | dropped | buffered => simp [dropEvent]
  | @flushed tx he hv hf =>
    have hb := broadcast_registry (h := h.announced tx) (by simpa using hr) (by simpa using hc) .newTxs
    show ((h.announced tx).broadcast .newTxs).registry = _
    rw [hb]
    simp [refuses_announced hr]
  | signalled => simpa [flush] using broadcast_registry hr hc .newTxs
  | broadcast => simpa using broadcast_registry hr hc _

/-- handling an event touches nothing but clients, registry, ticker and figures -/
theorem handle_frame (e : Event) :
    (h.handle e).config = h.config ∧ (h.handle e).phase = h.phase ∧
    (h.handle e).shutdown = h.shutdown ∧ (h.handle e).held = h.held ∧
    (h.handle e).clients.length = h.clients.length ∧
    (h.handle e).connections = (h.handle e).registry.length ∧
    (h.handle e).registrations = h.registrations ∧
    (h.handle e).unregistrations = h.unregistrations ∧ (h.handle e).relay = h.relay ∧
    (h.handle e).producers = h.producers ∧
    (h.handle e).totals.events = h.totals.events + (h.round? e).toList.length := by
  have hh := handling hr e
  generalize h.round? e = r, h.handle e = k at hh
  cases hh with
  | discarded | dropped | buffered => simp [dropEvent, hc]
  | @flushed tx he hv hf =>
    simpa [flush] using broadcast_frame (h := h.announced tx) (by simpa using hr) (by simpa using hc) .newTxs
  | signalled => simpa [flush] using broadcast_frame hr hc .newTxs
  | broadcast => simpa using broadcast_frame hr hc _

end

end Hub

end ChainFeed
