/-
Transactions on their way from the hub to one client.

The hub puts a transaction into the buffers of the registered clients that take `newtxs`; the client's session
takes whole batches out whenever it is told to. `announcedTo` and `drainedFrom` note the two along a run, with
registrations, evictions, changes of subscriptions and flushes in between in any order.

- `waiting_handled`: an event adds at most itself, at the end, to the buffer of a registered client.
- `transactions_conserved`: what was drained, followed by what still waits, is what was announced.
-/
import ChainFeed.Proofs.Hub.Sound

namespace ChainFeed.Hub

/-- the transactions that wait in a client's buffer; nothing waits for an unknown client -/
def waiting (h : Hub) (id : ClientId) : List Transaction :=
  match h.client? id with
  | none => []
  | some c => c.buffer.txs

/-- whether the client has `newtxs` among its kinds -/
def takesTxs (h : Hub) (id : ClientId) : Bool :=
  (h.client? id).any (·.subscriptions.hasKind .newTxs)

/-- the valid transaction that the hub handles in an operation while the client is registered and takes
`newtxs` -/
def announcedTo (id : ClientId) (h : Hub) : Op → List Transaction
  | .turn _ =>
    match h.nextEvent? with
    | some (.newTx tx) => if tx.isValid = true ∧ id ∈ h.registry ∧ h.takesTxs id = true then [tx] else []
    | _ => []
  | _ => []

/-- the batch that an operation takes out of the client's buffer -/
def drainedFrom (id : ClientId) (h : Hub) : Op → List (List Transaction)
  | .drain j => if j = id then [(h.drainTxs j).1] else []
  | _ => []

/-! ## Buffers at one operation -/

theorem waiting_congr {h k : Hub} {id : ClientId}
    (hb : (k.client? id).map (·.buffer) = (h.client? id).map (·.buffer)) : k.waiting id = h.waiting id := by
  unfold waiting
  cases hk : k.client? id <;> cases hh : h.client? id <;> simp [hk, hh] at hb ⊢
  rw [hb]

theorem waiting_modifyClient (h : Hub) (j id : ClientId) {f : Client → Client}
    (hf : ∀ c, (f c).buffer = c.buffer) : (h.modifyClient j f).waiting id = h.waiting id :=
  waiting_congr (view_modifyClient (·.buffer) h j hf id)

theorem waiting_drainTxs (h : Hub) (j id : ClientId) :
    (if j = id then (h.drainTxs j).1 else []) ++ (h.drainTxs j).2.waiting id = h.waiting id := by
  unfold drainTxs
  cases hc : h.client? j with
  | none => simp
  | some c =>
    by_cases hj : j = id
    · subst hj
      simp [waiting, client?_modifyClient, hc, TxBuffer.drain]
    · simp [waiting, client?_modifyClient, hj, Ne.symm hj]

/-- only draining takes transactions out of a buffer from outside, and nothing from outside puts them in -/
theorem waiting_effect {h k : Hub} {op : Op} (he : Effect h op k) (hd : ∀ j, op ≠ .drain j) (id : ClientId) :
    k.waiting id = h.waiting id := by
  cases he with
  | calm hk => simp [waiting, hk.client?]
  | entered hc =>
    have hnew := (client_create_ok hc).2.2.2.1
    unfold waiting
    rw [client?_entered]
    split_ifs with hi
    · have hnone : h.client? id = none := client?_eq_none_of_lt h (by rw [hi]; exact Nat.lt_succ_self _)
      simp [hnone, hnew]
    · rfl
  | unregistered => rfl
  | subscribed => exact waiting_modifyClient h _ id fun _ => rfl
  | taken => exact waiting_modifyClient h _ id fun _ => rfl
  | hungUp => exact waiting_modifyClient h _ id fun _ => rfl
  | drained => exact absurd rfl (hd _)

/-- **What an event adds to a buffer.** A valid transaction goes to the end of the buffer of every registered
client that takes `newtxs`; no other event changes a buffer, whether or not it starts a round. -/
theorem waiting_handled {h k : Hub} {e : Event} (hk : Handled h e k) (id : ClientId) :
    k.waiting id = h.waiting id ++
      match e with
      | .newTx tx => if tx.isValid = true ∧ id ∈ h.registry ∧ h.takesTxs id = true then [tx] else []
      | _ => [] := by
  unfold waiting takesTxs
  rw [hk.client?]
  cases hid : h.client? id with
  | none => cases e <;> simp
  | some c =>
    by_cases hm : id ∈ h.registry
    · cases e with
      | newTx tx =>
        by_cases hv : tx.isValid = true
        · by_cases hk : c.subscriptions.hasKind .newTxs = true
          · simp [hm, hv, hk, Client.absorbed, Client.buffered, TxBuffer.append]
          · simp [hm, hv, hk, Client.absorbed, Client.buffered]
        · simp [hm, hv, Client.absorbed]
      | _ => simp [hm, Client.absorbed]
    · cases e <;> simp [hm]

theorem waiting_turn {h : Hub} (hs : Sound h) (id : ClientId) (now : Nat) :
    (h.apply (.turn now)).waiting id = h.waiting id ++ announcedTo id h (.turn now) := by
  cases hn : h.nextEvent? with
  | none =>
    simp only [announcedTo, hn, List.append_nil]
    exact waiting_congr (turn_quiet (·.buffer) (fun _ => rfl) hn now id)
  | some e =>
    simp only [announcedTo, hn, waiting_handled (turn_handled hs.registry_nodup hs.count hn now) id]
    cases e <;> rfl

/-- one operation balances what is announced, what is drained and what waits -/
theorem waiting_apply {h : Hub} (hs : Sound h) (op : Op) (id : ClientId) :
    h.waiting id ++ announcedTo id h op = (drainedFrom id h op).flatten ++ (h.apply op).waiting id := by
  cases op with
  | turn now => exact (waiting_turn hs id now).symm
  | drain j =>
    have hd := waiting_drainTxs h j id
    simp only [announcedTo, List.append_nil, drainedFrom, apply]
    rw [← hd]
    split_ifs <;> simp
  | _ => simpa [announcedTo, drainedFrom] using (waiting_effect (effect h rfl) (by simp) id).symm

/-! ## A run -/

/-- **No transaction is lost, duplicated or reordered between the hub and a client.** In every run from a new
hub, whatever is done to it in whatever order, the batches that were taken out of a client's buffer, one after the
other, followed by what is in the buffer, are the valid transactions that the hub handled while the client was
registered and took `newtxs`. -/
theorem transactions_conserved {config : HubConfig} {h : Hub} (hh : Hub.create config = .ok h)
    (ops : List Op) (id : ClientId) :
    (h.record (drainedFrom id) ops).flatten ++ (h.run ops).waiting id = h.record (announcedTo id) ops := by
  have hw : h.waiting id = [] := by simp [waiting, client?, (create_ok hh).1]
  have hrun := Trace.record_conserved (P := Sound) (waiting · id) (announcedTo id)
    (fun h op => (drainedFrom id h op).flatten)
    (fun _ op hk => sound_apply hk op) (fun _ op hk => waiting_apply hk op id) (sound_create hh) ops
  rw [hw, List.nil_append] at hrun
  rw [record, Trace.flatten_record]
  exact hrun.symm

/-- two transactions are announced, and the first is drained before the second comes -/
theorem transactions_conserved_two :
    ∃ h a b, Hub.create {} = .ok h ∧ ∃ ops, h.record (announcedTo 1) ops = [a, b] ∧
      h.record (drainedFrom 1) ops = [[a]] ∧ (h.run ops).waiting 1 = [b] ∧
      (h.record (drainedFrom 1) ops).flatten ++ (h.run ops).waiting 1 = h.record (announcedTo 1) ops := by
  refine ⟨_, { hash := "a" }, { hash := "b" }, rfl, [.register, .turn 0, .turn 0,
    .subscribe 1 ⟨.newTxs, none⟩, .publish [.newTx { hash := "a" }, .newTx { hash := "b" }], .produce 0 0,
    .turn 0, .drain 1, .produce 0 0, .turn 0], ?_, ?_, ?_, ?_⟩
  · rfl
  · rfl
  · rfl
  · exact transactions_conserved (show Hub.create {} = .ok _ from rfl) _ 1

end ChainFeed.Hub
