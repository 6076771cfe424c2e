/-
Flush signals and the transactions that they announce.

A buffer that is due makes the hub put a `newtxs` event, a flush signal, into the client's channel; a client that
cannot take it is put out. So the transactions that wait beyond the size of a buffer are paid for by signals in the
channel, and these by places of the channel.

- `Sized`: channels and buffers have the sizes of the configuration, and no channel holds more than it has places.
- `signals_turn`: a registered client whose buffer is due after a transaction was added gets a signal.
- `isCovered_apply`: every operation but taking an event keeps the transactions of a client covered by its signals.
-/
import ChainFeed.Proofs.Hub.Membership
import ChainFeed.Proofs.Hub.Transactions

namespace ChainFeed

/-! ## Sizes -/

/-- a client has the sizes of the configuration, and no more events than places for them -/
structure Client.Sized (config : HubConfig) (c : Client) : Prop where
  channel : c.channel.capacity = max config.clientQueue 1
  buffer : c.buffer.capacity = max config.txBuffer 1
  fits : c.channel.queue.length ≤ c.channel.capacity

theorem Client.sized_create {config : HubConfig} {c : Client} (hc : Client.create config = .ok c) :
    c.Sized config := by
  unfold Client.create Channel.create queuePlaces TxBuffer.create at hc
  simp only [bind, Except.bind] at hc
  split_ifs at hc <;> cases hc
  exact ⟨by simp, rfl, Nat.zero_le _⟩

/-- a change that leaves the sizes alone and adds no event -/
theorem Client.Sized.of_le {config : HubConfig} {c d : Client} (hc : c.Sized config)
    (hch : d.channel.capacity = c.channel.capacity) (hb : d.buffer.capacity = c.buffer.capacity)
    (hq : d.channel.queue.length ≤ c.channel.queue.length) : d.Sized config :=
  ⟨hch.trans hc.channel, hb.trans hc.buffer, hch ▸ Nat.le_trans hq hc.fits⟩

/-- a round adds an event only where there is a place for it -/
theorem Client.Sized.inRound {config : HubConfig} {c : Client} (hc : c.Sized config) (r : Option Event) :
    (c.inRound r).Sized config := by
  obtain ⟨-, hbuffer, hcapacity, -⟩ := Client.inRound_frame c r
  refine ⟨hcapacity.trans hc.channel, by rw [hbuffer, hc.buffer], ?_⟩
  rw [hcapacity, Client.inRound_queue, List.length_append]
  cases r with
  | none => simpa using hc.fits
  | some e =>
    cases hw : c.wants e with
    | false => simpa [hw] using hc.fits
    | true =>
      cases hr : c.refuses e with
      | true => simpa [hw, hr] using hc.fits
      | false =>
        have hroom : c.channel.queue.length < c.channel.capacity := by
          by_contra hfull
          have hrefuses : c.refuses e = true := Client.refuses_iff.2 ⟨hw, Or.inr (Nat.le_of_not_lt hfull)⟩
          simp [hr] at hrefuses
        simpa [hw, hr] using Nat.succ_le_of_lt hroom

theorem Client.Sized.absorbed {config : HubConfig} {c : Client} (hc : c.Sized config) (e : Event) :
    (c.absorbed e).Sized config := by
  refine hc.of_le (by simp) ?_ (by simp)
  cases e with
  | newTx tx =>
    simp only [Client.absorbed, Client.buffered]
    split_ifs <;> rfl
  | _ => rfl

namespace Hub

/-- every client has the sizes of the configuration -/
def Sized (h : Hub) : Prop :=
  ∀ id c, h.client? id = some c → c.Sized h.config

theorem config_apply {h : Hub} (hs : Sound h) (op : Op) : (h.apply op).config = h.config := by
  cases hop : op.isTurn with
  | false => exact (effect_frame (effect h hop)).1
  | true =>
    obtain ⟨now, rfl⟩ := Op.eq_turn hop
    have ht := turn h now
    generalize h.apply (.turn now) = k at ht
    cases ht with
    | closed => simp [drain_eq]
    | expelled =>
      unfold expel
      split_ifs <;> simp [endSending]
    | @handled e relay => exact (handle_frame (h := { h with relay }) hs.registry_nodup hs.count e).1
    | _ => rfl

theorem config_run {h : Hub} (hs : Sound h) (ops : List Op) : (h.run ops).config = h.config :=
  kept_run (P := fun k => k.config = h.config) (fun _ op hk hc => (config_apply hk op).trans hc) hs rfl ops

theorem sized_modifyClient {h : Hub} (hz : Sized h) (j : ClientId) {f : Client → Client}
    (hf : ∀ c, h.client? j = some c → (f c).channel.capacity = c.channel.capacity ∧
      (f c).buffer.capacity = c.buffer.capacity ∧ (f c).channel.queue.length ≤ c.channel.queue.length) :
    Sized (h.modifyClient j f) := by
  intro id d hd
  rw [client?_modifyClient] at hd
  rw [(modifyClient_frame h j f).1]
  split_ifs at hd with hi
  · subst hi
    obtain ⟨c, hc, rfl⟩ := Option.map_eq_some_iff.1 hd
    obtain ⟨hch, hb, hq⟩ := hf c hc
    exact (hz id c hc).of_le hch hb hq
  · exact hz id d hd

theorem sized_effect {h k : Hub} {op : Op} (hz : Sized h) (he : Effect h op k) : Sized k := by
  cases he with
  | calm hc =>
    intro id c hid
    rw [hc.config]
    exact hz id c (hc.client? id ▸ hid)
  | entered hc =>
    intro id d hd
    rw [client?_entered] at hd
    split_ifs at hd
    · cases hd
      exact Client.sized_create hc
    · exact hz id d hd
  | unregistered => exact hz
  | subscribed => exact sized_modifyClient hz _ fun _ _ => ⟨rfl, rfl, Nat.le_refl _⟩
  | taken hc hq =>
    refine sized_modifyClient hz _ fun d hd => ?_
    cases hc.symm.trans hd
    exact ⟨rfl, rfl, by simp [hq]⟩
  | hungUp => exact sized_modifyClient hz _ fun _ _ => ⟨rfl, rfl, Nat.le_refl _⟩
  | drained hc =>
    refine sized_modifyClient hz _ fun d hd => ?_
    cases hc.symm.trans hd
    exact ⟨rfl, rfl, Nat.le_refl _⟩

theorem sized_turn {h : Hub} (hs : Sound h) (hz : Sized h) (now : Nat) : Sized (h.apply (.turn now)) := by
  intro id d hd
  rw [config_apply hs]
  cases hn : h.nextEvent? with
  | none =>
    have hq := turn_quiet (fun c => (c.channel.capacity, c.buffer.capacity, c.channel.queue.length))
      (fun _ => rfl) hn now id
    rw [hd] at hq
    obtain ⟨c, hc, hview⟩ := Option.map_eq_some_iff.1 hq.symm
    simp only [Prod.mk.injEq] at hview
    obtain ⟨hch, hb, hl⟩ := hview
    exact (hz id c hc).of_le hch.symm hb.symm (Nat.le_of_eq hl.symm)
  | some e =>
    rw [(turn_handled hs.registry_nodup hs.count hn now).client?] at hd
    split_ifs at hd
    · obtain ⟨c, hc, rfl⟩ := Option.map_eq_some_iff.1 hd
      exact ((hz id c hc).absorbed e).inRound _
    · exact hz id d hd

theorem sized_apply {h : Hub} (hs : Sound h) (hz : Sized h) (op : Op) : Sized (h.apply op) := by
  cases hop : op.isTurn with
  | false => exact sized_effect hz (effect h hop)
  | true =>
    obtain ⟨now, rfl⟩ := Op.eq_turn hop
    exact sized_turn hs hz now

theorem sized_run {h : Hub} (hs : Sound h) (hz : Sized h) (ops : List Op) : Sized (h.run ops) :=
  kept_run (fun _ op hk hz => sized_apply hk hz op) hs hz ops

theorem sized_create {config : HubConfig} {h : Hub} (hh : Hub.create config = .ok h) : Sized h := by
  intro id c hid
  simp [client?, (create_ok hh).1] at hid

theorem queued_length_le {h : Hub} (hz : Sized h) (id : ClientId) :
    (h.queued id).length ≤ max h.config.clientQueue 1 := by
  unfold queued
  cases hc : h.client? id with
  | none => exact Nat.zero_le _
  | some c => exact (hz id c hc).channel ▸ (hz id c hc).fits

/-! ## Signals -/

/-- the flush signals in a client's channel -/
def signals (h : Hub) (id : ClientId) : Nat :=
  (h.queued id).count .newTxs

theorem signals_le {h : Hub} (hz : Sized h) (id : ClientId) : h.signals id ≤ max h.config.clientQueue 1 :=
  Nat.le_trans List.count_le_length (queued_length_le hz id)

/-- the hub's turn only adds signals -/
theorem signals_le_turn {h : Hub} (hs : Sound h) (id : ClientId) (now : Nat) :
    h.signals id ≤ (h.apply (.turn now)).signals id := by
  rw [signals, signals, queued_turn hs]
  exact (List.sublist_append_left _ _).count_le _

section

variable {h : Hub} {tx : Transaction} {id : ClientId} {now : Nat}

/-- a transaction that makes the buffer of a registered client due starts a round -/
theorem roundOf?_of_due (now : Nat) {c : Client} (hn : h.nextEvent? = some (.newTx tx)) (hv : tx.isValid = true)
    (hin : id ∈ h.registry) (hc : h.client? id = some c) (hd : c.dueWith tx = true) :
    h.roundOf? (.turn now) = some .newTxs := by
  have hne : h.registry ≠ [] := List.ne_nil_of_mem hin
  have hfills : h.fills tx = true := List.any_eq_true.2 ⟨id, hin, by simpa [hc] using hd⟩
  simp [roundOf?, hn, round?, hne, hv, flushes, hfills, Event.isValid, Event.isRequest]

/-- **A buffer that is due is announced.** A registered client that takes `newtxs`, whose buffer is due with the
transaction and which is registered afterwards, has one more signal in its channel. -/
theorem signals_turn (now : Nat) {c : Client} (hs : Sound h) (hn : h.nextEvent? = some (.newTx tx))
    (hv : tx.isValid = true)
    (hin : id ∈ h.registry) (hc : h.client? id = some c) (hd : c.dueWith tx = true)
    (hstays : id ∈ (h.apply (.turn now)).registry) : (h.apply (.turn now)).signals id = h.signals id + 1 := by
  have hround := roundOf?_of_due now hn hv hin hc hd
  have hkind : c.subscriptions.hasKind .newTxs = true := by
    simp only [Client.dueWith, Bool.and_eq_true] at hd
    exact hd.1
  have hconcerns : h.concerns id .newTxs = true := by
    rw [concerns, hc, Option.any_some]
    exact hkind
  have hfree : h.isBlocked id = false := by
    by_contra hb
    rw [Bool.not_eq_false] at hb
    exact ((registry_round hs hround id).1 hstays).2 ⟨hconcerns, hb⟩
  have hput : accepted id h (.turn now) = [.newTxs] := by
    simp [accepted, matched, hround, hin, hconcerns, hfree]
  rw [signals, signals, queued_turn hs, hput, List.count_append]
  rfl

/-! ## Transactions are covered by signals -/

/-- while the client is in or on its way in, its waiting transactions beyond its buffer's size are no more than the
signals in its channel and `spent` others -/
def isCovered (h : Hub) (id : ClientId) (spent : Nat) : Prop :=
  h.isMember id → (h.waiting id).length < max h.config.txBuffer 1 + h.signals id + spent

theorem isCovered_of_waiting_eq_nil {spent : Nat} (hw : h.waiting id = []) : h.isCovered id spent := by
  intro _
  rw [hw, List.length_nil]
  omega

/-- a transaction is added to a buffer that stays below its size, or together with a signal -/
theorem isCovered_turn {spent : Nat} (hs : Sound h) (hz : Sized h) (hcov : h.isCovered id spent) :
    (h.apply (.turn now)).isCovered id spent := by
  intro hm
  have hbefore : h.isMember id := isMember_of_turn hs (turn h now) hm
  have hmore := signals_le_turn hs id now
  have hold := hcov hbefore
  rw [config_apply hs, waiting_turn hs]
  by_cases ha : announcedTo id h (.turn now) = []
  · rw [ha, List.append_nil]
    omega
  · obtain ⟨tx, hn, hv, hin, htakes⟩ : ∃ tx, h.nextEvent? = some (.newTx tx) ∧ tx.isValid = true ∧
        id ∈ h.registry ∧ h.takesTxs id = true := by
      simp only [announcedTo] at ha
      split at ha
      · rename_i tx hn
        split_ifs at ha with hall
        · exact ⟨tx, hn, hall⟩
        · exact absurd rfl ha
      · exact absurd rfl ha
    have hannounced : announcedTo id h (.turn now) = [tx] := by simp [announcedTo, hn, hv, hin, htakes]
    obtain ⟨c, hc, hkind⟩ := (Option.any_eq_true _ _).1 htakes
    have hwaiting : h.waiting id = c.buffer.txs := by simp [waiting, hc]
    have hsize := (hz id c hc).buffer
    rw [hannounced, List.length_append, List.length_singleton]
    cases hd : c.dueWith tx with
    | false =>
      have hbelow : c.buffer.txs.length + 1 < c.buffer.capacity := by
        simpa [Client.dueWith, hkind, TxBuffer.isDue, TxBuffer.append] using hd
      rw [hwaiting]
      omega
    | true =>
      have hk := turn_handled hs.registry_nodup hs.count hn now
      have hstays : id ∈ (h.apply (.turn now)).registry := by
        refine hm.resolve_right fun hr => ?_
        rw [hk.registrations] at hr
        exact (List.nodup_append.1 hs.nodup).2.2 id hin id hr rfl
      have hsignal := signals_turn now hs hn hv hin hc hd hstays
      omega

/-- **Every operation but taking an event keeps the transactions of a client covered.** -/
theorem isCovered_apply {spent : Nat} {op : Op} (hs : Sound h) (hz : Sized h) (hop : op ≠ .take id)
    (hcov : h.isCovered id spent) : (h.apply op).isCovered id spent := by
  cases ht : op.isTurn with
  | true =>
    obtain ⟨now, rfl⟩ := Op.eq_turn ht
    exact isCovered_turn hs hz hcov
  | false =>
    intro hm
    rcases isMember_of_apply hs hm with hbefore | ⟨rfl, rfl⟩
    · have hold := hcov hbefore
      have hq : (h.apply op).queued id = h.queued id := by
        have hqueued := queued_apply hs op id
        have haccepted : accepted id h op = [] := by cases op <;> first | rfl | cases ht
        have htaken : taken id h op = [] := by
          cases op with
          | take j => exact if_neg fun hj => hop (congrArg Op.take hj)
          | _ => rfl
        rw [haccepted, htaken, List.append_nil, List.nil_append] at hqueued
        exact hqueued.symm
      have hw : ((h.apply op).waiting id).length ≤ (h.waiting id).length := by
        have hbalance := congrArg List.length (waiting_apply hs op id)
        have hannounced : announcedTo id h op = [] := by cases op <;> first | rfl | cases ht
        rw [hannounced, List.append_nil, List.length_append] at hbalance
        omega
      rw [config_apply hs, signals, hq]
      exact Nat.lt_of_le_of_lt hw hold
    · -- a client that has just come has nothing waiting
      have hnone : h.waiting (h.clients.length + 1) = [] := by
        rw [waiting, client?_eq_none_of_lt h (Nat.lt_succ_self _)]
      rw [waiting_effect (effect h ht) (by simp), hnone, List.length_nil]
      omega

theorem isCovered_run {spent : Nat} (hs : Sound h) (hz : Sized h) {ops : List Op} (hops : ∀ op ∈ ops, op ≠ .take id)
    (hcov : h.isCovered id spent) : (h.run ops).isCovered id spent := by
  induction ops generalizing h with
  | nil => exact hcov
  | cons op ops ih =>
    obtain ⟨hop, hops⟩ := List.forall_mem_cons.1 hops
    exact ih (sound_apply hs op) (sized_apply hs hz op) hops (isCovered_apply hs hz hop hcov)

/-- an event that is taken spends a signal at most -/
theorem isCovered_take {spent : Nat} {e : Event} {rest : List Event} (hs : Sound h) (hcov : h.isCovered id spent)
    (hq : h.queued id = e :: rest) :
    (h.apply (.take id)).isCovered id (spent + if e = .newTxs then 1 else 0) := by
  intro hm
  have hold := hcov ((isMember_of_apply hs hm).resolve_right fun hr => by cases hr.1)
  have hrest : (h.apply (.take id)).queued id = rest := by
    have htake := queued_take h id id
    rw [taken, if_pos rfl, hq] at htake
    exact List.cons.inj htake |>.2
  have hcount : h.signals id = (h.apply (.take id)).signals id + if e = .newTxs then 1 else 0 := by
    rw [signals, signals, hrest, hq, List.count_cons]
    simp
  rw [config_apply hs, waiting_effect (effect h rfl) (by simp)]
  omega

end

end Hub

end ChainFeed
