/-
Transactions that wait for the client of a session, and the flush signals that its send pump takes.

A signal that the pump takes while the client takes `newtxs` empties the buffer. One that it takes while the client
does not is thrown away, and the buffer stays as it is: `discarded` notes these.

- `isCovered_move`: a move spends a signal without emptying the buffer only where it discards it.
- `waiting_bounded`: since the buffer was last empty, no more transactions wait than the configuration allows, one
  for every discarded signal apart.
- `waiting_exceeds`: with a discarded signal more do wait.
- `due_signalled`: while the client takes `newtxs`, a buffer that is due has a signal in the channel.
-/
import ChainFeed.Proofs.Hub.Signals
import ChainFeed.Proofs.World.Moves

namespace ChainFeed

/-- how a session's move takes events: none of the client's, or the oldest, and a signal that the client still wants
empties its buffer -/
theorem Session.did_takes {s s' : Session} {h : Hub} {ops : List Hub.Op} (hd : s.Did h ops s') (id : ClientId) :
    (∀ op ∈ ops, op ≠ .take id) ∨
      ∃ c e rest drains, h.client? id = some c ∧ c.channel.queue = e :: rest ∧ ops = .take id :: drains ∧
        (drains = [] ∨ drains = [.drain id]) ∧ (e = .newTxs → c.wants e = true → drains = [.drain id]) := by
  cases hd with
  | @said j _ _ _ _ _ _ _ _ hsaid =>
    cases hsaid with
    | @took c e rest drains _ client queue hdrains _ emptied =>
      by_cases hj : j = id
      · subst hj
        exact Or.inr ⟨c, e, rest, drains, client, queue, rfl, hdrains, emptied⟩
      · left
        rcases hdrains with rfl | rfl <;> simp [hj]
    | _ => exact Or.inl (by simp)
  | @parted j _ _ ending =>
    left
    simp only [Session.partingOps]
    cases ending.needsUnregister <;> simp
  | _ => exact Or.inl (by simp)

namespace World

/-- what leaves a client's channel in a move -/
def received (id : ClientId) (w : World) (m : Move) : List Event :=
  (w.hub.queued id).take ((w.hub.queued id).length - ((w.move m).hub.queued id).length)

/-- the flush signals that leave the channel while the client does not take `newtxs` -/
def discarded (id : ClientId) (w : World) (m : Move) : List Event :=
  if w.hub.takesTxs id then [] else (received id w m).filter (· = .newTxs)

/-! ## One move -/

theorem sized_move {w : World} (hw : Wired w) (hz : w.hub.Sized) (m : Move) : (w.move m).hub.Sized := by
  obtain ⟨ops, hops⟩ := hub_move w m
  exact hops ▸ Hub.sized_run hw.sound hz ops

section

variable {w : World} {m : Move} {id : ClientId} {spent : Nat}

/-- the client's session takes an event -/
theorem isCovered_taken {c : Client} {e : Event} {rest : List Event} {drains : List Hub.Op} (hw : Wired w)
    (hcov : w.hub.isCovered id spent) (hc : w.hub.client? id = some c)
    (hq : c.channel.queue = e :: rest) (hdrains : drains = [] ∨ drains = [.drain id])
    (hemptied : e = .newTxs → c.wants e = true → drains = [.drain id])
    (hub : (w.move m).hub = w.hub.run (.take id :: drains)) :
    (w.move m).hub.isCovered id (spent + (discarded id w m).length) := by
  have hqueued : w.hub.queued id = e :: rest := by simp [Hub.queued, hc, hq]
  have hafter : (w.move m).hub = (w.hub.apply (.take id)).run drains := hub
  by_cases hempties : drains = [.drain id]
  · -- a buffer that was emptied is covered by nothing
    refine Hub.isCovered_of_waiting_eq_nil ?_
    have hdrain := Hub.waiting_drainTxs (w.hub.apply (.take id)) id id
    rw [hafter, hempties]
    show ((w.hub.apply (.take id)).drainTxs id).2.waiting id = []
    unfold Hub.drainTxs
    split
    · simp [Hub.waiting, *]
    · simp [Hub.waiting, Hub.client?_modifyClient, TxBuffer.drain, *]
  · obtain rfl : drains = [] := hdrains.resolve_right hempties
    have htake := Hub.isCovered_take hw.sound hcov hqueued
    rw [hafter, Hub.run_nil]
    by_cases he : e = .newTxs
    · -- the pump threw the signal away
      have hwants : c.wants e = false := by
        by_contra hx
        exact hempties (hemptied he (by simpa using hx))
      have htakes : w.hub.takesTxs id = false := by
        rw [Hub.takesTxs, hc, Option.any_some]
        simpa [he, Client.wants, Subscriptions.isSubscribed, Event.kind] using hwants
      have hleft : (w.move m).hub.queued id = rest := by
        rw [hafter, Hub.run_nil]
        have hsplit := Hub.queued_take w.hub id id
        rw [Hub.taken, if_pos rfl, hqueued] at hsplit
        exact (List.cons.inj hsplit).2
      have hone : discarded id w m = [e] := by
        simp [discarded, htakes, received, hqueued, hleft, he]
      rw [hone, List.length_singleton]
      simpa [he] using htake
    · rw [if_neg he] at htake
      exact fun hm => Nat.lt_of_lt_of_le (htake hm) (by omega)

/-- **A move keeps the transactions of a client covered**, with what it discards added to what is spent. -/
theorem isCovered_move (hw : Wired w) (hz : w.hub.Sized) (hcov : w.hub.isCovered id spent) (m : Move) :
    (w.move m).hub.isCovered id (spent + (discarded id w m).length) := by
  have hmore : ∀ {k : Hub}, k.isCovered id spent → k.isCovered id (spent + (discarded id w m).length) :=
    fun hk hm => Nat.lt_of_lt_of_le (hk hm) (by omega)
  cases moved w m with
  | nothing hub => exact hub ▸ hmore hcov
  | outside _ _ hub => exact hub ▸ hmore hcov
  | connected _ _ hub => exact hub ▸ hmore hcov
  | hub plain hub =>
    rw [hub]
    refine hmore (Hub.isCovered_apply hw.sound hz ?_ hcov)
    rintro rfl
    cases plain.1
  | session place did hub =>
    rcases Session.did_takes did id with hops | ⟨c, e, rest, drains, hc, hq, rfl, hdrains, hemptied⟩
    · rw [hub]
      exact hmore (Hub.isCovered_run hw.sound hz hops hcov)
    · exact isCovered_taken hw hcov hc hq hdrains hemptied hub

end

/-! ## Every run -/

theorem isCovered_run {w : World} (hw : Wired w) (hz : w.hub.Sized) {id : ClientId} {spent : Nat}
    (hcov : w.hub.isCovered id spent) (moves : List Move) :
    (w.run moves).hub.isCovered id (spent + (w.record (discarded id) moves).length) := by
  induction moves using List.reverseRecOn with
  | nil => exact hcov
  | append_singleton moves m ih =>
    have hz' : (w.run moves).hub.Sized := kept_run (fun _ m hw hz => sized_move hw hz m) hw hz moves
    rw [run_concat, record_concat, List.length_append, ← Nat.add_assoc]
    exact isCovered_move (wired_run hw moves) hz' ih m

section

variable {config : HubConfig} {source : Source} {runs : Bool} {w₀ : World}

theorem config_run (hw : World.create config source runs = .ok w₀) (moves : List Move) :
    (w₀.run moves).hub.config = config := by
  have hstep : ∀ w m, Wired w → w.hub.config = config → (w.move m).hub.config = config := by
    intro w m hw hc
    obtain ⟨ops, hops⟩ := hub_move w m
    rw [hops, Hub.config_run hw.sound, hc]
  obtain ⟨-, -, -, -, -, -, -, hconfig⟩ := Hub.create_ok (create_ok hw).1
  exact kept_run hstep (wired_create hw) hconfig moves

theorem sized_run (hw : World.create config source runs = .ok w₀) (moves : List Move) : (w₀.run moves).hub.Sized :=
  kept_run (fun _ m hw hz => sized_move hw hz m) (wired_create hw) (Hub.sized_create (create_ok hw).1) moves

variable {a b : List Move} {id : ClientId}

/-- since a client's buffer was empty, its transactions are covered by its signals and by those that were thrown
away -/
theorem isCovered_since (hw : World.create config source runs = .ok w₀)
    (hempty : (w₀.run a).hub.waiting id = []) :
    (w₀.run (a ++ b)).hub.isCovered id ((w₀.run a).record (discarded id) b).length := by
  have hstart : (w₀.run a).hub.isCovered id 0 := Hub.isCovered_of_waiting_eq_nil hempty
  have hrun := isCovered_run (wired_run (wired_create hw) a) (sized_run hw a) hstart b
  rw [Nat.zero_add] at hrun
  rw [run_append]
  exact hrun

/-- **How many transactions wait.** Since the buffer of a registered client was last empty, no more than the sizes of
its buffer and of its channel allow, and one for each signal that its session threw away because the client did not
take `newtxs` at that moment. -/
theorem waiting_bounded (hw : World.create config source runs = .ok w₀)
    (hempty : (w₀.run a).hub.waiting id = []) (hin : id ∈ (w₀.run (a ++ b)).hub.registry) :
    ((w₀.run (a ++ b)).hub.waiting id).length ≤
      max config.txBuffer 1 - 1 + max config.clientQueue 1 +
        ((w₀.run a).record (discarded id) b).length := by
  have hcov := isCovered_since (b := b) hw hempty (Or.inl hin)
  have hsignals := Hub.signals_le (sized_run hw (a ++ b)) id
  rw [config_run hw] at hcov hsignals
  omega

/-- the bound is reached: of two transactions for a buffer of two, the second comes with a signal that fills the
channel -/
theorem waiting_bounded_two :
    ∃ w₀, World.create { clientQueue := 1, txBuffer := 2 } .idle true = .ok w₀ ∧ ∃ a b,
      (w₀.run a).hub.waiting 1 = [] ∧ 1 ∈ (w₀.run (a ++ b)).hub.registry ∧
      (w₀.run a).record (discarded 1) b = [] ∧ ((w₀.run (a ++ b)).hub.waiting 1).length = 2 ∧
      ((w₀.run (a ++ b)).hub.waiting 1).length ≤
        max 2 1 - 1 + max 1 1 + ((w₀.run a).record (discarded 1) b).length := by
  refine ⟨_, rfl, [.ask (.connect {}), .act .hub, .act (.connect 0), .act .hub,
    .ask (.feed 0 (.text "\x7b\"event_id\":\"subscribe\",\"message\":\"newtxs\"\x7d")), .act (.receive 0)],
    [.ask (.publishAll [.newTx { hash := "a" }, .newTx { hash := "b" }]), .act (.producer 0), .act (.producer 0),
    .act .hub, .act .hub], ?_, ?_, ?_, ?_, ?_⟩
  · rfl
  · exact List.mem_singleton.2 rfl
  · rfl
  · rfl
  · exact waiting_bounded (show World.create { clientQueue := 1, txBuffer := 2 } .idle true = .ok _ from rfl) rfl
      (List.mem_singleton.2 rfl)

/-- **The sizes alone do not bound what waits.** A client that withdraws `newtxs` while a signal is in its channel,
and subscribes again after its session threw the signal away, keeps the transaction that the signal announced, and
still has a place for the next signal. -/
theorem waiting_exceeds :
    ∃ w₀, World.create { clientQueue := 1, txBuffer := 1 } .idle true = .ok w₀ ∧ ∃ moves s,
      1 ∈ (w₀.run moves).hub.registry ∧ (w₀.run moves).sessions[0]? = some s ∧ s.client? = some 1 ∧
      ¬((w₀.run moves).hub.waiting 1).length ≤ max 1 1 - 1 + max 1 1 := by
  refine ⟨_, rfl, [.ask (.connect {}), .act .hub, .act (.connect 0), .act .hub,
    .ask (.feed 0 (.text "\x7b\"event_id\":\"subscribe\",\"message\":\"newtxs\"\x7d")), .act (.receive 0),
    .act (.receive 0), .ask (.publishAll [.newTx { hash := "a" }]), .act (.producer 0), .act .hub,
    .ask (.feed 0 (.text "\x7b\"event_id\":\"unsubscribe\",\"message\":\"newtxs\"\x7d")), .act (.receive 0),
    .act (.send 0), .act (.receive 0),
    .ask (.feed 0 (.text "\x7b\"event_id\":\"subscribe\",\"message\":\"newtxs\"\x7d")), .act (.receive 0),
    .ask (.publishAll [.newTx { hash := "b" }]), .act (.producer 1), .act .hub], _, ?_, rfl, ?_, ?_⟩
  · exact List.mem_singleton.2 rfl
  · rfl
  · exact Nat.not_le.2 (Nat.lt_succ_self 1)

/-! ## Signals that are not lost -/

/-- nothing is thrown away while the client takes `newtxs` -/
theorem record_discarded_eq_nil {w : World} {id : ClientId} {moves : List Move}
    (hkept : ∀ n, (w.run (moves.take n)).hub.takesTxs id = true) : w.record (discarded id) moves = [] := by
  induction moves generalizing w with
  | nil => rfl
  | cons m moves ih =>
    have hnow : discarded id w m = [] := if_pos (hkept 0)
    have hrest : (w.move m).record (discarded id) moves = [] := ih fun n => hkept (n + 1)
    exact List.append_eq_nil_iff.2 ⟨hnow, hrest⟩

/-- **No signal is lost.** As long as a registered client has taken `newtxs` at every moment since its buffer was last
empty, a buffer that is due has a signal in the channel; so fewer transactions than make it due are left when the
channel is empty. -/
theorem due_signalled (hw : World.create config source runs = .ok w₀) (hempty : (w₀.run a).hub.waiting id = [])
    (hkept : ∀ n, (w₀.run (a ++ b.take n)).hub.takesTxs id = true)
    (hin : id ∈ (w₀.run (a ++ b)).hub.registry) :
    (max config.txBuffer 1 ≤ ((w₀.run (a ++ b)).hub.waiting id).length →
        .newTxs ∈ (w₀.run (a ++ b)).hub.queued id) ∧
      ((w₀.run (a ++ b)).hub.queued id = [] →
        ((w₀.run (a ++ b)).hub.waiting id).length < max config.txBuffer 1) := by
  have hnothing : (w₀.run a).record (discarded id) b = [] :=
    record_discarded_eq_nil fun n => run_append w₀ a (b.take n) ▸ hkept n
  have hcov := isCovered_since (b := b) hw hempty (Or.inl hin)
  rw [config_run hw, hnothing, List.length_nil, Nat.add_zero] at hcov
  refine ⟨fun hdue => ?_, fun hnone => ?_⟩
  · have hsome : 0 < (w₀.run (a ++ b)).hub.signals id := by omega
    exact List.count_pos_iff.1 hsome
  · have hno : (w₀.run (a ++ b)).hub.signals id = 0 := by rw [Hub.signals, hnone, List.count_nil]
    omega

/-- the pump takes the signal of the first transaction and empties the buffer; the second transaction comes with a
signal of its own -/
theorem due_signalled_two :
    ∃ w₀, World.create { txBuffer := 1 } .idle true = .ok w₀ ∧ ∃ a b,
      (w₀.run a).hub.waiting 1 = [] ∧ 1 ∈ (w₀.run (a ++ b)).hub.registry ∧
      ((w₀.run (a ++ b)).hub.waiting 1).length = 1 ∧ (w₀.run (a ++ b)).hub.queued 1 = [.newTxs] ∧
      ((max 1 1 ≤ ((w₀.run (a ++ b)).hub.waiting 1).length → .newTxs ∈ (w₀.run (a ++ b)).hub.queued 1) ∧
        ((w₀.run (a ++ b)).hub.queued 1 = [] → ((w₀.run (a ++ b)).hub.waiting 1).length < max 1 1)) := by
  refine ⟨_, rfl, [.ask (.connect {}), .act .hub, .act (.connect 0), .act .hub,
    .ask (.feed 0 (.text "\x7b\"event_id\":\"subscribe\",\"message\":\"newtxs\"\x7d")), .act (.receive 0)],
    [.ask (.publishAll [.newTx { hash := "a" }, .newTx { hash := "b" }]), .act (.producer 0), .act (.producer 0),
    .act .hub, .act (.send 0), .act .hub], ?_, ?_, ?_, ?_, ?_⟩
  · rfl
  · exact List.mem_singleton.2 rfl
  · rfl
  · rfl
  · refine due_signalled (show World.create { txBuffer := 1 } .idle true = .ok _ from rfl) rfl (fun n => ?_)
      (List.mem_singleton.2 rfl)
    rcases n with _ | _ | _ | _ | _ | _ | _ | n <;> rfl

end

end World

end ChainFeed
