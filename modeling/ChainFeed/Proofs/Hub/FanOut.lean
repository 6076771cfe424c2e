/-
Rounds of delivery: who gets an event, in which order, and who is put out.

Along a run, `matched` notes the rounds that are for a client, `put` what comes into its channel, `taken` what the
client takes out, and `evicting` the round that puts the client out. Main statements:
- `queued_apply`: one operation takes from the front of a channel and puts the round, if any, at its end.
- `registry_round`: a round puts out those that it is for and whose channels are full or closed.
- `fan_out`: over a whole run each client gets the rounds that are for it, in order and once each, up to the one
  that puts it out; what the others do, and the order in which the registry is gone over, does not matter.
-/
import ChainFeed.Proofs.Hub.Order

namespace ChainFeed.Hub

/-- the events in a client's channel, oldest first -/
def queued (h : Hub) (id : ClientId) : List Event :=
  match h.client? id with
  | none => []
  | some c => c.channel.queue

/-- whether the client is subscribed to the target of an event -/
def concerns (h : Hub) (id : ClientId) (e : Event) : Bool :=
  (h.client? id).any (·.subscriptions.has e.target)

/-- whether the client's channel is full or closed -/
def isBlocked (h : Hub) (id : ClientId) : Bool :=
  (h.client? id).any fun c => !c.channel.receiving || decide (c.channel.capacity ≤ c.channel.queue.length)

/-- the round that an operation makes, if any -/
def roundOf? (h : Hub) : Op → Option Event
  | .turn _ => h.nextEvent?.bind h.round?
  | _ => none

/-! ## What is noted along a run -/

/-- the round, if it is for the client and the client is registered -/
def matched (id : ClientId) (h : Hub) (op : Op) : List Event :=
  (h.roundOf? op).toList.filter fun e => decide (id ∈ h.registry) && h.concerns id e

/-- what comes into the client's channel -/
def put (id : ClientId) (h : Hub) (op : Op) : List Event :=
  ((h.apply op).queued id).drop (h.queued id).length

/-- what the client takes out of its channel -/
def taken (id : ClientId) (h : Hub) : Op → List Event
  | .take j => if j = id then (h.queued id).take 1 else []
  | _ => []

/-- the round that is for the client and after which the client is not registered any more -/
def evicting (id : ClientId) (h : Hub) (op : Op) : List Event :=
  (matched id h op).filter fun _ => decide (id ∉ (h.apply op).registry)

/-! ## One operation -/

theorem queued_congr {h k : Hub} {id : ClientId}
    (hq : (k.client? id).map (·.channel.queue) = (h.client? id).map (·.channel.queue)) :
    k.queued id = h.queued id := by
  unfold queued
  cases hk : k.client? id <;> cases hh : h.client? id <;> simp [hk, hh] at hq ⊢
  rw [hq]

/-- what a round is: for the event that the hub handles, and only for what can be in a channel -/
theorem roundOf?_eq_some {h : Hub} {op : Op} {e : Event} (hr : h.roundOf? op = some e) :
    ∃ now e₀, op = .turn now ∧ h.nextEvent? = some e₀ ∧ h.round? e₀ = some e := by
  cases op with
  | turn now =>
    obtain ⟨e₀, hn, hr⟩ := Option.bind_eq_some_iff.1 hr
    exact ⟨now, e₀, rfl, hn, hr⟩
  | _ => cases hr

/-- a client refuses a round if the round is for it and its channel is full or closed -/
theorem refuses_eq {h : Hub} (hs : Sound h) {e : Event} (hv : e.isValid = true) (id : ClientId) :
    h.refuses e id = (h.concerns id e && h.isBlocked id) := by
  unfold refuses concerns isBlocked
  cases hc : h.client? id with
  | none => rfl
  | some c =>
    have hw : c.wants e = c.subscriptions.has e.target :=
      Subscriptions.isSubscribed_eq (hs.tidy id c hc).subscriptions hv
    rw [Bool.eq_iff_iff, Option.any_some, Client.refuses_iff, hw]
    simp

theorem isValid_of_roundOf? {h : Hub} {op : Op} {e : Event} (hr : h.roundOf? op = some e) :
    e.isValid = true := by
  obtain ⟨now, e₀, -, -, hr⟩ := roundOf?_eq_some hr
  have hd := isDeliverable_of_round? hr
  simp only [Event.isDeliverable, Bool.and_eq_true] at hd
  exact hd.1.1

/-- **A round puts out exactly those that it is for and whose channels are full or closed.** -/
theorem registry_round {h : Hub} (hs : Sound h) {op : Op} {e : Event} (hr : h.roundOf? op = some e)
    (id : ClientId) :
    id ∈ (h.apply op).registry ↔ id ∈ h.registry ∧ ¬(h.concerns id e = true ∧ h.isBlocked id = true) := by
  have hv := isValid_of_roundOf? hr
  obtain ⟨now, e₀, rfl, hn, hr⟩ := roundOf?_eq_some hr
  rw [(turn_handled hs.registry_nodup hs.count hn now).registry, hr, List.mem_filter, Option.any_some,
    refuses_eq hs hv]
  cases h.concerns id e <;> cases h.isBlocked id <;> simp

/-- an event that is handled without a round leaves the registry alone -/
theorem registry_quiet {h : Hub} (hs : Sound h) {e : Event} (hn : h.nextEvent? = some e) {now : Nat}
    (hr : h.roundOf? (.turn now) = none) : (h.apply (.turn now)).registry = h.registry := by
  have hre : h.round? e = none := by simpa only [roundOf?, hn, Option.bind_some] using hr
  rw [(turn_handled hs.registry_nodup hs.count hn now).registry, hre]
  simp

/-- what an operation puts into a channel: the round, if it is for the client and the channel takes it -/
def accepted (id : ClientId) (h : Hub) (op : Op) : List Event :=
  (matched id h op).filter fun _ => !h.isBlocked id

/-- nothing is put into a channel while the hub has no event to handle -/
theorem accepted_eq_nil {h : Hub} (hn : h.nextEvent? = none) (id : ClientId) (op : Op) : accepted id h op = [] := by
  have hround : h.roundOf? op = none := by cases op <;> simp [roundOf?, hn]
  simp [accepted, matched, hround]

theorem accepted_eq {h : Hub} (hs : Sound h) {op : Op} {e : Event} (hr : h.roundOf? op = some e)
    {id : ClientId} {c : Client} (hc : h.client? id = some c) :
    accepted id h op = if id ∈ h.registry ∧ c.wants e = true ∧ c.refuses e = false then [e] else [] := by
  have hv := isValid_of_roundOf? hr
  have hrf : c.refuses e = (h.concerns id e && h.isBlocked id) := by
    rw [← refuses_eq hs hv, refuses, hc, Option.any_some]
  have hw : c.wants e = h.concerns id e := by
    rw [concerns, hc, Option.any_some]
    exact Subscriptions.isSubscribed_eq (hs.tidy id c hc).subscriptions hv
  rw [hrf, hw]
  by_cases hm : id ∈ h.registry <;> cases hb : h.isBlocked id <;> cases hw : h.concerns id e <;>
    simp [accepted, matched, hr, hm, hb, hw]

theorem queued_turn {h : Hub} (hs : Sound h) (id : ClientId) (now : Nat) :
    (h.apply (.turn now)).queued id = h.queued id ++ accepted id h (.turn now) := by
  cases hn : h.nextEvent? with
  | none =>
    have ha : accepted id h (.turn now) = [] := by simp [accepted, matched, roundOf?, hn]
    rw [ha, List.append_nil]
    exact queued_congr (turn_quiet (·.channel.queue) (fun _ => rfl) hn now id)
  | some e =>
    have hr : h.roundOf? (.turn now) = h.round? e := by simp only [roundOf?, hn, Option.bind_some]
    unfold queued
    rw [(turn_handled hs.registry_nodup hs.count hn now).client?]
    cases hid : h.client? id with
    | none =>
      have ha : accepted id h (.turn now) = [] := by simp [accepted, matched, concerns, hid]
      simp [ha]
    | some c =>
      cases hre : h.round? e with
      | none =>
        have ha : accepted id h (.turn now) = [] := by simp [accepted, matched, hr, hre]
        by_cases hm : id ∈ h.registry <;> simp [ha, hm, Client.inRound]
      | some r =>
        rw [accepted_eq hs (hr.trans hre) hid]
        by_cases hm : id ∈ h.registry
        · cases hw : c.wants r <;> cases hf : c.refuses r <;> simp [hm, Client.inRound_queue, hw, hf]
        · simp [hm]

theorem queued_modifyClient (h : Hub) (j id : ClientId) {f : Client → Client}
    (hf : ∀ c, (f c).channel.queue = c.channel.queue) : (h.modifyClient j f).queued id = h.queued id :=
  queued_congr (view_modifyClient (·.channel.queue) h j hf id)

/-- only the client itself takes events out, and nothing from outside puts them in -/
theorem queued_effect {h k : Hub} {op : Op} (he : Effect h op k) (ht : ∀ j, op ≠ .take j) (id : ClientId) :
    k.queued id = h.queued id := by
  cases he with
  | calm hk => simp [queued, hk.client?]
  | entered hc =>
    have hnew := (client_create_ok hc).2.1
    unfold queued
    rw [client?_entered]
    split_ifs with hi
    · have hnone : h.client? id = none := client?_eq_none_of_lt h (by rw [hi]; exact Nat.lt_succ_self _)
      simp [hnone, hnew]
    · rfl
  | unregistered => rfl
  | subscribed => exact queued_modifyClient h _ id fun _ => rfl
  | taken => exact absurd rfl (ht _)
  | hungUp => exact queued_modifyClient h _ id fun _ => rfl
  | drained => exact queued_modifyClient h _ id fun _ => rfl

theorem queued_take (h : Hub) (j id : ClientId) :
    taken id h (.take j) ++ (h.apply (.take j)).queued id = h.queued id := by
  cases hr : h.receive j with
  | none =>
    have hq : h.queued j = [] := by
      unfold receive at hr
      unfold queued
      cases hc : h.client? j with
      | none => rfl
      | some c =>
        simp only [hc, Option.bind_some, Channel.take?] at hr
        cases hcq : c.channel.queue with
        | nil => exact hcq
        | cons e rest => simp [hcq] at hr
    by_cases hj : j = id
    · subst hj
      simp [taken, apply, hr, hq]
    · simp [taken, apply, hr, hj]
  | some p =>
    obtain ⟨e, k⟩ := p
    obtain ⟨c, rest, hc, hq, rfl⟩ := receive_eq_some hr
    by_cases hj : j = id
    · subst hj
      simp [taken, apply, hr, queued, client?_modifyClient, hc, hq]
    · simp [taken, apply, hr, hj, queued, client?_modifyClient, Ne.symm hj]

/-- **What an operation does to a channel.** It takes from the front what the client takes, and puts at the end the
round that is for the client. -/
theorem queued_apply {h : Hub} (hs : Sound h) (op : Op) (id : ClientId) :
    h.queued id ++ accepted id h op = taken id h op ++ (h.apply op).queued id := by
  cases op with
  | turn now => exact (queued_turn hs id now).symm
  | take j =>
    rw [queued_take]
    simp [accepted, matched, roundOf?]
  | _ => simpa [accepted, matched, roundOf?, taken] using (queued_effect (effect h rfl) (by simp) id).symm

theorem put_eq {h : Hub} (hs : Sound h) (op : Op) (id : ClientId) : put id h op = accepted id h op := by
  have hq := queued_apply hs op id
  cases op with
  | take j =>
    have ha : accepted id h (.take j) = [] := rfl
    have hl := congrArg List.length hq
    rw [ha, List.append_nil, List.length_append] at hl
    rw [ha, put, List.drop_eq_nil_iff]
    omega
  | _ =>
    simp only [taken, List.nil_append] at hq
    rw [put, ← hq, List.drop_left]

theorem evicting_eq {h : Hub} (hs : Sound h) (op : Op) (id : ClientId) :
    evicting id h op = (matched id h op).filter fun _ => h.isBlocked id := by
  apply List.filter_congr
  intro e he
  obtain ⟨hr, hm⟩ := List.mem_filter.1 he
  have hreg := registry_round hs (Option.mem_toList.1 hr) id
  simp only [Bool.and_eq_true, decide_eq_true_eq] at hm
  simp [hreg, hm.1, hm.2]

/-- a round that is for a client comes into its channel or puts it out -/
theorem matched_eq {h : Hub} (hs : Sound h) (op : Op) (id : ClientId) :
    matched id h op = put id h op ++ evicting id h op := by
  rw [put_eq hs, evicting_eq hs, accepted]
  cases h.isBlocked id <;> simp

theorem matched_length_le (h : Hub) (op : Op) (id : ClientId) : (matched id h op).length ≤ 1 :=
  Nat.le_trans (List.length_filter_le _ _) (by cases h.roundOf? op <;> simp)

/-! ## Those that were put out -/

theorem isGone_of_evicting {h : Hub} (hs : Sound h) {op : Op} {id : ClientId} (he : evicting id h op ≠ []) :
    (h.apply op).isGone id := by
  obtain ⟨e, he⟩ := List.exists_mem_of_ne_nil _ he
  obtain ⟨hm, hout⟩ := List.mem_filter.1 he
  obtain ⟨hr, hin⟩ := List.mem_filter.1 hm
  obtain ⟨now, e₀, rfl, hn, -⟩ := roundOf?_eq_some (Option.mem_toList.1 hr)
  simp only [Bool.and_eq_true, decide_eq_true_eq] at hin hout
  have hh := turn_handled hs.registry_nodup hs.count hn now
  have hrs : h.registrations = [] := by
    unfold nextEvent? at hn
    split_ifs at hn with hp
    exact hp.2.2.1
  refine ⟨?_, hout, by simp [hh.registrations, hrs]⟩
  rw [client?_isSome_iff, hh.clients, ← client?_isSome_iff]
  exact hs.known id (List.mem_append_left _ hin.1)

theorem matched_of_isGone {h : Hub} {id : ClientId} (hg : h.isGone id) (op : Op) : matched id h op = [] := by
  simp [matched, hg.2.1]

theorem record_matched_of_isGone {h : Hub} (hs : Sound h) {id : ClientId} (hg : h.isGone id) (ops : List Op) :
    h.record (matched id) ops = [] := by
  induction ops generalizing h with
  | nil => rfl
  | cons op ops ih =>
    have hrest := ih (sound_apply hs op) (isGone_apply hs hg op)
    simpa [record, Trace.record, matched_of_isGone hg] using hrest

/-- the rounds that are for a client, in order: first those that came into its channel, then at most one that put
it out -/
theorem record_matched {h : Hub} (hs : Sound h) (id : ClientId) (ops : List Op) :
    h.record (matched id) ops = h.record (put id) ops ++ h.record (evicting id) ops ∧
      (h.record (evicting id) ops).length ≤ 1 ∧
      (h.record (evicting id) ops ≠ [] → (h.run ops).isGone id) := by
  induction ops generalizing h with
  | nil => simp [record, Trace.record]
  | cons op ops ih =>
    have hs' := sound_apply hs op
    have hm := matched_eq hs op id
    obtain ⟨hrec, hlen, hgone⟩ := ih hs'
    by_cases he : evicting id h op = []
    · rw [he, List.append_nil] at hm
      simp only [record, Trace.record, run, Trace.run_cons, he, List.nil_append] at hrec hlen hgone ⊢
      exact ⟨by rw [hm, hrec, List.append_assoc], hlen, hgone⟩
    · have hg := isGone_of_evicting hs he
      have hnone := record_matched_of_isGone hs' hg ops
      rw [hnone] at hrec
      obtain ⟨hput, hev⟩ := List.append_eq_nil_iff.1 hrec.symm
      have hone : put id h op = [] ∧ (evicting id h op).length ≤ 1 := by
        have hl := matched_length_le h op id
        have hpos := List.length_pos_iff.2 he
        rw [hm, List.length_append] at hl
        exact ⟨List.eq_nil_of_length_eq_zero (by omega), by omega⟩
      simp only [record] at hput hev hnone
      simp only [record, Trace.record, run, Trace.run_cons, hput, hev, hnone, hm, List.append_nil]
      exact ⟨trivial, hone.2, fun _ => isGone_run hs' hg ops⟩

/-! ## What causes a round -/

section

variable {h : Hub} {now : Nat}

theorem roundOf?_of_dropped {e : Event} (hn : h.nextEvent? = some e) (hd : e.isValid = false ∨ e.isRequest = true) :
    h.roundOf? (.turn now) = none := by
  rw [roundOf?, hn, Option.bind_some]
  cases hr : h.round? e with
  | none => rfl
  | some r =>
    obtain ⟨hv, hq, -⟩ := round?_cases hr
    simp [hv, hq] at hd

theorem roundOf?_of_newTx {tx : Transaction} (hn : h.nextEvent? = some (.newTx tx)) :
    h.roundOf? (.turn now) = none ∨ h.roundOf? (.turn now) = some .newTxs := by
  rw [roundOf?, hn, Option.bind_some]
  cases hr : h.round? (.newTx tx) with
  | none => exact Or.inl rfl
  | some r =>
    rcases round?_cases hr with ⟨-, -, -, ⟨-, hk⟩ | ⟨rfl, -⟩⟩
    · simp [Event.kind] at hk
    · exact Or.inr rfl

theorem roundOf?_of_deliverable {e : Event} (hn : h.nextEvent? = some e) (hd : e.isDeliverable = true)
    (hr : h.registry ≠ []) : h.roundOf? (.turn now) = some e := by
  simp only [Event.isDeliverable, Bool.and_eq_true, Bool.not_eq_true', decide_eq_true_eq] at hd
  obtain ⟨⟨hv, hq⟩, hk⟩ := hd
  rw [roundOf?, hn, Option.bind_some]
  unfold round?
  rw [if_neg (by simp [hr, hv, hq])]
  cases e with
  | newTx tx => simp [Event.kind] at hk
  | _ => rfl

/-- the figure that tells the rounds counts them -/
theorem events_apply (hs : Sound h) (op : Op) :
    (h.apply op).totals.events = h.totals.events + (h.roundOf? op).toList.length := by
  cases hop : op.isTurn with
  | false =>
    have hr : h.roundOf? op = none := by cases op <;> first | rfl | cases hop
    have he := effect h hop
    rw [hr]
    generalize h.apply op = k at he
    cases he with
    | calm hc => simp [hc.totals]
    | _ => simp
  | true =>
    obtain ⟨now, rfl⟩ := Op.eq_turn hop
    cases hn : h.nextEvent? with
    | some e =>
      rw [(turn_handled hs.registry_nodup hs.count hn now).events, roundOf?, hn, Option.bind_some]
    | none =>
      have hr : h.roundOf? (.turn now) = none := by rw [roundOf?, hn, Option.bind_none]
      have ht := turn h now
      rw [hr]
      generalize h.apply (.turn now) = k at ht
      cases ht with
      | closed => simp [drain_eq]
      | expelled =>
        unfold expel
        split_ifs <;> simp [endSending]
      | handled hn' => simp [hn] at hn'
      | _ => rfl

end

/-! ## Fan-out -/

/-- the next operation of a hub delivers exactly -/
structure Exact (h : Hub) : Prop where
  dropped : ∀ e now, h.nextEvent? = some e → e.isValid = false ∨ e.isRequest = true →
    h.roundOf? (.turn now) = none
  transaction : ∀ tx now, h.nextEvent? = some (.newTx tx) →
    h.roundOf? (.turn now) = none ∨ h.roundOf? (.turn now) = some .newTxs
  other : ∀ e now, h.nextEvent? = some e → e.isDeliverable = true → h.registry ≠ [] →
    h.roundOf? (.turn now) = some e
  /-- the hub counts the rounds -/
  counted : ∀ op, (h.apply op).totals.events = h.totals.events + (h.roundOf? op).toList.length
  /-- without a round nothing comes into a channel -/
  quiet : ∀ op, h.roundOf? op = none → ∀ id, put id h op = []
  /-- and an event puts nobody out -/
  kept : ∀ e now, h.nextEvent? = some e → h.roundOf? (.turn now) = none →
    (h.apply (.turn now)).registry = h.registry
  /-- a round puts out exactly those that it is for and whose channels are full or closed -/
  evicted : ∀ op e, h.roundOf? op = some e → ∀ id,
    (id ∈ (h.apply op).registry ↔
      id ∈ h.registry ∧ ¬(h.concerns id e = true ∧ h.isBlocked id = true))
  /-- everyone else that it is for has it last in the channel, and no other channel changes -/
  received : ∀ op e, h.roundOf? op = some e → ∀ id,
    (h.apply op).queued id = h.queued id ++
      if id ∈ h.registry ∧ h.concerns id e = true ∧ h.isBlocked id = false then [e] else []

theorem exact_of_sound {h : Hub} (hs : Sound h) : Exact h where
  dropped _ _ hn := roundOf?_of_dropped hn
  transaction _ _ hn := roundOf?_of_newTx hn
  other _ _ hn := roundOf?_of_deliverable hn
  counted := events_apply hs
  quiet op hr id := by
    rw [put_eq hs]
    simp [accepted, matched, hr]
  kept _ _ hn := registry_quiet hs hn
  evicted _ _ hr := registry_round hs hr
  received op e hr id := by
    obtain ⟨now, -, rfl, -⟩ := roundOf?_eq_some hr
    rw [queued_turn hs id now]
    congr 1
    by_cases hm : id ∈ h.registry <;> cases hc : h.concerns id e <;> cases hb : h.isBlocked id <;>
      simp [accepted, matched, hr, hm, hc, hb]

/-- what holds of a hub's deliveries after a list of operations -/
structure FanOut (h : Hub) (ops : List Op) : Prop where
  /-- what comes into a client's channel are the rounds that are for it, in order and once each, except only the
  one that puts it out -/
  delivered : ∀ id, h.record (matched id) ops = h.record (put id) ops ++ h.record (evicting id) ops
  once : ∀ id, (h.record (evicting id) ops).length ≤ 1
  /-- nobody that was put out comes back -/
  out : ∀ id, h.record (evicting id) ops ≠ [] → id ∉ (h.run ops).registry
  /-- the client takes events in the order in which they came, and the rest waits -/
  fifo : ∀ id, h.record (put id) ops = h.record (taken id) ops ++ (h.run ops).queued id
  clean : ∀ id, ∀ e ∈ (h.run ops).queued id, e.isValid = true ∧ e.isRequest = false ∧ e.kind ≠ .newTx
  exact : Exact (h.run ops)
  /-- the order in which the registry is gone over does not matter -/
  order : ∀ k, Rearranged h ops k → Reordered (h.run ops) k

/-- the channels of a sound hub hold what is meant for clients only -/
theorem queued_clean {h : Hub} (hs : Sound h) (id : ClientId) :
    ∀ e ∈ h.queued id, e.isValid = true ∧ e.isRequest = false ∧ e.kind ≠ .newTx := by
  unfold queued
  cases hc : h.client? id with
  | none => simp
  | some c =>
    intro e he
    have hd := (hs.tidy id c hc).queue e he
    simpa only [Event.isDeliverable, Bool.and_eq_true, Bool.not_eq_true', decide_eq_true_eq, and_assoc] using hd

/-- what was put into a channel was taken in that order or is still there -/
theorem record_put {h : Hub} (hs : Sound h) (id : ClientId) (ops : List Op) :
    h.queued id ++ h.record (put id) ops = h.record (taken id) ops ++ (h.run ops).queued id :=
  Trace.record_conserved (P := Sound) (queued · id) (put id) (taken id) (fun _ op hk => sound_apply hk op)
    (fun _ op hk => put_eq hk op id ▸ queued_apply hk op id) hs ops

/-- **Fan-out is exact, in order for each client, and slow clients do not hold others up.** Over every run from a
new hub. -/
theorem fan_out {config : HubConfig} {h : Hub} (hh : Hub.create config = .ok h) (ops : List Op) :
    FanOut h ops := by
  have hs := sound_create hh
  have hk := sound_run hs ops
  have hnew : ∀ id, h.queued id = [] := fun id => by simp [queued, client?, (create_ok hh).1]
  exact {
    delivered := fun id => (record_matched hs id ops).1
    once := fun id => (record_matched hs id ops).2.1
    out := fun id he => ((record_matched hs id ops).2.2 he).2.1
    fifo := fun id => by simpa [hnew] using record_put hs id ops
    clean := queued_clean hk
    exact := exact_of_sound hk
    order := fun _ => run_rearranged hs }

/-- of two clients with room for one event, the one that does not take the first is put out by the second, and the
other one gets both -/
theorem fan_out_two :
    ∃ h, Hub.create { clientQueue := 1 } = .ok h ∧ ∃ ops,
      h.record (matched 1) ops = [.newBlock, .ping] ∧ h.record (put 1) ops = [.newBlock] ∧
      h.record (evicting 1) ops = [.ping] ∧ h.record (put 2) ops = [.newBlock, .ping] ∧
      (h.run ops).registry = [2] ∧ FanOut h ops := by
  refine ⟨_, rfl, [.register, .register, .turn 0, .turn 0, .turn 0, .subscribe 1 ⟨.newBlock, none⟩,
    .subscribe 1 ⟨.ping, none⟩, .subscribe 2 ⟨.newBlock, none⟩, .subscribe 2 ⟨.ping, none⟩,
    .publish [.newBlock, .ping], .produce 0 0, .produce 0 0, .turn 0, .take 2, .turn 0], ?_, ?_, ?_, ?_, ?_, ?_⟩
  · rfl
  · rfl
  · rfl
  · rfl
  · rfl
  · exact fan_out (show Hub.create { clientQueue := 1 } = .ok _ from rfl) _

end ChainFeed.Hub
