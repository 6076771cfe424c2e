/-
What holds of a hub at every moment, whatever is done to it.

- `Client.Tidy`: a channel holds only events that are meant for clients, and subscriptions fit together.
- `Sound`: registered and waiting clients exist and are different, the figure told outside is the size of the
  registry, a channel is open on the hub's side exactly while its client is registered or about to be, clients are
  tidy, and a hub that has closed down holds nobody.
- `sound_apply`, `sound_run`: every operation keeps this, and so does every list of operations.
- `kept_run`: what every operation on a sound hub keeps is kept by a list of them.
- `isMember_of_apply`, `isGone_apply`: only new clients get in, so that one that is out never comes back.
-/
import ChainFeed.Proofs.Hub.Op

namespace ChainFeed

/-- what holds of a client at every moment -/
structure Client.Tidy (c : Client) : Prop where
  queue : ∀ e ∈ c.channel.queue, e.isDeliverable = true
  subscriptions : c.subscriptions.Coherent

/-- a change that adds nothing to the channel and leaves subscriptions alone -/
theorem Client.Tidy.of_subset {c d : Client} (hc : c.Tidy) (hq : d.channel.queue ⊆ c.channel.queue)
    (hs : d.subscriptions = c.subscriptions) : d.Tidy :=
  ⟨fun e he => hc.queue e (hq he), hs ▸ hc.subscriptions⟩

namespace Hub

/-- what holds of a hub at every moment -/
structure Sound (h : Hub) : Prop where
  known : ∀ id ∈ h.registry ++ h.registrations, (h.client? id).isSome
  nodup : (h.registry ++ h.registrations).Nodup
  count : h.connections = h.registry.length
  sending : ∀ id c, h.client? id = some c →
    (c.channel.sending = true ↔ id ∈ h.registry ++ h.registrations)
  tidy : ∀ id c, h.client? id = some c → c.Tidy
  closed : h.isOpen = false →
    h.registry = [] ∧ h.registrations = [] ∧ h.unregistrations = [] ∧ h.shutdown = true

namespace Sound

variable {h k : Hub}

theorem registry_nodup (hs : Sound h) : h.registry.Nodup :=
  (List.nodup_append.1 hs.nodup).1

/-- every client changes by itself, nobody enters, and who is registered or waiting keeps an open channel -/
theorem of_map (hs : Sound h) {g : ClientId → Client → Client}
    (hg : ∀ id, k.client? id = (h.client? id).map (g id))
    (hsub : (k.registry ++ k.registrations).Sublist (h.registry ++ h.registrations))
    (hcount : k.connections = k.registry.length)
    (hsend : ∀ id c, h.client? id = some c →
      ((g id c).channel.sending = true ↔ id ∈ k.registry ++ k.registrations))
    (htidy : ∀ id c, h.client? id = some c → c.Tidy → (g id c).Tidy)
    (hclosed : k.isOpen = false →
      k.registry = [] ∧ k.registrations = [] ∧ k.unregistrations = [] ∧ k.shutdown = true) : Sound k where
  known := by
    intro id hid
    simpa [hg] using hs.known id (hsub.subset hid)
  nodup := hs.nodup.sublist hsub
  count := hcount
  sending := by
    intro id d hd
    obtain ⟨c, hc, rfl⟩ := Option.map_eq_some_iff.1 ((hg id).symm.trans hd)
    exact hsend id c hc
  tidy := by
    intro id d hd
    obtain ⟨c, hc, rfl⟩ := Option.map_eq_some_iff.1 ((hg id).symm.trans hd)
    exact htidy id c hc (hs.tidy id c hc)
  closed := hclosed

/-- a change of one client that neither opens nor closes its channel on the hub's side -/
theorem modifyClient (hs : Sound h) (id : ClientId) {f : Client → Client}
    (hf : ∀ c, h.client? id = some c → c.Tidy →
      (f c).Tidy ∧ (f c).channel.sending = c.channel.sending) : Sound (h.modifyClient id f) := by
  refine hs.of_map (g := fun j c => if j = id then f c else c) (fun j => ?_) (by simp)
    (by simpa using hs.count) (fun j c hj => ?_) (fun j c hj ht => ?_) ?_
  · rw [client?_modifyClient]
    split_ifs <;> simp
  · have hc := hs.sending j c hj
    by_cases hji : j = id
    · subst hji
      simpa [(hf c hj (hs.tidy j c hj)).2] using hc
    · simpa [hji] using hc
  · by_cases hji : j = id
    · subst hji
      simpa using (hf c hj ht).1
    · simpa [hji] using ht
  · simpa [isOpen] using hs.closed

end Sound

theorem client?_entered (h : Hub) (c : Client) (rs : List ClientId) (id : Nat) :
    ({ h with clients := h.clients ++ [c], registrations := rs } : Hub).client? id =
      if id = h.clients.length + 1 then some c else h.client? id := by
  unfold client?
  by_cases h0 : id = 0
  · simp [h0]
  · simp only [h0, if_false]
    by_cases hl : id = h.clients.length + 1
    · simp [hl]
    · rw [if_neg hl]
      by_cases hlt : id - 1 < h.clients.length
      · exact List.getElem?_append_left hlt
      · rw [List.getElem?_eq_none (by rw [List.length_append, List.length_singleton]; omega),
          List.getElem?_eq_none (by omega)]

/-- what a client is when it is made -/
theorem client_create_ok {config : HubConfig} {c : Client} (hc : Client.create config = .ok c) :
    c.channel.sending = true ∧ c.channel.queue = [] ∧ c.channel.receiving = true ∧ c.buffer.txs = [] ∧
    c.subscriptions = {} := by
  unfold Client.create Channel.create queuePlaces TxBuffer.create at hc
  simp only [bind, Except.bind] at hc
  split_ifs at hc <;> cases hc
  exact ⟨rfl, rfl, rfl, rfl, rfl⟩

/-- a new client waits for the hub with an open channel -/
theorem sound_entered {h : Hub} (hs : Sound h) {c : Client} (hc : Client.create h.config = .ok c)
    (ho : h.isOpen = true) :
    Sound { h with
      clients := h.clients ++ [c]
      registrations := h.registrations ++ [h.clients.length + 1] } := by
  have hnew := client_create_ok hc
  have hfresh : h.clients.length + 1 ∉ h.registry ++ h.registrations := fun hm => by
    have := (client?_isSome_iff h _).1 (hs.known _ hm)
    omega
  have hlook := client?_entered h c (h.registrations ++ [h.clients.length + 1])
  constructor
  · intro id hid
    rw [hlook]
    split_ifs with hi
    · rfl
    · exact hs.known id (by simpa [← List.append_assoc, hi] using hid)
  · rw [← List.append_assoc]
    refine List.nodup_append.2 ⟨hs.nodup, by simp, fun a ha b hb hab => ?_⟩
    rw [List.mem_singleton] at hb
    exact hfresh (hb ▸ hab ▸ ha)
  · exact hs.count
  · intro id d hd
    rw [hlook] at hd
    split_ifs at hd with hi
    · cases hd
      simp [hi, hnew.1]
    · simpa [← List.append_assoc, hi] using hs.sending id d hd
  · intro id d hd
    rw [hlook] at hd
    split_ifs at hd with hi
    · cases hd
      exact ⟨by simp [hnew.2.1], by simpa [hnew.2.2.2.2] using Subscriptions.coherent_nil⟩
    · exact hs.tidy id d hd
  · exact fun hx => absurd (ho.symm.trans hx) (by decide)

theorem sound_effect {h k : Hub} {op : Op} (hs : Sound h) (he : Effect h op k) : Sound k := by
  cases he with
  | calm hk =>
    refine hs.of_map (g := fun _ c => c) (fun id => by simp [hk.client?]) (by simp [hk.registry, hk.registrations])
      (by rw [hk.connections, hk.registry, hs.count]) (fun id c hc => ?_) (fun _ _ _ ht => ht)
      fun hx => ?_
    · rw [hk.registry, hk.registrations]
      exact hs.sending id c hc
    · obtain ⟨h1, h2, h3, h4⟩ := hs.closed (by simpa [isOpen, hk.phase] using hx)
      exact ⟨hk.registry.trans h1, hk.registrations.trans h2, hk.unregistrations.trans h3, hk.shutdown h4⟩
  | entered hc ho => exact sound_entered hs hc ho
  | unregistered ho =>
    exact ⟨hs.known, hs.nodup, hs.count, hs.sending, hs.tidy,
      fun hx => absurd (ho.symm.trans hx) (by decide)⟩
  | subscribed _ hc hch =>
    refine hs.modifyClient _ fun d hd ht => ⟨⟨ht.queue, ?_⟩, rfl⟩
    cases hc.symm.trans hd
    exact Subscriptions.coherent_change ht.subscriptions hch
  | taken hc hq =>
    refine hs.modifyClient _ fun d hd ht => ?_
    cases hc.symm.trans hd
    exact ⟨ht.of_subset (by simp [hq]) rfl, rfl⟩
  | hungUp => exact hs.modifyClient _ fun c _ ht => ⟨ht.of_subset (List.Subset.refl _) rfl, rfl⟩
  | drained => exact hs.modifyClient _ fun c _ ht => ⟨ht.of_subset (List.Subset.refl _) rfl, rfl⟩

/-! ## The hub's own turn -/

section

variable {h : Hub} (hs : Sound h)
include hs

theorem sound_enrol {id : ClientId} {rest : List ClientId} (hq : h.registrations = id :: rest)
    (ho : h.isOpen = true) : Sound ({ h with registrations := rest }.enrol id) := by
  have hm : ∀ j, j ∈ (h.registry ++ [id]) ++ rest ↔ j ∈ h.registry ++ h.registrations := by
    simp [hq]
  refine ⟨fun j hj => hs.known j ((hm j).1 hj), ?_, rfl, fun j c hc => ?_, hs.tidy,
    fun hx => absurd (ho.symm.trans hx) (by decide)⟩
  · have hn := hs.nodup
    rw [hq] at hn
    simpa [enrol, setRegistry] using hn
  · exact (hs.sending j c hc).trans (hm j).symm

theorem sound_expel {id : ClientId} {rest : List ClientId} (hr : h.registrations = [])
    (ho : h.isOpen = true) : Sound ({ h with unregistrations := rest }.expel id) := by
  by_cases hid : id ∈ h.registry
  · have hk : { h with unregistrations := rest }.expel id =
        ({ h with unregistrations := rest }.modifyClient id (·.dismissed)).setRegistry (h.registry.erase id) := by
      simp only [expel, hid, if_true]
      rfl
    have hko : ({ h with unregistrations := rest }.expel id).isOpen = true := by
      simpa [hk, setRegistry, isOpen] using ho
    rw [hk] at hko ⊢
    refine hs.of_map (g := fun j c => if j = id then c.dismissed else c) (fun j => ?_) ?_ rfl
      (fun j c hj => ?_) (fun j c _ ht => ?_) fun hx => by simp [hko] at hx
    · rw [client?_setRegistry, client?_modifyClient]
      split_ifs <;> simp [client?]
    · simpa [setRegistry] using (List.erase_sublist (a := id) (l := h.registry)).append_right h.registrations
    · have hc := hs.sending j c hj
      by_cases hji : j = id
      · subst hji
        simp [Client.dismissed, Channel.endSending, setRegistry, hr, hs.registry_nodup.not_mem_erase]
      · simpa [hji, setRegistry, List.mem_erase_of_ne hji] using hc
    · split_ifs
      · exact ht.of_subset (List.Subset.refl _) rfl
      · exact ht
  · simp only [expel, hid, if_false]
    exact ⟨hs.known, hs.nodup, hs.count, hs.sending, hs.tidy,
      fun hx => absurd (ho.symm.trans hx) (by decide)⟩

theorem sound_handled {e : Event} {k : Hub} (hk : Handled h e k) (hr : h.registrations = [])
    (ho : h.isOpen = true) : Sound k := by
  refine hs.of_map (g := fun j c => if j ∈ h.registry then (c.absorbed e).inRound (h.round? e) else c)
    (fun j => ?_) ?_ hk.count (fun j c hj => ?_) (fun j c hj ht => ?_) fun hx => ?_
  · rw [hk.client?]
    split_ifs <;> simp
  · rw [hk.registry, hk.registrations]
    exact List.filter_sublist.append_right _
  · have hc := hs.sending j c hj
    have hrf : ∀ x, h.refuses x j = c.refuses x := fun x => by simp [refuses, hj]
    rw [hk.registry, hk.registrations]
    simp only [hr, List.append_nil, List.mem_filter, hrf] at hc ⊢
    by_cases hm : j ∈ h.registry
    · cases h.round? e <;> simp [hm, Client.inRound_sending, hc.2 hm]
    · simpa [hm] using hc
  · split_ifs with hm
    · refine ⟨fun x hx => ?_, by simpa using ht.subscriptions⟩
      rw [Client.inRound_queue, List.mem_append, List.mem_filter] at hx
      exact hx.elim (fun hx => ht.queue x (by simpa using hx)) fun hx =>
        isDeliverable_of_round? (Option.mem_toList.1 hx.1)
    · exact ht
  · exact absurd ho (by simpa [isOpen, hk.phase] using hx)

theorem sound_drain : Sound h.drain := by
  rw [drain_eq]
  refine hs.of_map (g := fun j c => if j ∈ h.registry ++ h.registrations then c.dismissed else c)
    (fun j => ?_) (by simp) rfl (fun j c hj => ?_) (fun j c _ ht => ?_) fun _ => ⟨rfl, rfl, rfl, rfl⟩
  · refine (client?_modifyClients h hs.nodup _ j).trans ?_
    split_ifs <;> simp
  · have hc := hs.sending j c hj
    by_cases hm : j ∈ h.registry ++ h.registrations
    · rw [if_pos hm]
      simp [Client.dismissed, Channel.endSending]
    · rw [if_neg hm]
      simpa [hm] using hc
  · split_ifs
    · exact ht.of_subset (List.Subset.refl _) rfl
    · exact ht

end

theorem sound_turn {h k : Hub} (hs : Sound h) (ht : Turn h k) : Sound k := by
  have hopen : h.phase = .running → h.isOpen = true := fun hp => by simp [isOpen, hp]
  cases ht with
  | started now hp =>
    exact ⟨hs.known, hs.nodup, hs.count, hs.sending, hs.tidy, fun hx => by simp [isOpen, start] at hx⟩
  | waited => exact hs
  | closed => exact sound_drain hs
  | enrolled hp _ hq => exact sound_enrol hs hq (hopen hp)
  | expelled hp _ hr => exact sound_expel hs hr (hopen hp)
  | @handled e relay hn =>
    unfold nextEvent? at hn
    split_ifs at hn with hp
    exact sound_handled hs (handled hs.registry_nodup hs.count e relay) hp.2.2.1 (hopen hp.1)
  | halted hp =>
    exact ⟨hs.known, hs.nodup, hs.count, hs.sending, hs.tidy, fun _ => hs.closed (by simp [isOpen, hp])⟩

/-- **Every operation keeps a hub sound.** -/
theorem sound_apply {h : Hub} (hs : Sound h) (op : Op) : Sound (h.apply op) := by
  cases ht : op.isTurn
  · exact sound_effect hs (effect h ht)
  · obtain ⟨now, rfl⟩ := Op.eq_turn ht
    exact sound_turn hs (turn h now)

theorem sound_run {h : Hub} (hs : Sound h) (ops : List Op) : Sound (h.run ops) :=
  Trace.run_induction (P := Sound) (fun _ op hk => sound_apply hk op) hs ops

/-- what every operation on a sound hub keeps is kept by a list of them -/
theorem kept_run {P : Hub → Prop} (hstep : ∀ k op, Sound k → P k → P (k.apply op)) {h : Hub} (hs : Sound h)
    (hp : P h) (ops : List Op) : P (h.run ops) :=
  (Trace.run_induction (P := fun k => Sound k ∧ P k)
    (fun k op hk => ⟨sound_apply hk.1 op, hstep k op hk.1 hk.2⟩) ⟨hs, hp⟩ ops).2

/-! ## Who can be registered -/

/-- the client is registered or waits to be -/
def isMember (h : Hub) (id : ClientId) : Prop :=
  id ∈ h.registry ∨ id ∈ h.registrations

/-- a client that is neither registered nor waits to be -/
def isGone (h : Hub) (id : ClientId) : Prop :=
  (h.client? id).isSome = true ∧ id ∉ h.registry ∧ id ∉ h.registrations

theorem isMember_of_effect {h k : Hub} {op : Op} {id : ClientId} (he : Effect h op k) (hm : k.isMember id) :
    h.isMember id ∨ op = .register ∧ id = h.clients.length + 1 := by
  cases he with
  | calm hc =>
    rw [isMember, hc.registry, hc.registrations] at hm
    exact Or.inl hm
  | entered =>
    rcases hm with hm | hm
    · exact Or.inl (Or.inl hm)
    · rcases List.mem_append.1 hm with hm | hm
      · exact Or.inl (Or.inr hm)
      · exact Or.inr ⟨rfl, List.mem_singleton.1 hm⟩
  | unregistered => exact Or.inl hm
  | _ => exact Or.inl (by simpa [isMember] using hm)

theorem isMember_of_turn {h k : Hub} {id : ClientId} (hs : Sound h) (ht : Turn h k) (hm : k.isMember id) :
    h.isMember id := by
  cases ht with
  | closed => simp [drain_eq, isMember] at hm
  | enrolled _ _ hq =>
    rw [isMember, hq, List.mem_cons]
    rcases hm with hm | hm
    · rcases List.mem_append.1 hm with hm | hm
      · exact Or.inl hm
      · exact Or.inr (Or.inl (List.mem_singleton.1 hm))
    · exact Or.inr (Or.inr hm)
  | @expelled j rest =>
    unfold expel at hm
    split_ifs at hm
    · rcases hm with hm | hm
      · exact Or.inl (List.mem_of_mem_erase (by simpa using hm))
      · exact Or.inr (by simpa [endSending] using hm)
    · exact hm
  | @handled e relay =>
    have hh := handled hs.registry_nodup hs.count e relay
    rw [isMember, hh.registry, hh.registrations] at hm
    exact hm.imp_left fun hm => List.mem_of_mem_filter hm
  | _ => exact hm

/-- who is registered or waits to be after an operation was so before, or has just been made -/
theorem isMember_of_apply {h : Hub} (hs : Sound h) {op : Op} {id : ClientId} (hm : (h.apply op).isMember id) :
    h.isMember id ∨ op = .register ∧ id = h.clients.length + 1 := by
  cases hop : op.isTurn with
  | false => exact isMember_of_effect (effect h hop) hm
  | true =>
    obtain ⟨now, rfl⟩ := Op.eq_turn hop
    exact Or.inl (isMember_of_turn hs (turn h now) hm)

/-- a client that is there is not the next one to come -/
theorem ne_new {h : Hub} {id : ClientId} (hk : (h.client? id).isSome = true) : id ≠ h.clients.length + 1 := by
  intro hi
  have hlen := ((client?_isSome_iff h id).1 hk).2
  rw [hi] at hlen
  exact Nat.not_succ_le_self _ hlen

/-- clients are never forgotten, and new ones come by registration only -/
theorem clients_apply {h : Hub} (hs : Sound h) (op : Op) :
    (h.apply op).clients.length = h.clients.length ∨
      op = .register ∧ (h.apply op).clients.length = h.clients.length + 1 := by
  cases hop : op.isTurn with
  | false =>
    have he := effect h hop
    generalize h.apply op = k at he
    cases he with
    | calm hc => exact Or.inl (congrArg _ hc.clients)
    | entered => exact Or.inr ⟨rfl, by simp⟩
    | _ => exact Or.inl (by simp)
  | true =>
    obtain ⟨now, rfl⟩ := Op.eq_turn hop
    have ht := turn h now
    generalize h.apply (.turn now) = k at ht
    left
    cases ht with
    | closed => simp [drain_eq]
    | expelled =>
      unfold expel
      split_ifs <;> simp [endSending]
    | @handled e relay => exact (handled hs.registry_nodup hs.count e relay).clients
    | _ => rfl

theorem clients_le_apply {h : Hub} (hs : Sound h) (op : Op) : h.clients.length ≤ (h.apply op).clients.length := by
  rcases clients_apply hs op with he | ⟨-, he⟩
  · exact Nat.le_of_eq he.symm
  · exact he ▸ Nat.le_succ _

/-- a client that is gone does not come back -/
theorem isGone_apply {h : Hub} (hs : Sound h) {id : ClientId} (hg : h.isGone id) (op : Op) :
    (h.apply op).isGone id := by
  obtain ⟨hk, hout⟩ := hg
  have hlen := (client?_isSome_iff h id).1 hk
  refine ⟨(client?_isSome_iff _ id).2 ⟨hlen.1, Nat.le_trans hlen.2 (clients_le_apply hs op)⟩, ?_⟩
  rw [← not_or] at hout ⊢
  intro hm
  rcases isMember_of_apply hs hm with hm | ⟨-, hi⟩
  · exact hout hm
  · exact ne_new hk hi

theorem isGone_run {h : Hub} (hs : Sound h) {id : ClientId} (hg : h.isGone id) (ops : List Op) :
    (h.run ops).isGone id :=
  kept_run (P := (·.isGone id)) (fun _ op hk hg => isGone_apply hk hg op) hs hg ops

/-! ## A new hub -/

/-- what a hub is when it is made -/
theorem create_ok {config : HubConfig} {h : Hub} (hh : Hub.create config = .ok h) :
    h.clients = [] ∧ h.registry = [] ∧ h.registrations = [] ∧ h.unregistrations = [] ∧
    h.connections = 0 ∧ h.phase = .created ∧ h.shutdown = false ∧ h.config = config := by
  unfold Hub.create at hh
  cases hr : Relay.create (max config.relayCapacity 1) with
  | error e => simp [hr, Except.map] at hh
  | ok relay =>
    simp only [hr, Except.map, Except.ok.injEq] at hh
    subst hh
    simp

theorem sound_create {config : HubConfig} {h : Hub} (hh : Hub.create config = .ok h) : Sound h := by
  obtain ⟨hc, hr, hrs, -, hn, hp, -⟩ := create_ok hh
  have hnone : ∀ id, h.client? id = none := fun id => by simp [client?, hc]
  exact ⟨by simp [hr, hrs], by simp [hr, hrs], by simp [hn, hr], by simp [hnone], by simp [hnone],
    by simp [isOpen, hp]⟩

end Hub

end ChainFeed
