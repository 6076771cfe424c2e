/-
One client and the hub: what others cannot change, how it gets in, and how it gets out.

- `view_run`: subscriptions and the receiving end of a client are its own affair.
- `isMember_run`: a client that is in, or on its way in, stays until it is put out, asks to leave, or the hub is told
  to stop.
- `isLeaving_run`: a client that asked to leave is not in without its request waiting.
- `notices`: what is newly waiting in the hub's two queues.
-/
import ChainFeed.Proofs.Hub.FanOut

namespace ChainFeed.Hub

/-! ## What is a client's own affair -/

/-- a part of a client that the hub leaves alone -/
structure Private {α : Type} (view : Client → α) : Prop where
  dismissed : ∀ c : Client, view c.dismissed = view c
  absorbed : ∀ (c : Client) (e : Event), view (c.absorbed e) = view c
  inRound : ∀ (c : Client) (r : Option Event), view (c.inRound r) = view c

theorem subscriptions_private : Private (·.subscriptions) :=
  ⟨fun _ => rfl, fun c e => by simp, fun c r => by simp⟩

theorem receiving_private : Private (·.channel.receiving) :=
  ⟨fun _ => rfl, fun c e => by simp, fun c r => by simp⟩

section

variable {α : Type} {view : Client → α} {h : Hub} {id : ClientId}

theorem view_modifyClient_of_ne {j : ClientId} (hj : some j ≠ some id) (f : Client → Client) :
    ((h.modifyClient j f).client? id).map view = (h.client? id).map view := by
  rw [client?_modifyClient, if_neg fun hi => hj (congrArg some hi.symm)]

/-- no operation but the client's own changes a private part of it -/
theorem view_apply (hv : Private view) (hs : Sound h) (hk : (h.client? id).isSome = true) {op : Op}
    (hop : op.client? ≠ some id) :
    ((h.apply op).client? id).map view = (h.client? id).map view := by
  cases ht : op.isTurn with
  | false =>
    have he := effect h ht
    generalize h.apply op = k at he
    cases he with
    | calm hc => rw [hc.client?]
    | entered => rw [client?_entered, if_neg (ne_new hk)]
    | unregistered => rfl
    | subscribed hj => exact view_modifyClient_of_ne (hj ▸ hop) _
    | taken => exact view_modifyClient_of_ne hop _
    | hungUp => exact view_modifyClient_of_ne hop _
    | drained => exact view_modifyClient_of_ne hop _
  | true =>
    obtain ⟨now, rfl⟩ := Op.eq_turn ht
    cases hn : h.nextEvent? with
    | none => exact turn_quiet view hv.dismissed hn now id
    | some e =>
      rw [(turn_handled hs.registry_nodup hs.count hn now).client?]
      split_ifs <;> simp [Function.comp_def, hv.inRound, hv.absorbed]

theorem isSome_apply (hs : Sound h) (hk : (h.client? id).isSome = true) (op : Op) :
    ((h.apply op).client? id).isSome = true := by
  have hlen := (client?_isSome_iff h id).1 hk
  exact (client?_isSome_iff _ id).2 ⟨hlen.1, Nat.le_trans hlen.2 (clients_le_apply hs op)⟩

theorem isSome_run (hs : Sound h) (hk : (h.client? id).isSome = true) (ops : List Op) :
    ((h.run ops).client? id).isSome = true :=
  kept_run (P := fun k => (k.client? id).isSome = true) (fun _ op hs hk => isSome_apply hs hk op) hs hk ops

/-- what no operation of a kind changes is not changed by a list of them -/
theorem unchanged_run {A : Type} {f : Hub → A} {C : Op → Prop}
    (hstep : ∀ k op, Sound k → (k.client? id).isSome = true → C op → f (k.apply op) = f k) (hs : Sound h)
    (hk : (h.client? id).isSome = true) {ops : List Op} (hops : ∀ op ∈ ops, C op) : f (h.run ops) = f h :=
  Trace.run_unchanged (P := fun k => Sound k ∧ (k.client? id).isSome = true)
    (fun _ op hk => ⟨sound_apply hk.1 op, isSome_apply hk.1 hk.2 op⟩) (fun k op hk => hstep k op hk.1 hk.2)
    ⟨hs, hk⟩ hops

theorem view_run (hv : Private view) (hs : Sound h) (hk : (h.client? id).isSome = true) {ops : List Op}
    (hops : ∀ op ∈ ops, op.client? ≠ some id) :
    ((h.run ops).client? id).map view = (h.client? id).map view :=
  unchanged_run (f := fun k => (k.client? id).map view) (fun _ _ hs hk hop => view_apply hv hs hk hop) hs hk hops

theorem subscriptions_take (h : Hub) (id : ClientId) :
    ((h.apply (.take id)).client? id).map (·.subscriptions) = (h.client? id).map (·.subscriptions) := by
  simp only [apply]
  split
  · rename_i e k hk
    obtain ⟨c, rest, hc, -, rfl⟩ := receive_eq_some hk
    simp [client?_modifyClient, hc]
  · rfl

theorem subscriptions_drain (h : Hub) (id : ClientId) :
    ((h.apply (.drain id)).client? id).map (·.subscriptions) = (h.client? id).map (·.subscriptions) := by
  simp only [apply, drainTxs]
  split
  · rfl
  · rename_i c hc
    simp [client?_modifyClient, hc]

/-- only the client itself ends its receiving, and only by hanging up -/
theorem receiving_apply (hs : Sound h) (hk : (h.client? id).isSome = true) {op : Op} (hop : op ≠ .hangUp id) :
    ((h.apply op).client? id).map (·.channel.receiving) = (h.client? id).map (·.channel.receiving) := by
  by_cases hc : op.client? = some id
  · have he := effect h (show op.isTurn = false by cases op <;> first | rfl | cases hc)
    have hmodify : ∀ (f : Client → Client),
        (∀ c, h.client? id = some c → (f c).channel.receiving = c.channel.receiving) →
        ((h.modifyClient id f).client? id).map (·.channel.receiving) =
          (h.client? id).map (·.channel.receiving) := fun f hf => by
      rw [client?_modifyClient, if_pos rfl, Option.map_map]
      exact Option.map_congr hf
    generalize h.apply op = k at he
    cases he with
    | calm hc => rw [hc.client?]
    | entered => cases hc
    | unregistered => rfl
    | subscribed hj => cases hj.symm.trans hc; exact hmodify _ fun _ _ => rfl
    | taken hd => cases hc; exact hmodify _ fun c hc => by rw [Option.some.inj (hd.symm.trans hc)]
    | hungUp => cases hc; exact absurd rfl hop
    | drained => cases hc; exact hmodify _ fun _ _ => rfl
  · exact view_apply receiving_private hs hk hc

theorem receiving_run (hs : Sound h) (hk : (h.client? id).isSome = true) {ops : List Op}
    (hops : ∀ op ∈ ops, op ≠ .hangUp id) :
    ((h.run ops).client? id).map (·.channel.receiving) = (h.client? id).map (·.channel.receiving) :=
  unchanged_run (f := fun k => (k.client? id).map (·.channel.receiving))
    (fun _ _ hs hk hop => receiving_apply hs hk hop) hs hk hops

theorem clients_le_run (hs : Sound h) (ops : List Op) : h.clients.length ≤ (h.run ops).clients.length :=
  kept_run (P := fun k => h.clients.length ≤ k.clients.length)
    (fun _ op hk hle => Nat.le_trans hle (clients_le_apply hk op)) hs (Nat.le_refl _) ops

theorem clients_run (hs : Sound h) {ops : List Op} (hops : ∀ op ∈ ops, op ≠ .register) :
    (h.run ops).clients.length = h.clients.length :=
  Trace.run_unchanged (f := (·.clients.length)) (P := Sound) (fun _ op hk => sound_apply hk op)
    (fun _ op hk hop => (clients_apply hk op).resolve_right fun hr => hop hr.1) hs hops

end

/-! ## Getting in and getting out -/

/-- as long as the client is in or on its way in, its request to leave is waiting -/
def isLeaving (h : Hub) (id : ClientId) : Prop :=
  h.isMember id → id ∈ h.unregistrations

section

variable {h : Hub} (hs : Sound h) {id : ClientId}
include hs

theorem shutdown_apply (hsd : h.shutdown = true) (op : Op) : (h.apply op).shutdown = true := by
  cases hop : op.isTurn with
  | false => exact (effect_frame (effect h hop)).2.2.2 hsd
  | true =>
    obtain ⟨now, rfl⟩ := Op.eq_turn hop
    have ht := turn h now
    generalize h.apply (.turn now) = k at ht
    cases ht with
    | closed => simp [drain_eq]
    | expelled =>
      unfold expel
      split_ifs <;> simpa [endSending] using hsd
    | @handled e relay => exact (handled hs.registry_nodup hs.count e relay).shutdown.trans hsd
    | _ => exact hsd

theorem shutdown_run (hsd : h.shutdown = true) (ops : List Op) : (h.run ops).shutdown = true :=
  kept_run (P := (·.shutdown = true)) (fun _ op hk hsd => shutdown_apply hk hsd op) hs hsd ops

theorem shutdown_of_run {ops : List Op} (hsd : (h.run ops).shutdown = false) : h.shutdown = false := by
  by_contra hx
  rw [Bool.not_eq_false] at hx
  exact absurd ((shutdown_run hs hx ops).symm.trans hsd) (by decide)

/-- nobody but the client asks the hub to drop it -/
theorem unregistrations_apply {op : Op} (hm : id ∈ (h.apply op).unregistrations) :
    id ∈ h.unregistrations ∨ op.client? = some id := by
  cases hop : op.isTurn with
  | false =>
    have he := effect h hop
    generalize h.apply op = k at he hm
    cases he with
    | calm hc => exact Or.inl (hc.unregistrations ▸ hm)
    | entered => exact Or.inl hm
    | unregistered =>
      refine (List.mem_append.1 hm).imp_right fun hm => ?_
      rw [List.mem_singleton.1 hm]
      rfl
    | _ => exact Or.inl (by simpa using hm)
  | true =>
    obtain ⟨now, rfl⟩ := Op.eq_turn hop
    have ht := turn h now
    generalize h.apply (.turn now) = k at ht hm
    cases ht with
    | closed => simp [drain_eq] at hm
    | expelled _ _ _ hq =>
      rw [hq]
      unfold expel at hm
      split_ifs at hm
      · exact Or.inl (List.mem_cons_of_mem _ (by simpa [endSending] using hm))
      · exact Or.inl (List.mem_cons_of_mem _ hm)
    | @handled e relay =>
      rw [(handled hs.registry_nodup hs.count e relay).unregistrations] at hm
      exact Or.inl hm
    | _ => exact Or.inl hm

theorem unregistrations_run {ops : List Op} (hm : id ∈ (h.run ops).unregistrations) :
    id ∈ h.unregistrations ∨ ∃ op ∈ ops, op.client? = some id := by
  induction ops generalizing h with
  | nil => exact Or.inl hm
  | cons op ops ih =>
    rcases ih (sound_apply hs op) hm with hm | ⟨op', hin, hc⟩
    · exact (unregistrations_apply hs hm).imp_right fun hc => ⟨op, List.mem_cons_self, hc⟩
    · exact Or.inr ⟨op', List.mem_cons_of_mem _ hin, hc⟩

theorem unregistrations_turn {k : Hub} (ht : Turn h k) (hm : k.isMember id) (hu : id ∈ h.unregistrations) :
    id ∈ k.unregistrations := by
  cases ht with
  | closed => simp [drain_eq, isMember] at hm
  | @expelled j rest _ _ hrs hq =>
    -- the client whose request was taken is not in any more
    have hne : id ≠ j := by
      rintro rfl
      unfold expel at hm
      split_ifs at hm with hj
      · simp [isMember, endSending, hrs, hs.registry_nodup.not_mem_erase] at hm
      · exact hj (hm.resolve_right (by simp [hrs]))
    rw [hq] at hu
    have hrest := (List.mem_cons.1 hu).resolve_left hne
    unfold expel
    split_ifs
    · simpa [endSending] using hrest
    · exact hrest
  | @handled e relay =>
    rw [(handled hs.registry_nodup hs.count e relay).unregistrations]
    exact hu
  | _ => exact hu

/-- **A client that asked to leave is not in without its request waiting**, and stays so. -/
theorem isLeaving_apply (hk : (h.client? id).isSome = true) (hl : h.isLeaving id) (op : Op) :
    (h.apply op).isLeaving id := by
  intro hm
  have hu : id ∈ h.unregistrations := by
    rcases isMember_of_apply hs hm with hm | ⟨-, hi⟩
    · exact hl hm
    · exact absurd hi (ne_new hk)
  cases hop : op.isTurn with
  | false =>
    have he := effect h hop
    generalize h.apply op = k at he
    cases he with
    | calm hc => exact hc.unregistrations ▸ hu
    | entered => exact hu
    | unregistered => exact List.mem_append_left _ hu
    | _ => simpa using hu
  | true =>
    obtain ⟨now, rfl⟩ := Op.eq_turn hop
    exact unregistrations_turn hs (turn h now) hm hu

theorem isLeaving_run (hk : (h.client? id).isSome = true) (hl : h.isLeaving id) (ops : List Op) :
    (h.run ops).isLeaving id :=
  (kept_run (P := fun k => (k.client? id).isSome = true ∧ k.isLeaving id)
    (fun _ op hs hk => ⟨isSome_apply hs hk.1 op, isLeaving_apply hs hk.1 hk.2 op⟩) hs ⟨hk, hl⟩ ops).2

omit hs in
theorem isMember_effect {k : Hub} {op : Op} (he : Effect h op k) (hm : h.isMember id) : k.isMember id := by
  cases he with
  | calm hc => exact hm.imp (hc.registry ▸ ·) (hc.registrations ▸ ·)
  | entered => exact hm.imp_right (List.mem_append_left _)
  | unregistered => exact hm
  | _ => simpa [isMember] using hm

omit hs in
/-- a turn without an event puts only those out who asked for it -/
theorem isMember_turn {k : Hub} (ht : Turn h k) (hn : h.nextEvent? = none) (hm : h.isMember id)
    (hu : id ∉ h.unregistrations) (hsd : k.shutdown = false) : k.isMember id := by
  cases ht with
  | closed => simp [drain_eq] at hsd
  | enrolled _ _ hq =>
    rw [isMember, hq, List.mem_cons] at hm
    rcases hm with hm | hm | hm
    · exact Or.inl (List.mem_append_left _ hm)
    · exact Or.inl (List.mem_append_right _ (List.mem_singleton.2 hm))
    · exact Or.inr hm
  | @expelled j rest _ _ _ hq =>
    have hne : id ≠ j := fun hi => hu (by simp [hq, hi])
    unfold expel
    split_ifs
    · refine hm.imp (fun hin => ?_) fun hin => by simpa [endSending] using hin
      simpa using (List.mem_erase_of_ne hne).2 hin
    · exact hm
  | handled hn' => simp [hn] at hn'
  | _ => exact hm

/-- an event puts only those out whom its round finds full or closed -/
theorem mem_registry_turn {e : Event} {now : Nat} (hn : h.nextEvent? = some e) (hin : id ∈ h.registry)
    (hev : evicting id h (.turn now) = []) : id ∈ (h.apply (.turn now)).registry := by
  cases hr : h.roundOf? (.turn now) with
  | none => exact registry_quiet hs hn hr ▸ hin
  | some r =>
    by_contra hout
    have hc : h.concerns id r = true := by
      by_contra hc
      exact hout ((registry_round hs hr id).2 ⟨hin, fun hb => hc hb.1⟩)
    simp [evicting, matched, hr, hin, hc, hout] at hev

/-- **A client that did not ask to leave stays** until a round puts it out or the hub is told to stop. -/
theorem isMember_apply (hm : h.isMember id) (hu : id ∉ h.unregistrations) {op : Op}
    (hsd : (h.apply op).shutdown = false) (hev : evicting id h op = []) : (h.apply op).isMember id := by
  cases hop : op.isTurn with
  | false => exact isMember_effect (effect h hop) hm
  | true =>
    obtain ⟨now, rfl⟩ := Op.eq_turn hop
    cases hn : h.nextEvent? with
    | none => exact isMember_turn (turn h now) hn hm hu hsd
    | some e =>
      rw [isMember, (turn_handled hs.registry_nodup hs.count hn now).registrations]
      exact hm.imp_left fun hin => mem_registry_turn hs hn hin hev

theorem isMember_run (hm : h.isMember id) (hu : id ∉ h.unregistrations) {ops : List Op}
    (hops : ∀ op ∈ ops, op.client? ≠ some id) (hsd : (h.run ops).shutdown = false)
    (hev : h.record (evicting id) ops = []) : (h.run ops).isMember id := by
  induction ops generalizing h with
  | nil => exact hm
  | cons op ops ih =>
    obtain ⟨hop, hops⟩ := List.forall_mem_cons.1 hops
    obtain ⟨hev, hrest⟩ := List.append_eq_nil_iff.1 (show evicting id h op ++ _ = [] from hev)
    have hs' := sound_apply hs op
    have hsd' : (h.apply op).shutdown = false := shutdown_of_run hs' hsd
    have hu' : id ∉ (h.apply op).unregistrations := fun hx =>
      (unregistrations_apply hs hx).elim hu hop
    exact ih hs' (isMember_apply hs hm hu hsd' hev) hu' hops hsd hrest

end

/-! ## Notices to the hub -/

/-- a message in one of the hub's two queues -/
inductive Notice where
  | registration (id : ClientId)
  | unregistration (id : ClientId)
deriving DecidableEq, Repr

/-- the client that a notice is about -/
def Notice.client : Notice → ClientId
  | registration id | unregistration id => id

/-- what waits in the hub's queues in `k` and did not in `h` -/
def notices (h k : Hub) : List Notice :=
  (k.registrations.drop h.registrations.length).map .registration ++
    (k.unregistrations.drop h.unregistrations.length).map .unregistration

theorem notices_eq_nil {h k : Hub} (hr : k.registrations.length ≤ h.registrations.length)
    (hu : k.unregistrations.length ≤ h.unregistrations.length) : notices h k = [] := by
  simp [notices, List.drop_eq_nil_of_le hr, List.drop_eq_nil_of_le hu]

/-- nothing is sent to the hub by anyone but clients -/
theorem notices_apply {h : Hub} (hs : Sound h) {op : Op} (hop : op.client? = none) (hr : op ≠ .register) :
    notices h (h.apply op) = [] := by
  cases ht : op.isTurn with
  | false =>
    have he := effect h ht
    generalize h.apply op = k at he
    cases he with
    | calm hc => exact notices_eq_nil (by simp [hc.registrations]) (by simp [hc.unregistrations])
    | entered => exact absurd rfl hr
    | subscribed hj => simp [hj] at hop
    | _ => cases hop
  | true =>
    obtain ⟨now, rfl⟩ := Op.eq_turn ht
    have ht := turn h now
    generalize h.apply (.turn now) = k at ht
    cases ht with
    | closed => exact notices_eq_nil (by simp [drain_eq]) (by simp [drain_eq])
    | enrolled _ _ hq => exact notices_eq_nil (by simp [enrol, hq]) (by simp [enrol])
    | expelled _ _ _ hq =>
      unfold expel
      split_ifs <;> exact notices_eq_nil (by simp [endSending]) (by simp [endSending, hq])
    | @handled e relay =>
      have hh := handled hs.registry_nodup hs.count e relay
      exact notices_eq_nil (by simp [hh.registrations]) (by simp [hh.unregistrations])
    | _ => exact notices_eq_nil (Nat.le_refl _) (Nat.le_refl _)

/-- an operation from outside that leaves the queues of the hub alone -/
def Op.isPrivate : Op → Bool
  | .register | .unregister _ | .turn _ => false
  | _ => true

/-- what clients do among themselves concerns neither the registry nor the queues -/
theorem private_run {h : Hub} {ops : List Op} (hops : ∀ op ∈ ops, op.isPrivate = true) :
    (h.run ops).registry = h.registry ∧ (h.run ops).registrations = h.registrations ∧
      (h.run ops).unregistrations = h.unregistrations := by
  induction ops generalizing h with
  | nil => exact ⟨rfl, rfl, rfl⟩
  | cons op ops ih =>
    obtain ⟨hop, hops⟩ := List.forall_mem_cons.1 hops
    obtain ⟨h1, h2, h3⟩ := ih (h := h.apply op) hops
    have he := effect h (show op.isTurn = false by cases op <;> first | rfl | cases hop)
    have hone : (h.apply op).registry = h.registry ∧ (h.apply op).registrations = h.registrations ∧
        (h.apply op).unregistrations = h.unregistrations := by
      generalize h.apply op = k at he
      cases he with
      | calm hc => exact ⟨hc.registry, hc.registrations, hc.unregistrations⟩
      | entered => cases hop
      | unregistered => cases hop
      | _ => simp
    exact ⟨h1.trans hone.1, h2.trans hone.2.1, h3.trans hone.2.2⟩

end ChainFeed.Hub
