/-
The hub's books: who is registered, who was put out or taken out, and what became of every event.

Each turn of the running hub takes up one errand: a client that enters, a client that leaves, or an event. Main
statements:
- `undertaken`: what the turn makes of its errand, `handle_totals` for an event.
- `Falls`, `falls_iff`: each event that is handled is in exactly one of four classes.
- `booked_act`, `booked_acts`: one step, and every list of steps, moves the figures by what was entered, put out,
  taken out and handled on the way.
- `unknown_leaves_nothing`: a wish to be dropped by one that is not registered is only used up.
- `accounts`: the books balance at every moment.
-/
import ChainFeed.Proofs.Hub.Shutdown

namespace ChainFeed.Hub

/-! ## Errands -/

/-- what a running hub can have to do in its turn -/
inductive Errand where
  /-- a client comes into the registry -/
  | enter (id : ClientId)
  /-- a client asked to be taken out -/
  | leave (id : ClientId)
  | handle (e : Event)

/-- what a running hub has to do next: registrations come first, events last -/
def errand? (h : Hub) : Option Errand :=
  if h.phase = .running ∧ h.shutdown = false then
    match h.registrations, h.unregistrations, h.relay.queue with
    | id :: _, _, _ => some (.enter id)
    | [], id :: _, _ => some (.leave id)
    | [], [], e :: _ => some (.handle e)
    | [], [], [] => none
  else none

/-- what the hub's turn makes of its errand -/
inductive Undertaken (h : Hub) : Option Errand → Hub → Prop
  /-- nothing is counted, and nobody comes or goes as long as the hub is open -/
  | idle {k : Hub} (registry : k.isOpen = true → k.registry = h.registry) (totals : k.totals = h.totals) :
      Undertaken h none k
  | entered {id : ClientId} {rest : List ClientId} (queue : h.registrations = id :: rest) :
      Undertaken h (some (.enter id)) ({ h with registrations := rest }.enrol id)
  | left {id : ClientId} {rest : List ClientId} (queue : h.unregistrations = id :: rest) :
      Undertaken h (some (.leave id)) ({ h with unregistrations := rest }.expel id)
  | handled {e : Event} (relay : Relay) : Undertaken h (some (.handle e)) ({ h with relay }.handle e)

theorem undertaken_drain (h : Hub) : Undertaken h none h.drain := by
  refine .idle (fun ho => ?_) (by simp [drain_eq, setRegistry])
  simp [drain_eq, isOpen] at ho

/-- **What the hub's turn makes of its errand.** -/
theorem undertaken (h : Hub) (now : Nat) : Undertaken h h.errand? (h.apply (.turn now)) := by
  simp only [apply, step]
  by_cases hp : h.phase = .running
  · rw [hp]
    simp only [loopStep]
    by_cases hs : h.shutdown = true
    · have hn : h.errand? = none := by simp [errand?, hs]
      rw [hn, if_pos hs]
      exact undertaken_drain h
    · rw [if_neg hs]
      have hx : h.phase = .running ∧ h.shutdown = false := ⟨hp, by simpa using hs⟩
      split
      · rename_i id rest hr
        have he : h.errand? = some (.enter id) := by simp [errand?, hx, hr]
        rw [he]
        exact .entered hr
      · rename_i id rest hr hu
        have he : h.errand? = some (.leave id) := by simp [errand?, hx, hr, hu]
        rw [he]
        exact .left hu
      · rename_i e relay hr hu ht
        have he : h.errand? = some (.handle e) := by
          unfold Relay.take? at ht
          split at ht <;> cases ht
          simp [errand?, *]
        rw [he]
        exact .handled relay
      · rename_i hr hu ht
        have he : h.errand? = none := by
          unfold Relay.take? at ht
          split at ht
          · simp [errand?, *]
          · cases ht
        rw [he]
        split_ifs
        · exact .idle (fun _ => rfl) rfl
        · exact undertaken_drain h
  · rw [errand?, if_neg fun hx => hp hx.1]
    cases hphase : h.phase with
    | running => exact absurd hphase hp
    | created => exact .idle (fun _ => rfl) rfl
    | draining =>
      dsimp only
      split_ifs
      · exact .idle (fun _ => rfl) rfl
      · exact .idle (fun _ => rfl) rfl
    | stopped => exact .idle (fun _ => rfl) rfl

theorem errand?_of_nextEvent? {h : Hub} {e : Event} (hn : h.nextEvent? = some e) :
    h.errand? = some (.handle e) := by
  unfold nextEvent? at hn
  split_ifs at hn with hp
  obtain ⟨hrunning, hs, hr, hu⟩ := hp
  cases hq : h.relay.queue with
  | nil => simp [hq] at hn
  | cons e' rest =>
    rw [hq] at hn
    cases hn
    simp [errand?, hrunning, hs, hr, hu, hq]

/-- a wish to be dropped by one that is not registered is only used up -/
theorem unknown_leaves_nothing {h : Hub} {id : ClientId} {rest : List ClientId} (he : h.errand? = some (.leave id))
    (hq : h.unregistrations = id :: rest) (hid : id ∉ h.registry) (now : Nat) :
    h.apply (.turn now) = { h with unregistrations := rest } := by
  have hu := undertaken h now
  rw [he] at hu
  generalize h.apply (.turn now) = k at hu
  cases hu with
  | left hq' =>
    cases hq.symm.trans hq'
    simp [expel, hid]

/-! ## Classes of events -/

/-- the class of an event that the hub handles -/
inductive Fate where
  /-- nobody is registered -/
  | discarded
  /-- malformed, or a request -/
  | dropped
  /-- a transaction that only goes into buffers -/
  | buffered
  /-- one round of delivery -/
  | delivered
deriving DecidableEq, Repr

/-- what makes an event that comes to the hub one of a class -/
def Falls (h : Hub) (e : Event) : Fate → Prop
  | .discarded => h.registry = []
  | .dropped => h.registry ≠ [] ∧ (e.isValid = false ∨ e.isRequest = true)
  | .buffered => h.registry ≠ [] ∧ ∃ tx, e = .newTx tx ∧ tx.isValid = true ∧ h.flushes tx = false
  | .delivered => ∃ r, h.round? e = some r

/-- the class of an event that comes to the hub -/
def fate (h : Hub) (e : Event) : Fate :=
  if h.registry.isEmpty then .discarded
  else if !e.isValid || e.isRequest then .dropped
  else if (h.round? e).isSome then .delivered
  else .buffered

/-- **Every event is in exactly one class.** -/
theorem falls_iff (h : Hub) (e : Event) (f : Fate) : h.Falls e f ↔ f = h.fate e := by
  unfold fate
  by_cases hempty : h.registry = []
  · have hround : h.round? e = none := by simp [round?, hempty]
    cases f <;> simp [Falls, hempty, hround]
  · have hne : h.registry.isEmpty = false := by simpa using hempty
    rw [if_neg (by simp [hne])]
    by_cases hbad : (!e.isValid || e.isRequest) = true
    · have hround : h.round? e = none := by simp [round?, hne, hbad]
      have hor : e.isValid = false ∨ e.isRequest = true := by simpa using hbad
      have htx : ∀ tx, e = .newTx tx → tx.isValid = true → False := by
        rintro tx rfl hv
        rcases hor with hx | hx
        · exact absurd (hx.symm.trans hv) (by decide)
        · cases hx
      rw [if_pos hbad]
      cases f with
      | buffered =>
        refine iff_of_false ?_ (by decide)
        rintro ⟨-, tx, he, hv, -⟩
        exact htx tx he hv
      | _ => simp [Falls, hempty, hround, hor]
    · have hok : e.isValid = true ∧ e.isRequest = false := by simpa using hbad
      rw [if_neg hbad]
      cases e with
      | newTx tx =>
        have hv : tx.isValid = true := hok.1
        cases hf : h.flushes tx <;> cases f <;>
          simp [Falls, round?, hempty, hok, hf, hv]
      | subscribe r | unsubscribe r => cases hok.2
      | _ => cases f <;> simp [Falls, round?, hempty, hok]

/-- whether the round that an event causes puts the client out -/
def putsOut (h : Hub) (e : Event) (id : ClientId) : Bool :=
  (h.round? e).any fun r => h.refuses r id

/-- **What one event adds to the figures.** -/
theorem handle_totals {h : Hub} (hr : h.registry.Nodup) (hc : h.connections = h.registry.length) (e : Event) :
    (h.handle e).totals =
      { connections := h.totals.connections
        events := h.totals.events + [h.fate e].count .delivered
        evicted := h.totals.evicted + (h.registry.filter (h.putsOut e)).length
        dropped := h.totals.dropped + [h.fate e].count .dropped } := by
  have hfate : ∀ f, h.Falls e f → h.fate e = f := fun f hf => ((falls_iff h e f).1 hf).symm
  have hputs : h.putsOut e = fun id => (h.round? e).any fun r => h.refuses r id := rfl
  have hround := handling hr e
  generalize hx : h.round? e = x at hround hputs
  generalize h.handle e = k at hround
  rw [hputs]
  cases hround with
  | discarded he => simp [hfate .discarded he]
  | dropped he hbad => simp [hfate .dropped ⟨he, by simpa using hbad⟩, dropEvent]
  | buffered he hv hf => simp [hfate .buffered ⟨he, _, rfl, hv, hf⟩]
  | @flushed tx he hv hf =>
    have hb := broadcast_eq (h := h.announced tx) (by simpa using hr) (by simpa using hc) .newTxs
    have hrefuses : (h.announced tx).refuses .newTxs = h.refuses .newTxs := funext (refuses_announced hr tx .newTxs)
    rw [hfate .delivered ⟨_, hx⟩]
    simp [flush, hb, hrefuses]
  | signalled =>
    rw [hfate .delivered ⟨_, hx⟩]
    simp [flush, broadcast_eq hr hc]
  | broadcast =>
    rw [hfate .delivered ⟨_, hx⟩]
    simp [broadcast_eq hr hc]

/-! ## What is noted of a step -/

/-- what the hub takes up in a step; only its own turns take anything up -/
def errandOf? (h : Hub) (a : Act) : Option Errand :=
  if a.asOp.isTurn then h.errand? else none

/-- the client that a step takes into the registry -/
def entered (h : Hub) (a : Act) : List ClientId :=
  match h.errandOf? a with
  | some (.enter id) => [id]
  | _ => []

/-- the clients that a step puts out -/
def evicted (h : Hub) (a : Act) : List ClientId :=
  match h.errandOf? a with
  | some (.handle e) => h.registry.filter (h.putsOut e)
  | _ => []

/-- the client that a step takes out at its own wish; nobody is, if it is not registered -/
def removed (h : Hub) (a : Act) : List ClientId :=
  match h.errandOf? a with
  | some (.leave id) => if id ∈ h.registry then [id] else []
  | _ => []

/-- the class of the event that a step handles -/
def fates (h : Hub) (a : Act) : List Fate :=
  match h.errandOf? a with
  | some (.handle e) => [h.fate e]
  | _ => []

/-- the figures of `k` are those of `h` and what was noted in between, and so is the registry of a hub that is still
open -/
structure Booked (h k : Hub) (entered evicted removed : List ClientId) (fates : List Fate) : Prop where
  connections : k.totals.connections = h.totals.connections + entered.length
  events : k.totals.events = h.totals.events + fates.count .delivered
  evictions : k.totals.evicted = h.totals.evicted + evicted.length
  dropped : k.totals.dropped = h.totals.dropped + fates.count .dropped
  registry : k.isOpen = true →
    h.registry.length + entered.length = k.registry.length + evicted.length + removed.length

theorem Booked.of_same {h k : Hub} (ht : k.totals = h.totals)
    (hr : k.isOpen = true → k.registry = h.registry) : Booked h k [] [] [] [] :=
  ⟨by simp [ht], by simp [ht], by simp [ht], by simp [ht], fun ho => by simp [hr ho]⟩

section

variable {h : Hub} (hs : Sound h)
include hs

theorem booked_turn (now : Nat) : Booked h (h.apply (.turn now)) (h.entered (.op (.turn now)))
    (h.evicted (.op (.turn now))) (h.removed (.op (.turn now))) (h.fates (.op (.turn now))) := by
  have hu := undertaken h now
  simp only [entered, evicted, removed, fates, errandOf?, Act.asOp, Op.isTurn, if_true]
  generalize h.errand? = errand, h.apply (.turn now) = k at hu
  cases hu with
  | idle hr ht => exact .of_same ht hr
  | entered => exact ⟨rfl, rfl, rfl, rfl, fun _ => by simp [enrol]⟩
  | @left id rest =>
    by_cases hid : id ∈ h.registry
    · have hlen := List.length_erase_of_mem hid
      have hpos := List.length_pos_of_mem hid
      have ht : ({ h with unregistrations := rest }.expel id).totals = h.totals := by simp [expel, hid, endSending]
      have hr : ({ h with unregistrations := rest }.expel id).registry = h.registry.erase id := by simp [expel, hid]
      refine ⟨by simp [ht], by simp [ht], by simp [ht], by simp [ht], fun _ => ?_⟩
      rw [hr]
      simp [hid]
      omega
    · have hk : { h with unregistrations := rest }.expel id = { h with unregistrations := rest } := by
        simp [expel, hid]
      rw [hk]
      simpa [hid] using Booked.of_same (h := h) (k := { h with unregistrations := rest }) rfl fun _ => rfl
  | @handled e relay =>
    have ht := handle_totals (h := { h with relay }) hs.registry_nodup hs.count e
    have hk := handled hs.registry_nodup hs.count e relay
    have hfate : ({ h with relay } : Hub).fate e = h.fate e := rfl
    have hputs : ({ h with relay } : Hub).putsOut e = h.putsOut e := rfl
    rw [hfate, hputs] at ht
    refine ⟨by simp [ht], by rw [ht], by rw [ht], by rw [ht], fun _ => ?_⟩
    have hlen := List.length_eq_length_filter_add (l := h.registry) (h.putsOut e)
    have hstay : ({ h with relay }.handle e).registry = h.registry.filter fun id => !h.putsOut e id := hk.registry
    rw [hstay]
    simp
    omega

/-- **One step moves the figures by what it did.** -/
theorem booked_act (a : Act) : Booked h (h.act a) (h.entered a) (h.evicted a) (h.removed a) (h.fates a) := by
  cases ha : a.asOp.isTurn with
  | false =>
    have he := effect_act h ha
    have hn : h.errandOf? a = none := by simp [errandOf?, ha]
    simp only [entered, evicted, removed, fates, hn]
    exact .of_same (effect_frame he).2.2.1 fun _ => effect_registry he
  | true =>
    obtain ⟨now, rfl⟩ := act_turn ha
    exact booked_turn hs now

theorem open_of_acts {as : List Act} (ho : (h.acts as).isOpen = true) : h.isOpen = true := by
  by_contra hc
  rw [Bool.not_eq_true] at hc
  have hk := (kept_acts (P := fun k => k.isOpen = false) (fun _ a hs hc => closed_act hs hc a) hs hc as).2
  exact absurd (hk.symm.trans ho) (by decide)

/-- **Every list of steps moves the figures by what was done on the way.** -/
theorem booked_acts (as : List Act) : Booked h (h.acts as) (Trace.record act entered h as)
    (Trace.record act evicted h as) (Trace.record act removed h as) (Trace.record act fates h as) := by
  induction as generalizing h with
  | nil => exact .of_same rfl fun _ => rfl
  | cons a as ih =>
    have hone := booked_act hs a
    have hrest := ih (sound_act hs a)
    have hk : h.acts (a :: as) = (h.act a).acts as := rfl
    constructor
    · rw [hk, hrest.connections, hone.connections, Trace.record, List.length_append, Nat.add_assoc]
    · rw [hk, hrest.events, hone.events, Trace.record, List.count_append, Nat.add_assoc]
    · rw [hk, hrest.evictions, hone.evictions, Trace.record, List.length_append, Nat.add_assoc]
    · rw [hk, hrest.dropped, hone.dropped, Trace.record, List.count_append, Nat.add_assoc]
    · intro ho
      have h1 := hone.registry (open_of_acts (sound_act hs a) ho)
      have h2 := hrest.registry ho
      simp only [Trace.record, List.length_append]
      rw [hk]
      omega

/-! ## Clients that are out -/

/-- a register call that comes late brings a new client, and no one who is gone -/
theorem isGone_act {id : ClientId} (hg : h.isGone id) (a : Act) : (h.act a).isGone id := by
  cases a with
  | op o => exact isGone_apply hs hg o
  | arrive =>
    have he := effect_act h (a := .arrive) rfl
    have hm : ¬(h.act .arrive).isMember id := by
      intro hm
      rcases isMember_of_effect he hm with hin | ⟨-, hnew⟩
      · exact (not_or.2 hg.2) hin
      · exact ne_new hg.1 hnew
    refine ⟨?_, not_or.1 hm⟩
    simp only [Act.asOp] at he
    generalize h.act .arrive = k at he
    cases he with
    | calm hc => exact hc.client? id ▸ hg.1
    | entered =>
      rw [client?_entered, if_neg (ne_new hg.1)]
      exact hg.1
    | subscribed about => cases about

/-- whoever is gone after the step that notes it is gone at the end -/
theorem isGone_of_record {note : Hub → Act → List ClientId}
    (hnote : ∀ k a, Sound k → ∀ id ∈ note k a, (k.act a).isGone id) (as : List Act) :
    ∀ id ∈ Trace.record act note h as, (h.acts as).isGone id := by
  induction as generalizing h with
  | nil => simp
  | cons a as ih =>
    intro id hid
    rcases List.mem_append.1 hid with hnow | hlater
    · exact (kept_acts (P := (·.isGone id)) (fun _ a hs hg => isGone_act hs hg a) (sound_act hs a)
        (hnote h a hs id hnow) as).2
    · exact ih (sound_act hs a) id hlater

theorem registrations_turn {now : Nat} {id : ClientId} (hm : id ∈ (h.apply (.turn now)).registrations) :
    id ∈ h.registrations := by
  have ht := turn h now
  generalize h.apply (.turn now) = k at ht hm
  cases ht with
  | closed => simp [drain_eq] at hm
  | enrolled _ _ hq =>
    rw [hq]
    exact List.mem_cons_of_mem _ hm
  | expelled =>
    unfold expel at hm
    split_ifs at hm
    · simpa [endSending] using hm
    · exact hm
  | @handled e relay => exact (handled hs.registry_nodup hs.count e relay).registrations ▸ hm
  | _ => exact hm

/-- a registered client that a turn takes out of the registry is gone -/
theorem isGone_of_turn {now : Nat} {id : ClientId} (hin : id ∈ h.registry)
    (hout : id ∉ (h.apply (.turn now)).registry) : (h.apply (.turn now)).isGone id := by
  refine ⟨isSome_apply hs (hs.known id (List.mem_append_left _ hin)) _, hout, ?_⟩
  intro hm
  exact (List.nodup_append.1 hs.nodup).2.2 id hin id (registrations_turn hs hm) rfl

theorem isGone_of_noted (a : Act) : ∀ id ∈ h.evicted a ++ h.removed a, (h.act a).isGone id := by
  intro id hid
  cases ha : a.asOp.isTurn with
  | false => simp [evicted, removed, errandOf?, ha] at hid
  | true =>
    obtain ⟨now, rfl⟩ := act_turn ha
    -- who is noted was registered and is not so after the turn
    suffices hx : id ∈ h.registry ∧ id ∉ (h.apply (.turn now)).registry from isGone_of_turn hs hx.1 hx.2
    have hu := undertaken h now
    simp only [evicted, removed, errandOf?, Act.asOp, Op.isTurn, if_true] at hid
    generalize h.errand? = errand, h.apply (.turn now) = k at hu hid
    cases hu with
    | idle | entered => simp at hid
    | @left j rest =>
      by_cases hj : j ∈ h.registry
      · obtain rfl : id = j := by simpa [hj] using hid
        refine ⟨hj, ?_⟩
        simp [expel, hj, hs.registry_nodup.not_mem_erase]
      · simp [hj] at hid
    | @handled e relay =>
      have hfilter : id ∈ h.registry.filter (h.putsOut e) := by simpa using hid
      obtain ⟨hin, hout⟩ := List.mem_filter.1 hfilter
      refine ⟨hin, fun hm => ?_⟩
      rw [(handled hs.registry_nodup hs.count e relay).registry] at hm
      have hstay := (List.mem_filter.1 hm).2
      rw [show ((h.round? e).any fun r => h.refuses r id) = true from hout] at hstay
      cases hstay

end

/-! ## The books -/

theorem totals_create {config : HubConfig} {h : Hub} (hh : Hub.create config = .ok h) : h.totals = {} := by
  unfold Hub.create at hh
  cases hr : Relay.create (max config.relayCapacity 1) with
  | error e => simp [hr, Except.map] at hh
  | ok relay =>
    rw [hr] at hh
    cases hh
    rfl

/-- what holds of the figures after the steps `as` of the hub `h` -/
structure Accounts (h : Hub) (as : List Act) : Prop where
  /-- the number told outside is the size of the registry -/
  connections : (h.acts as).connections = (h.acts as).registry.length
  /-- who ever came into the registry is in it, was put out, or was taken out at its own wish -/
  balance : (h.acts as).phase = .running → (h.acts as).totals.connections =
    (h.acts as).registry.length + (h.acts as).totals.evicted + (Trace.record act removed h as).length
  /-- an event that comes to the hub is in one class and in no other -/
  classes : ∀ e f, (h.acts as).Falls e f ↔ f = (h.acts as).fate e
  dropped : (h.acts as).totals.dropped = (Trace.record act fates h as).count .dropped
  events : (h.acts as).totals.events = (Trace.record act fates h as).count .delivered
  entered : (h.acts as).totals.connections = (Trace.record act entered h as).length
  evicted : (h.acts as).totals.evicted = (Trace.record act evicted h as).length
  /-- no figure ever goes down -/
  grows : ∀ bs, (h.acts as).totals.connections ≤ (h.acts (as ++ bs)).totals.connections ∧
    (h.acts as).totals.events ≤ (h.acts (as ++ bs)).totals.events ∧
    (h.acts as).totals.evicted ≤ (h.acts (as ++ bs)).totals.evicted ∧
    (h.acts as).totals.dropped ≤ (h.acts (as ++ bs)).totals.dropped
  /-- who was put out or taken out is not registered any more -/
  gone : ∀ id ∈ Trace.record act (fun k a => k.evicted a ++ k.removed a) h as, id ∉ (h.acts as).registry
  /-- and the wish of one that is not registered to be dropped is only used up -/
  unknown : ∀ id rest now, (h.acts as).errand? = some (.leave id) → (h.acts as).unregistrations = id :: rest →
    id ∉ (h.acts as).registry → (h.acts as).apply (.turn now) = { h.acts as with unregistrations := rest }

/-- **The books balance at every moment.** Whatever is done to a hub since it was made: the number of clients that it
tells is the size of its registry, and while it runs all who ever came in are still there, were put out, or were taken
out at their wish. Each event that it handled is in exactly one class, and two of the classes are what it counts as
dropped and as delivered. No figure goes down, and a wish to be dropped that comes too late changes nothing. -/
theorem accounts {config : HubConfig} {h : Hub} (hh : Hub.create config = .ok h) (as : List Act) :
    Accounts h as := by
  have hs := sound_create hh
  have hs' : Sound (h.acts as) := (kept_acts (P := fun _ => True) (fun _ _ _ _ => trivial) hs trivial as).1
  have htotals := totals_create hh
  obtain ⟨hconnections, hevents, hevictions, hdropped, hregistry⟩ := booked_acts hs as
  rw [htotals, Nat.zero_add] at hconnections hevents hevictions hdropped
  refine ⟨hs'.count, ?_, falls_iff _, hdropped, hevents, hconnections, hevictions, ?_, ?_, ?_⟩
  · intro hp
    have hb := hregistry (by simp [isOpen, hp])
    rw [(create_ok hh).2.1, List.length_nil] at hb
    omega
  · intro bs
    have hb := booked_acts hs' bs
    rw [acts_append]
    exact ⟨hb.connections ▸ Nat.le_add_right _ _, hb.events ▸ Nat.le_add_right _ _,
      hb.evictions ▸ Nat.le_add_right _ _, hb.dropped ▸ Nat.le_add_right _ _⟩
  · intro id hid
    exact (isGone_of_record hs (fun k a hk => isGone_of_noted hk a) as id hid).2.1
  · intro id rest now he hq hid
    exact unknown_leaves_nothing he hq hid now

/-- of three clients with room for one event, one is put out by a round and the others leave, one of them asking twice;
a transaction is only buffered, a request is dropped, and the event that comes when nobody is left is discarded -/
theorem accounts_three :
    ∃ h as, Hub.create { clientQueue := 1 } = .ok h ∧ Trace.record act entered h as = [1, 2, 3] ∧
      Trace.record act evicted h as = [1] ∧ Trace.record act removed h as = [2, 3] ∧
      Trace.record act fates h as = [.delivered, .buffered, .dropped, .delivered, .discarded] ∧
      (h.acts as).totals = ⟨3, 2, 1, 1⟩ ∧ Accounts h as := by
  refine ⟨_, [.op .register, .op .register, .op (.turn 0), .op (.turn 0), .op (.turn 0), .op .register,
    .op (.turn 0), .op (.subscribe 1 ⟨.newBlock, none⟩), .op (.subscribe 2 ⟨.newTxs, none⟩),
    .op (.publish [.newBlock, .newTx { hash := "a" }, .subscribe ⟨.ping, none⟩, .newBlock, .ping]),
    .op (.produce 0 0), .op (.produce 0 0), .op (.produce 0 0), .op (.produce 0 0), .op (.produce 0 0),
    .op (.turn 0), .op (.turn 0), .op (.turn 0), .op (.turn 0), .op (.unregister 2), .op (.unregister 2),
    .op (.unregister 3), .op (.turn 0), .op (.turn 0), .op (.turn 0), .op (.turn 0)], rfl, ?_, ?_, ?_, ?_, ?_, ?_⟩
  · rfl
  · rfl
  · rfl
  · rfl
  · rfl
  · exact accounts (show Hub.create { clientQueue := 1 } = .ok _ from rfl) _

end ChainFeed.Hub
