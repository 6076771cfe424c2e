/-
What becomes of a hub that is abandoned: everybody lets go of it, and nobody tells it to stop.

- `record_registrations`: the clients that come to wait for the registry are the ones that are made, in order.
- `channels_acts`: what comes into a client's channel is taken by the client, or still queued.
- `published_acts`: the events whose publisher is told that they were accepted are the ones of it that come in.
- `abandoned`: the hub first takes up everything that waits for it, by its usual rules, and then ends, by whatever moves
  of its tasks.
-/
import ChainFeed.Proofs.Hub.Settling
import ChainFeed.Proofs.World.Publishing

namespace ChainFeed.Hub

variable {h : Hub}

/-! ## Clients and channels along a run -/

theorem gained_registrations (hs : Sound h) (a : Act) : gained registrations h a =
    List.range' (h.clients.length + 1) ((h.act a).clients.length - h.clients.length) ∧
      h.clients.length ≤ (h.act a).clients.length := by
  cases ha : a.asOp.isTurn with
  | false =>
    have he := effect_act h ha
    rw [gained, if_neg (by simp [ha])]
    generalize a.asOp = op, h.act a = k at he
    cases he with
    | calm hc => simp [hc.registrations, hc.clients]
    | entered => simp
    | _ => simp
  | true =>
    obtain ⟨now, rfl⟩ := act_turn ha
    have hclients : (h.act (.op (.turn now))).clients.length = h.clients.length :=
      (clients_apply hs (.turn now)).resolve_right fun hr => by cases hr.1
    rw [gained, if_pos ha, hclients, Nat.sub_self]
    exact ⟨rfl, Nat.le_refl _⟩

/-- the clients that come to wait for the registry are the ones that are made, in order -/
theorem record_registrations (hs : Sound h) (as : List Act) : Trace.record act (gained registrations) h as =
    List.range' (h.clients.length + 1) ((h.acts as).clients.length - h.clients.length) ∧
      h.clients.length ≤ (h.acts as).clients.length := by
  induction as generalizing h with
  | nil => simp [acts]
  | cons a as ih =>
    obtain ⟨hone, hle⟩ := gained_registrations hs a
    obtain ⟨hrest, hle'⟩ := ih (sound_act hs a)
    rw [Trace.record, hone, hrest]
    rw [show h.acts (a :: as) = (h.act a).acts as from rfl]
    refine ⟨?_, Nat.le_trans hle hle'⟩
    obtain ⟨m, hm⟩ := Nat.exists_eq_add_of_le hle
    obtain ⟨n, hn⟩ := Nat.exists_eq_add_of_le hle'
    rw [hn, hm, show h.clients.length + m - h.clients.length = m by omega,
      show h.clients.length + m + n - (h.clients.length + m) = n by omega,
      show h.clients.length + m + n - h.clients.length = m + n by omega,
      show h.clients.length + m + 1 = h.clients.length + 1 + m by omega, List.range'_append_1]

/-- what comes into a client's channel along a list of things that happen -/
def deliveries (id : ClientId) (h : Hub) (as : List Act) : List Event :=
  Trace.record act (fun k a => accepted id k a.asOp) h as

/-- what comes into a client's channel is taken by the client, or still queued -/
theorem channels_acts (hs : Sound h) (as : List Act) (id : ClientId) :
    h.queued id ++ deliveries id h as = takings id h as ++ (h.acts as).queued id := by
  refine Trace.record_conserved (P := Sound) (fun k => k.queued id) (fun k a => accepted id k a.asOp)
    (fun k a => taken id k a.asOp) (fun _ a hk => sound_act hk a) (fun k a hk => ?_) hs as
  cases a with
  | op op => exact queued_apply hk op id
  | arrive =>
    have hsame := queued_effect (effect_act k (a := .arrive) rfl) (by simp [Act.asOp]) id
    rw [hsame]
    simp [Act.asOp, accepted, matched, roundOf?, taken]

/-! ## Publishers along a run -/

section

variable {task : Nat} {events : List Event} {outcomes : List Outcome}

/-- the events of a background task that come to the hub's queue in a step -/
def incoming (task : Nat) (h : Hub) (a : Act) : List Event :=
  if a.asOp.origin = .producer task then gained (·.relay.queue) h a else []

theorem goesOn_act (hs : Sound h) (hu : Underway task events outcomes h) (a : Act) :
    GoesOn task events outcomes (incoming task h a) (h.act a) := by
  cases a with
  | arrive =>
    have hsame := machinery_arrive h
    simp only [machinery, Prod.mk.injEq] at hsame
    exact hu.goesOn hsame.2.2.2 hsame.1
  | op op =>
    have hincoming : incoming task h (.op op) = h.entering task op := by
      by_cases ho : op.origin = .producer task
      · obtain ⟨now, rfl⟩ := Op.eq_produce ho
        rfl
      · rw [incoming, entering, if_neg ho]
        exact if_neg ho
    rw [hincoming]
    exact underway_apply hs hu op

theorem goesOn_acts (hs : Sound h) (hu : Underway task events outcomes h) (as : List Act) :
    GoesOn task events outcomes (Trace.record act (incoming task) h as) (h.acts as) := by
  induction as generalizing h outcomes with
  | nil => exact hu.goesOn rfl rfl
  | cons a as ih => exact (goesOn_act hs hu a).trans fun after hafter => ih (sound_act hs a) hafter

/-- **What a publisher is told is what happens.** The background task that is started to publish some events is told the
outcomes of the first of them, one after the other, and the accepted ones are the events of it that come in. -/
theorem published_acts (hs : Sound h) (ha : Attended h) (events : List Event) (as : List Act) :
    ∃ outcomes, ((h.act (.op (.publish events))).acts as).producers[h.producers.length]? =
        some ⟨events.drop outcomes.length, outcomes⟩ ∧
      putIn events outcomes =
        Trace.record act (incoming h.producers.length) (h.act (.op (.publish events))) as := by
  have hnew : h.relay.line (.producer h.producers.length) = [] := by
    by_contra hline
    obtain ⟨p, hp, -⟩ := ha.producers _ hline
    rw [List.getElem?_eq_none (Nat.le_refl _)] at hp
    cases hp
  obtain ⟨outcomes, -, hunderway, hcame⟩ :=
    goesOn_acts (sound_act hs (.op (.publish events))) (underway_publish hnew events) as
  rw [show putIn events [] = [] by simp [putIn], List.nil_append] at hcame
  exact ⟨outcomes, hunderway.producer, hcame⟩

end

/-! ## Abandoned hubs -/

/-- what holds of a hub that nobody tells to stop, after a list of things that happened to it since it was made and in
the course of which everybody outside let go of it -/
structure Abandoned (h : Hub) (as : List Act) : Prop where
  /-- an event comes in when its publisher is told that it was accepted -/
  published : ∀ before events after, as = before ++ .op (.publish events) :: after →
    ∃ outcomes, (h.acts as).producers[(h.acts before).producers.length]? =
        some ⟨events.drop outcomes.length, outcomes⟩ ∧
      putIn events outcomes = Trace.record act (incoming (h.acts before).producers.length)
        ((h.acts before).act (.op (.publish events))) after
  /-- the hub handles the events that come in in their order; those that it has not handled are queued -/
  events : Trace.record act (due Errand.event?) h as ++ (h.acts as).relay.queue =
    Trace.record act (gained (·.relay.queue)) h as
  /-- all clients come into the registry in their order; the others wait for it -/
  entrants : Trace.record act (due Errand.entrant?) h as ++ (h.acts as).registrations =
    List.range' 1 (h.acts as).clients.length
  /-- so do those who wait to be taken out -/
  leavers : Trace.record act (due Errand.leaver?) h as ++ (h.acts as).unregistrations =
    Trace.record act (gained unregistrations) h as
  /-- at its turn the hub does its errand, or waits without one; clients come before events -/
  rules : ∀ now, (h.acts as).step now = none ∧ (h.acts as).errand? = none ∨
    ∃ k, (h.acts as).step now = some k ∧ Work (h.acts as) now (h.acts as).errand? k
  /-- the figures count what was done -/
  books : Booked h (h.acts as) (Trace.record act entered h as) (Trace.record act evicted h as)
    (Trace.record act removed h as) (Trace.record act fates h as)
  /-- nothing that was delivered is lost -/
  channels : ∀ id, takings id h as ++ (h.acts as).queued id = deliveries id h as
  /-- the hub closes down only when nothing waits for it, and nobody can send it anything any more -/
  last : ∀ a, (h.acts as).isOpen = true → ((h.acts as).act a).isOpen = false → (h.acts as).Idle
  /-- then it has done everything -/
  complete : (h.acts as).isOpen = false →
    Trace.record act (due Errand.event?) h as = Trace.record act (gained (·.relay.queue)) h as ∧
      Trace.record act (due Errand.entrant?) h as = List.range' 1 (h.acts as).clients.length ∧
      Trace.record act (due Errand.leaver?) h as = Trace.record act (gained unregistrations) h as
  /-- and every channel ends after what is queued in it -/
  closed : (h.acts as).isOpen = false → ClosedDown (h.acts as)
  /-- whatever moves the tasks make, the hub comes to its end -/
  ends : ∀ now, (h.acts as).ComesToEnd now

/-- nobody outside has a hold on a hub that was let go of -/
theorem held_of_released (hs : Sound h) (before after : List Act) :
    (h.acts (before ++ .op .release :: after)).held = false := by
  have hs₀ := (kept_acts (P := fun _ => True) (fun _ _ _ _ => trivial) hs trivial before).1
  rw [acts_append]
  exact (kept_acts (P := fun k => k.held = false) (fun _ a hk hheld => held_act hk hheld a)
    (sound_act hs₀ (.op .release)) rfl after).2

/-- what came in since a hub was made is done, in its order, or still waits -/
theorem errands_of_create {config : HubConfig} (hh : Hub.create config = .ok h) {as : List Act}
    (has : ∀ a ∈ as, a ≠ .op .stop) :
    Trace.record act (due Errand.event?) h as ++ (h.acts as).relay.queue =
        Trace.record act (gained (·.relay.queue)) h as ∧
      Trace.record act (due Errand.entrant?) h as ++ (h.acts as).registrations =
        List.range' 1 (h.acts as).clients.length ∧
      Trace.record act (due Errand.leaver?) h as ++ (h.acts as).unregistrations =
        Trace.record act (gained unregistrations) h as := by
  have hs := sound_create hh
  have ho := orderly_create hh
  have hv := serving_create hh
  obtain ⟨hclients, -, hregistrations, hunregistrations, -⟩ := create_ok hh
  obtain ⟨-, -, hempty⟩ := untouched_create hh
  have hevents := feeds_events.acts hs ho hv has
  have hentrants := feeds_registrations.acts hs ho hv has
  have hleavers := feeds_unregistrations.acts hs ho hv has
  rw [hempty, List.nil_append] at hevents
  rw [hunregistrations, List.nil_append] at hleavers
  rw [hregistrations, List.nil_append, (record_registrations hs as).1, hclients, List.length_nil, Nat.zero_add,
    Nat.sub_zero] at hentrants
  exact ⟨hevents.symm, hentrants.symm, hleavers.symm⟩

/-- **An abandoned hub finishes its work and then ends.** For all sizes and intervals, all that happened before everybody
outside let go of it, and all that happens later: background tasks that still publish, pings that are sent or in line,
clients that take events or hang up, and time. -/
theorem abandoned {config : HubConfig} (hh : Hub.create config = .ok h) {before after : List Act}
    (hb : ∀ a ∈ before, a ≠ .op .stop) (ha : ∀ a ∈ after, a ≠ .op .stop) :
    Abandoned h (before ++ .op .release :: after) := by
  have hs := sound_create hh
  have ho := orderly_create hh
  have has : ∀ a ∈ before ++ .op .release :: after, a ≠ .op .stop :=
    List.forall_mem_append.2 ⟨hb, List.forall_mem_cons.2 ⟨by simp, ha⟩⟩
  have hheld := held_of_released hs before after
  generalize before ++ .op .release :: after = as at has hheld
  obtain ⟨hs', ho', ha'⟩ := kept_acts (P := fun k => Orderly k ∧ Attended k)
    (fun _ a hk hka => ⟨orderly_act hk hka.1 a, attended_act hk hka.2 a⟩) hs ⟨ho, attended_create hh⟩ as
  have hv' := serving_acts hs ho (serving_create hh) has
  obtain ⟨hevents, hentrants, hleavers⟩ := errands_of_create hh has
  refine
    { published := fun before events after has => ?_
      events := hevents
      entrants := hentrants
      leavers := hleavers
      rules := fun now => ?_
      books := booked_acts hs as
      channels := fun id => ?_
      last := fun a hopen hclosed => idle_of_closing hs' hv' hopen hclosed
      complete := fun hclosed => ?_
      closed := fun hclosed => closedDown ⟨hs', ho', hclosed⟩
      ends := comesToEnd hs' ho' ha' hheld }
  · obtain ⟨hs₀, ha₀⟩ := kept_acts (P := Attended) (fun _ a hk hka => attended_act hk hka a) hs
      (attended_create hh) before
    rw [has, acts_append]
    exact published_acts hs₀ ha₀ events after
  · rcases hk : (h.acts as).step now with _ | k
    · exact Or.inl ⟨rfl, errand?_of_waits hk⟩
    · exact Or.inr ⟨k, rfl, work hk⟩
  · have hnone : h.queued id = [] := by simp [queued, client?, (create_ok hh).1]
    have hchannel := channels_acts hs as id
    rw [hnone, List.nil_append] at hchannel
    exact hchannel.symm
  · obtain ⟨-, hnoEntrants, hnoLeavers, -⟩ := hs'.closed hclosed
    rw [hnoEntrants, List.append_nil] at hentrants
    rw [hnoLeavers, List.append_nil] at hleavers
    rw [hv'.empty hclosed, List.append_nil] at hevents
    exact ⟨hevents, hentrants, hleavers⟩

/-- one client is in, another one waits to get in, one event is queued and its publisher has another one when everybody
lets go of the hub; a ping comes in between -/
theorem abandoned_two :
    ∃ h before after, Hub.create {} = .ok h ∧ (h.acts before).held = true ∧
      (h.acts before).registry = [1] ∧ (h.acts before).registrations = [2] ∧ (h.acts before).relay.queue = [.newBlock] ∧
      (h.acts (before ++ .op .release :: after)).phase = .stopped ∧
      Trace.record act (due Errand.event?) h (before ++ .op .release :: after) = [.newBlock, .ping, .newBlock] ∧
      (h.acts (before ++ .op .release :: after)).queued 1 = [.newBlock, .newBlock] ∧
      Abandoned h (before ++ .op .release :: after) := by
  refine ⟨_, [.op .register, .op (.turn 0), .op (.turn 0), .op (.subscribe 1 ⟨.newBlock, none⟩), .op .register,
    .op (.publish [.newBlock, .newBlock]), .op (.produce 0 0)],
    [.op (.beat 45000), .op (.produce 0 45000), .op (.turn 45000), .op (.turn 45000), .op (.turn 45000),
      .op (.turn 45000), .op (.turn 45000), .op (.tick 45000), .op (.tick 45000), .op (.beat 45000),
      .op (.turn 45000)], rfl, ?_, ?_, ?_, ?_, ?_, ?_, ?_, ?_⟩
  · rfl
  · rfl
  · rfl
  · rfl
  · rfl
  · rfl
  · rfl
  · exact abandoned (show Hub.create {} = .ok _ from rfl) (by simp) (by simp)

end ChainFeed.Hub
