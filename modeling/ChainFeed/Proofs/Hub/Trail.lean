/-
Where the events come from that are on their way through the hub.

A trail goes along with a hub and changes nothing in it. It holds what each background task was given to publish, and
for every event in the relay and in the channels who put it into the relay: an event that enters a channel comes from
where the event comes from that the hub handles at that moment.

- `Fits`: the trail lists the events that are on their way, and each was published by whom the trail names.
- `fits_apply`: a trail that follows the hub through an operation fits it.
- `fits_still`: so does one that follows it through what clients do among themselves, however much that is.
-/
import ChainFeed.Proofs.Hub.FanOut
import ChainFeed.Proofs.Hub.Machinery

namespace ChainFeed

/-- an event on its way, with who put it into the relay -/
structure Stamped where
  event : Event
  origin : Origin
deriving DecidableEq

/-! ## Queues with stamps -/

section

variable {P Q : Stamped → Prop} {stamps : List Stamped} {queue queue' : List Event} {origin : Origin}

/-- the stamps are those of the events in the queue, and of a kind -/
structure Stamps (P : Stamped → Prop) (stamps : List Stamped) (queue : List Event) : Prop where
  events : stamps.map (·.event) = queue
  all : ∀ x ∈ stamps, P x

/-- the stamps of a queue that has changed to `queue`: what has come in at its end has the given origin -/
def carried (stamps : List Stamped) (queue : List Event) (origin : Origin) : List Stamped :=
  stamps.drop (stamps.length - queue.length) ++ (queue.drop stamps.length).map (⟨·, origin⟩)

theorem Stamps.mono (hs : Stamps P stamps queue) (hpq : ∀ x, P x → Q x) : Stamps Q stamps queue :=
  ⟨hs.events, fun x hx => hpq x (hs.all x hx)⟩

theorem Stamps.length (hs : Stamps P stamps queue) : stamps.length = queue.length := by
  rw [← hs.events, List.length_map]

/-- events are taken from the front of the queue, or put in at its end -/
theorem Stamps.carry (hs : Stamps P stamps queue)
    (hq : queue' <:+ queue ∨ ∃ new, queue' = queue ++ new ∧ ∀ e ∈ new, P ⟨e, origin⟩) :
    Stamps P (carried stamps queue' origin) queue' := by
  have hlen := hs.length
  rcases hq with hsuffix | ⟨new, rfl, hnew⟩
  · have hcarry : carried stamps queue' origin = stamps.drop (queue.length - queue'.length) := by
      simp [carried, hlen, hsuffix.length_le]
    rw [hcarry]
    refine ⟨?_, fun x hx => hs.all x (List.mem_of_mem_drop hx)⟩
    rw [List.map_drop, hs.events]
    exact (List.suffix_iff_eq_drop.1 hsuffix).symm
  · have hcarry : carried stamps (queue ++ new) origin = stamps ++ new.map (⟨·, origin⟩) := by
      rw [carried, hlen, List.drop_left, List.length_append, Nat.sub_eq_zero_of_le (Nat.le_add_right _ _),
        List.drop_zero]
    rw [hcarry]
    refine ⟨by simp [hs.events, Function.comp_def], fun x hx => ?_⟩
    rcases List.mem_append.1 hx with hx | hx
    · exact hs.all x hx
    · obtain ⟨e, he, rfl⟩ := List.mem_map.1 hx
      exact hnew e he

/-- the queue stays -/
theorem Stamps.same (hs : Stamps P stamps queue) : Stamps P (carried stamps queue origin) queue :=
  hs.carry (Or.inl (List.suffix_refl _))

end

/-! ## What enters the relay -/

namespace Relay

variable {P : Stamped → Prop} {r r' : Relay} {o : Origin} {e : Event} {now patience : Nat}
  {outcome : Option Outcome}

/-- the offers in line are of a kind -/
def Offers (P : Stamped → Prop) (r : Relay) : Prop :=
  ∀ x ∈ r.waiting, P ⟨x.event, x.origin⟩

/-- `r'` is `r` after events of a kind, all from the one origin, were put in -/
structure Grown (P : Stamped → Prop) (o : Origin) (r r' : Relay) : Prop where
  offers : r'.Offers P
  queue : ∃ new, r'.queue = r.queue ++ new ∧ ∀ e ∈ new, P ⟨e, o⟩

theorem Grown.quiet (hoffers : r'.Offers P) (hq : r'.queue = r.queue) : Grown P o r r' :=
  ⟨hoffers, [], by simp [hq], by simp⟩

theorem Offers.withdraw (hw : r.Offers P) (o : Origin) : (r.withdraw o).Offers P := fun x hx =>
  hw x (List.mem_of_mem_filter hx)

/-- an origin puts in what it offers now, or what it has offered before -/
theorem grown_attempt (hw : r.Offers P) (he : P ⟨e, o⟩) (hr : r.attempt o e now patience = some (r', outcome)) :
    Grown P o r r' := by
  unfold attempt at hr
  by_cases hc : (!r.receiving) = true
  · rw [if_pos hc] at hr
    cases hr
    exact .quiet (hw.withdraw o) rfl
  · rw [if_neg hc] at hr
    cases ho : r.offer? o with
    | none =>
      simp only [ho] at hr
      split_ifs at hr <;> cases hr
      · exact ⟨hw, [e], rfl, by simpa using he⟩
      · refine .quiet (fun x hx => ?_) rfl
        rcases List.mem_append.1 hx with hx | hx
        · exact hw x hx
        · rw [List.mem_singleton.1 hx]
          exact he
    | some offer =>
      have hmine : P ⟨offer.event, o⟩ := by
        have horigin : offer.origin = o := by simpa using List.find?_some ho
        exact horigin ▸ hw offer (List.mem_of_find?_eq_some ho)
      simp only [ho] at hr
      split_ifs at hr <;> cases hr
      · exact ⟨hw.withdraw o, [offer.event], rfl, by simpa using hmine⟩
      · exact .quiet (hw.withdraw o) rfl

end Relay

/-- the heartbeat puts nothing in but pings -/
theorem Heartbeat.grown_step {P : Stamped → Prop} {b b' : Heartbeat} {r r' : Relay} {now : Nat} {held shutdown : Bool}
    (hw : r.Offers P) (hp : P ⟨.ping, .heartbeat⟩) (hb : b.step r now held shutdown = some (b', r')) :
    r.Grown P .heartbeat r' := by
  have hbeat : ∀ {b b' : Heartbeat}, b.beat r now = some (b', r') → r.Grown P .heartbeat r' := fun hb => by
    unfold beat at hb
    split at hb <;> cases hb <;> exact Relay.grown_attempt hw hp ‹_›
  unfold step at hb
  split_ifs at hb
  · cases hb
    exact .quiet (hw.withdraw _) rfl
  · exact hbeat hb
  · exact hbeat hb
  · cases hb
    exact .quiet hw rfl

namespace Hub

/-! ## Trails -/

/-- who puts events into the relay in an operation, if anybody does -/
def Op.origin : Op → Origin
  | .produce task _ => .producer task
  | _ => .heartbeat

/-- where the events come from that are on their way -/
structure Trail where
  /-- what each background task was given to publish -/
  tasks : List (List Event) := []
  relay : List Stamped := []
  channels : ClientId → List Stamped := fun _ => []

namespace Trail

/-- who has put in the event that the hub handles next -/
def next (t : Trail) : Origin :=
  (t.relay.head?.map (·.origin)).getD .heartbeat

/-- the trail after the hub has become `k`, where what enters the relay is from `origin` -/
def follow (t : Trail) (origin : Origin) (k : Hub) : Trail where
  tasks := t.tasks ++ (k.producers.drop t.tasks.length).map (·.remaining)
  relay := carried t.relay k.relay.queue origin
  channels id := carried (t.channels id) (k.queued id) t.next

/-- the event was published by its origin -/
def Published (t : Trail) (x : Stamped) : Prop :=
  match x.origin with
  | .heartbeat => x.event = .ping
  | .producer task => ∃ events, t.tasks[task]? = some events ∧ x.event ∈ events

/-- the event was published by its origin, or is a flush signal, which transactions can cause -/
def Caused (t : Trail) (x : Stamped) : Prop :=
  x.event = .newTxs ∨ t.Published x

/-- the trail lists the events that are on their way, each published by whom it names -/
structure Fits (t : Trail) (h : Hub) : Prop where
  tasks : t.tasks.length = h.producers.length
  remaining : ∀ (task : Nat) p, h.producers[task]? = some p → ∀ e ∈ p.remaining, t.Published ⟨e, .producer task⟩
  offers : h.relay.Offers t.Published
  relay : Stamps t.Published t.relay h.relay.queue
  channels : ∀ id, Stamps t.Caused (t.channels id) (h.queued id)

/-- what tasks were given stays -/
theorem published_extend {t t' : Trail} (ht : t.tasks <+: t'.tasks) {x : Stamped} (hx : t.Published x) :
    t'.Published x := by
  unfold Published at hx ⊢
  cases ho : x.origin with
  | heartbeat => simpa [ho] using hx
  | producer task =>
    simp only [ho] at hx ⊢
    obtain ⟨events, hevents, he⟩ := hx
    obtain ⟨more, hmore⟩ := ht
    refine ⟨events, ?_, he⟩
    rw [← hmore, List.getElem?_append_left (List.getElem?_eq_some_iff.1 hevents).1, hevents]

theorem Published.lt {t : Trail} {e : Event} {task : Nat} (hp : t.Published ⟨e, .producer task⟩) :
    task < t.tasks.length := by
  obtain ⟨events, hevents, -⟩ := hp
  exact (List.getElem?_eq_some_iff.1 hevents).1

end Trail

open Trail

variable {t : Trail} {h k : Hub}

/-- nothing has come to a hub that was only made -/
theorem untouched_create {config : HubConfig} (hh : Hub.create config = .ok h) :
    h.producers = [] ∧ h.relay.waiting = [] ∧ h.relay.queue = [] := by
  unfold Hub.create Relay.create queuePlaces at hh
  split_ifs at hh <;> cases hh
  exact ⟨rfl, rfl, rfl⟩

theorem fits_create {config : HubConfig} (hh : Hub.create config = .ok h) : Fits {} h := by
  have hclients := (create_ok hh).1
  obtain ⟨hproducers, hwaiting, hqueue⟩ := untouched_create hh
  refine ⟨by simp [hproducers], by simp [hproducers], by simp [Relay.Offers, hwaiting], ⟨by simp [hqueue], by simp⟩,
    fun id => ⟨?_, by simp⟩⟩
  simp [queued, client?, hclients]

/-! ## One step -/

/-- without new tasks the trail has them all -/
theorem tasks_follow (hf : t.Fits h) (origin : Origin) (hk : k.producers.length = h.producers.length) :
    (t.follow origin k).tasks = t.tasks := by
  have hnone : k.producers.drop t.tasks.length = [] := List.drop_eq_nil_of_le (Nat.le_of_eq (hk.trans hf.tasks.symm))
  simp [follow, hnone]

/-- A trail follows a hub that starts no background tasks: what enters the relay was published by the origin given,
and what enters a channel by the origin of the event that is handled. -/
theorem Trail.Fits.follow {origin : Origin} (hf : t.Fits h) (tasks : k.producers.length = h.producers.length)
    (remaining : ∀ (task : Nat) p, k.producers[task]? = some p → ∀ e ∈ p.remaining, t.Published ⟨e, .producer task⟩)
    (offers : k.relay.Offers t.Published)
    (relay : k.relay.queue <:+ h.relay.queue ∨
      ∃ new, k.relay.queue = h.relay.queue ++ new ∧ ∀ e ∈ new, t.Published ⟨e, origin⟩)
    (channels : ∀ id, k.queued id <:+ h.queued id ∨
      ∃ new, k.queued id = h.queued id ++ new ∧ ∀ e ∈ new, t.Caused ⟨e, t.next⟩) :
    (t.follow origin k).Fits k := by
  have htasks := tasks_follow hf origin tasks
  have hpublished : (t.follow origin k).Published = t.Published := by
    funext x
    simp only [Published, htasks]
  have hcaused : (t.follow origin k).Caused = t.Caused := by
    funext x
    simp only [Caused, hpublished]
  refine ⟨?_, ?_, ?_, ?_, fun id => ?_⟩
  · rw [htasks, tasks, hf.tasks]
  · rw [hpublished]
    exact remaining
  · rw [hpublished]
    exact offers
  · rw [hpublished]
    exact hf.relay.carry relay
  · rw [hcaused]
    exact (hf.channels id).carry (channels id)

/-- from `h` to `k` nothing happens to relay and background tasks, and clients take events out of channels at most -/
structure Still (h k : Hub) : Prop where
  producers : k.producers = h.producers
  relay : k.relay = h.relay
  queued : ∀ id, k.queued id <:+ h.queued id

/-- **A trail that follows a hub through what clients do among themselves fits it.** -/
theorem fits_still (hf : t.Fits h) (hk : Still h k) (origin : Origin) : (t.follow origin k).Fits k :=
  hf.follow (by rw [hk.producers]) (hk.producers ▸ hf.remaining) (hk.relay ▸ hf.offers)
    (Or.inl (hk.relay ▸ List.suffix_refl _)) fun id => Or.inl (hk.queued id)

theorem still_apply (h : Hub) {op : Op} (hq : op.isQuiet = true) : Still h (h.apply op) := by
  have hm := machinery_apply h hq
  simp only [machinery, Prod.mk.injEq] at hm
  refine ⟨hm.2.2.2, hm.1, ?_⟩
  intro id
  by_cases htake : ∃ j, op = .take j
  · obtain ⟨j, rfl⟩ := htake
    exact ⟨_, queued_take h j id⟩
  · have ht : op.isTurn = false := by cases op <;> first | rfl | cases hq
    exact queued_effect (effect h ht) (fun j hj => htake ⟨j, hj⟩) id ▸ List.suffix_refl _

theorem still_run (h : Hub) {ops : List Op} (hq : ∀ op ∈ ops, op.isQuiet = true) : Still h (h.run ops) := by
  induction ops generalizing h with
  | nil => exact ⟨rfl, rfl, fun _ => List.suffix_refl _⟩
  | cons op ops ih =>
    obtain ⟨hop, hops⟩ := List.forall_mem_cons.1 hq
    have hone := still_apply h hop
    have hrest := ih (h.apply op) hops
    exact ⟨hrest.producers.trans hone.producers, hrest.relay.trans hone.relay,
      fun id => (hrest.queued id).trans (hone.queued id)⟩

/-- a background task is started -/
theorem fits_publish (hf : t.Fits h) (events : List Event) (origin : Origin) :
    (t.follow origin (h.publish events).1).Fits (h.publish events).1 := by
  have htasks : (t.follow origin (h.publish events).1).tasks = t.tasks ++ [events] := by
    simp [Trail.follow, publish, hf.tasks]
  have hextend : ∀ x, t.Published x → (t.follow origin (h.publish events).1).Published x := by
    intro x hx
    exact published_extend (htasks ▸ List.prefix_append _ _) hx
  refine ⟨?_, ?_, ?_, hf.relay.same.mono hextend, ?_⟩
  · rw [htasks]
    simp [publish, hf.tasks]
  · intro task p hp e he
    change (h.producers ++ [{ remaining := events }])[task]? = some p at hp
    rw [List.getElem?_append] at hp
    split_ifs at hp with hlt
    · exact hextend _ (hf.remaining task p hp e he)
    · -- the new task publishes its own events
      obtain ⟨hlast, rfl⟩ : task - h.producers.length = 0 ∧ ({ remaining := events } : Producer) = p := by
        simpa [List.getElem?_singleton] using hp
      have htask : task = t.tasks.length := by
        rw [hf.tasks]
        omega
      exact ⟨events, by rw [htasks, htask, List.getElem?_concat_length], he⟩
  · intro x hx
    exact hextend _ (hf.offers x hx)
  · intro id
    exact (hf.channels id).same.mono fun x => Or.imp_right (hextend x)

/-- a background task puts in what it was given, and the heartbeat pings -/
theorem fits_grown {origin : Origin} {r : Relay} (hf : t.Fits h) (hg : h.relay.Grown t.Published origin r)
    (relay : k.relay = r) (clients : k.clients = h.clients) (tasks : k.producers.length = h.producers.length)
    (remaining : ∀ (task : Nat) p, k.producers[task]? = some p → ∃ q, h.producers[task]? = some q ∧
      p.remaining <:+ q.remaining) : (t.follow origin k).Fits k := by
  subst relay
  refine hf.follow tasks ?_ hg.offers (Or.inr hg.queue) ?_
  · intro task p hp e he
    obtain ⟨q, hq, hsuffix⟩ := remaining task p hp
    exact hf.remaining task q hq e (hsuffix.subset he)
  · intro id
    have hqueued : k.queued id = h.queued id := by simp [queued, client?, clients]
    exact Or.inl (hqueued ▸ List.suffix_refl _)

/-- a background task puts in what it was given -/
theorem grown_produce {P : Stamped → Prop} {task : Nat} (now : Nat) (hw : h.relay.Offers P)
    (hmine : ∀ p, h.producers[task]? = some p → ∀ e ∈ p.remaining, P ⟨e, .producer task⟩) :
    h.relay.Grown P (.producer task) (h.apply (.produce task now)).relay ∧
      (h.apply (.produce task now)).clients = h.clients ∧
      (h.apply (.produce task now)).producers.length = h.producers.length ∧
      ∀ (i : Nat) q, (h.apply (.produce task now)).producers[i]? = some q → ∃ p, h.producers[i]? = some p ∧
        q.remaining <:+ p.remaining := by
  simp only [apply]
  cases hk : h.producerStep task now with
  | none => exact ⟨.quiet hw rfl, rfl, rfl, fun i q hq => ⟨q, hq, List.suffix_refl _⟩⟩
  | some k =>
    rw [Option.getD_some]
    unfold producerStep at hk
    split at hk
    · cases hk
    · rename_i p hp
      split at hk
      · cases hk
      · rename_i e rest he
        have hoffered : P ⟨e, .producer task⟩ := hmine p hp e (by simp [he])
        split at hk
        · cases hk
        · rename_i relay ha
          cases hk
          exact ⟨Relay.grown_attempt hw hoffered ha, rfl, rfl, fun i q hq => ⟨q, hq, List.suffix_refl _⟩⟩
        · rename_i relay outcome ha
          cases hk
          refine ⟨Relay.grown_attempt hw hoffered ha, rfl, by simp, fun i q hq => ?_⟩
          rw [List.getElem?_set] at hq
          split_ifs at hq with hi
          · subst hi
            cases hq
            exact ⟨p, hp, by simp [he]⟩
          · exact ⟨q, hq, List.suffix_refl _⟩

theorem fits_produce (hf : t.Fits h) (task now : Nat) :
    (t.follow (.producer task) (h.apply (.produce task now))).Fits (h.apply (.produce task now)) := by
  obtain ⟨hgrown, hclients, htasks, hremaining⟩ := grown_produce now hf.offers (hf.remaining task)
  exact fits_grown hf hgrown rfl hclients htasks hremaining

theorem fits_beat (hf : t.Fits h) (now : Nat) :
    (t.follow .heartbeat (h.apply (.beat now))).Fits (h.apply (.beat now)) := by
  simp only [apply, heartbeatStep]
  cases hb : h.heartbeat.step h.relay now h.isHeld h.shutdown with
  | none => exact fits_still hf ⟨rfl, rfl, fun _ => List.suffix_refl _⟩ _
  | some p =>
    exact fits_grown hf (Heartbeat.grown_step hf.offers rfl hb) rfl rfl rfl fun i q hq => ⟨q, hq, List.suffix_refl _⟩

/-- the hub's turn takes an event out of the relay at most, or closes it -/
theorem relay_turn (hs : Sound h) (now : Nat) :
    (h.apply (.turn now)).relay.waiting = h.relay.waiting ∧ (h.apply (.turn now)).relay.queue <:+ h.relay.queue := by
  have ht := turn h now
  generalize h.apply (.turn now) = k at ht
  cases ht with
  | closed =>
    rw [drain_eq]
    exact ⟨rfl, List.nil_suffix⟩
  | expelled =>
    unfold expel
    split_ifs <;> exact ⟨by simp [endSending, setRegistry], by simp [endSending, setRegistry]⟩
  | @handled e relay _ took =>
    have hrelay : (({ h with relay } : Hub).handle e).relay = relay :=
      (handle_frame (h := { h with relay }) hs.registry_nodup hs.count e).2.2.2.2.2.2.2.2.1
    rw [hrelay]
    unfold Relay.take? at took
    split at took <;> cases took
    rename_i hq
    exact ⟨rfl, hq ▸ List.suffix_cons _ _⟩
  | _ => exact ⟨rfl, List.suffix_refl _⟩

/-- what the hub puts into a channel comes from the event that it handles -/
theorem caused_accepted (hf : t.Fits h) {id : ClientId} {now : Nat} {e : Event}
    (he : e ∈ accepted id h (.turn now)) : t.Caused ⟨e, t.next⟩ := by
  have hround : h.roundOf? (.turn now) = some e :=
    Option.mem_toList.1 (List.mem_of_mem_filter (List.mem_of_mem_filter he))
  obtain ⟨_, e₀, -, hnext, hr⟩ := roundOf?_eq_some hround
  obtain ⟨-, -, -, ⟨rfl, -⟩ | ⟨rfl, -⟩⟩ := round?_cases hr
  · -- the event that is handled is the first in the relay
    have hhead : (t.relay.map (·.event)).head? = some e := by
      rw [hf.relay.events]
      unfold nextEvent? at hnext
      split_ifs at hnext
      exact hnext
    rw [List.head?_map] at hhead
    obtain ⟨x, hx, rfl⟩ := Option.map_eq_some_iff.1 hhead
    have horigin : t.next = x.origin := by simp [Trail.next, hx]
    rw [horigin]
    exact Or.inr (hf.relay.all x (List.mem_of_head? hx))
  · exact Or.inl rfl

theorem fits_turn (hs : Sound h) (hf : t.Fits h) (now : Nat) (origin : Origin) :
    (t.follow origin (h.apply (.turn now))).Fits (h.apply (.turn now)) := by
  obtain ⟨hwaiting, hqueue⟩ := relay_turn hs now
  have hproducers := producers_turn hs now
  refine hf.follow (by rw [hproducers]) (hproducers ▸ hf.remaining) ?_ (Or.inl hqueue) ?_
  · intro x hx
    exact hf.offers x (hwaiting ▸ hx)
  · intro id
    exact Or.inr ⟨_, queued_turn hs id now, fun e he => caused_accepted hf he⟩

/-- **A trail that follows the hub through an operation fits it.** -/
theorem fits_apply (hs : Sound h) (hf : t.Fits h) (op : Op) : (t.follow op.origin (h.apply op)).Fits (h.apply op) := by
  cases hq : op.isQuiet with
  | true => exact fits_still hf (still_apply h hq) _
  | false =>
    cases op with
    | publish events => exact fits_publish hf events _
    | produce task now => exact fits_produce hf task now
    | turn now => exact fits_turn hs hf now _
    | tick now =>
      refine fits_still hf ?_ _
      simp only [apply, tickerStep]
      cases h.ticker.step now <;> exact ⟨rfl, rfl, fun _ => List.suffix_refl _⟩
    | beat now => exact fits_beat hf now
    | _ => cases hq

end Hub

end ChainFeed
