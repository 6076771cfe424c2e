/-
The end of a hub, as everybody around it sees it.

- `receiveAll_ended`: a client whose channel the hub has closed takes what is queued, and finds the end.
- `publish_refused`: whoever publishes to a hub that has closed down is told so, without waiting.
- `shutdown_final`: once a hub was told to stop it only goes on to its end, whatever else happens, and nothing changes
  after that.
-/
import ChainFeed.Proofs.Hub.Shutdown
import ChainFeed.Proofs.World.Runs

namespace ChainFeed

/-! ## Receivers -/

namespace Hub

theorem receiveMost_ended {queue : List Event} {h : Hub} {id : ClientId} {c : Client}
    (hc : h.client? id = some c) (hq : c.channel.queue = queue) (hs : c.channel.sending = false) :
    (h.receiveMost id (queue.length + 1)).2 = (queue, true) := by
  induction queue generalizing h c with
  | nil =>
    have hnone : h.receive id = none := by simp [receive, hc, Channel.take?, hq]
    simp [receiveMost, hnone, hc, Channel.isFinished, hs, hq]
  | cons e queue ih =>
    have htake : h.receive id =
        some (e, h.modifyClient id ({ · with channel := { c.channel with queue } })) := by
      simp [receive, hc, Channel.take?, hq]
    have hrest := ih (h := h.modifyClient id ({ · with channel := { c.channel with queue } }))
      (c := { c with channel := { c.channel with queue } }) (by simp [client?_modifyClient, hc]) rfl hs
    rw [List.length_cons, receiveMost, htake]
    simp only [hrest]

/-- **The end of a channel.** A client whose channel the hub has closed takes what is queued, and finds the end. -/
theorem receiveAll_ended {h : Hub} {id : ClientId} {c : Client} (hc : h.client? id = some c)
    (hs : c.channel.sending = false) : (h.receiveAll id none).2 = .events (h.queued id) true := by
  have hall := receiveMost_ended hc rfl hs
  simp only [receiveAll, hc, Option.map_some, Option.getD_some, Option.getD_none, queued, Reply.events.injEq]
  exact ⟨congrArg Prod.fst hall, congrArg Prod.snd hall⟩

end Hub

/-! ## Publishers -/

namespace World

variable {w w' : World} {task : Nat} {e : Event}

/-- what every operation on the hub keeps is kept by every move of a task -/
theorem hub_act {P : Hub → Prop} (hp : ∀ h op, P h → P (h.apply op)) {a : Actor} (ha : w.act a = some w')
    (hw : P w.hub) : P w'.hub := by
  obtain ⟨moves, -, rfl⟩ := (Becomes.refl w).act ha
  obtain ⟨ops, hops⟩ := hub_run w moves
  rw [hops]
  exact Trace.run_induction hp hw ops

/-- a background task that offers an event to a closed hub is refused without time passing -/
theorem settle_refused (hw : w.hub.Shut ∧ w.hub.offers task e) : w.settle.hub.refused task := by
  have hlen : task < w.hub.producers.length := by
    rcases hw.2 with hp | hp <;> exact (List.getElem?_eq_some_iff.1 hp).1
  have hin : .producer task ∈ w.actors := by simp [actors, hlen]
  have hshut : ∀ h op, Hub.Shut h ∧ h.offers task e → (h.apply op).Shut ∧ (h.apply op).offers task e :=
    fun h op hh => ⟨Hub.shut_apply hh.1 op, Hub.offers_apply hh.1 hh.2 op⟩
  have hrefused : ∀ h op, Hub.Shut h ∧ h.refused task → (h.apply op).Shut ∧ (h.apply op).refused task :=
    fun h op hh => ⟨Hub.shut_apply hh.1 op, Hub.refused_apply hh.1.sound hh.2 op⟩
  have hmove : ∀ v : World, v.hub.Shut ∧ v.hub.offers task e → (v.hub.Shut ∧ v.hub.refused task) ∨
      ∃ v', v.act (.producer task) = some v' ∧ v'.hub.Shut ∧ v'.hub.refused task := by
    intro v hv
    rcases Hub.refused_of_offers hv.1 hv.2 v.now with hr | ⟨k, hk, hr⟩
    · exact Or.inl ⟨hv.1, hr⟩
    · have hact : v.act (.producer task) = some (v.setHub k) := by simp [act, hk]
      exact Or.inr ⟨v.setHub k, hact, (hub_act hshut hact hv).1, hr⟩
  -- up to its turn in the first round the task keeps its event or is refused, and from there on it is refused
  have hreached := settle_reaches (P := fun u => u.hub.Shut ∧ u.hub.offers task e)
    (Q := fun u => u.hub.Shut ∧ u.hub.refused task) hin (fun _ _ _ hv hvt => hub_act hshut hvt hv)
    (fun _ _ _ hv hvt => hub_act hrefused hvt hv)
    (fun _ hv => Schedule.run_reaches (fun _ _ hv hvt => hub_act hrefused hvt hv) hmove 127 hv) hw
  exact hreached.2

/-- the system as it waits for the outcome of an event that was just offered -/
def offered (w : World) (e : Event) : World :=
  w.setHub (w.hub.publish [e]).1

/-- **Publishing to a hub that has closed down is refused.** Nobody waits for it. -/
theorem publish_refused (hw : w.hub.Shut) (e : Event) : (w.publish e).2 = .error .hubStopped := by
  have hoffers : (w.offered e).hub.Shut ∧ (w.offered e).hub.offers w.hub.producers.length e :=
    ⟨Hub.shut_apply hw (.publish [e]), Or.inl (by simp [offered, setHub, hub, Hub.publish])⟩
  have hr : (w.offered e).settle.hub.producers[w.hub.producers.length]? =
      some { remaining := [], outcomes := [.refused] } := settle_refused hoffers
  have hdone : (w.offered e).settle.isPublished w.hub.producers.length = true := by simp [isPublished, hr]
  have hwait : timed.advanceUntil (fun u => u.isPublished w.hub.producers.length) w.hub.config.publishTimeout
      (w.offered e) = (w.offered e).settle := by
    simp only [Schedule.Timed.advanceUntil, Schedule.Timed.advanceTo]
    exact if_pos hdone
  calc (w.publish e).2
      = Outcome.result (((timed.advanceUntil (fun u => u.isPublished w.hub.producers.length)
          w.hub.config.publishTimeout (w.offered e)).hub.producers[w.hub.producers.length]?.bind
            (·.outcomes.head?)).getD .timedOut) e := by simp only [publish, offered, Hub.publish, setHub, hub]
    _ = Outcome.result .refused e := by rw [hwait, hr]; rfl
    _ = .error .hubStopped := rfl

end World

namespace Hub

/-! ## What is left of a hub that has closed down -/

/-- what everybody finds at a hub that has closed down -/
structure ClosedDown (h : Hub) : Prop where
  nobody : h.registry = [] ∧ h.registrations = [] ∧ h.connections = 0
  /-- every client that was ever made takes what is queued for it, and finds the end of its channel -/
  channels : ∀ id c, h.client? id = some c → (h.receiveAll id none).2 = .events (h.queued id) true
  register : h.register = .ok (.error .hubStopped)
  /-- those who wait for a place among the registrations do not get it -/
  arrive : h.arrive = h
  /-- a session on its way in is told that the hub has stopped -/
  connect : ∀ (s : Session) (p : Publisher), p.hub = h → s.stage = .connecting →
    s.connectStep p = some (p, { s with stage := .refused .hubStopped, inbox := [] })
  unregister : ∀ id, h.unregister id = h
  publish : ∀ (w : World) (e : Event), w.hub = h → (w.publish e).2 = .error .hubStopped
  /-- background tasks, those that wait in line too, are refused one event after the other -/
  produce : ∀ task p e rest now, h.producers[task]? = some p → p.remaining = e :: rest →
    ∃ k, h.producerStep task now = some k ∧
      k.producers[task]? = some { remaining := rest, outcomes := p.outcomes ++ [.refused] }

theorem register_closed {h : Hub} (hc : h.isOpen = false) : h.register = .ok (.error .hubStopped) := by
  simp [register, hc]

theorem closedDown {h : Hub} (hc : Shut h) : ClosedDown h := by
  obtain ⟨hs, ho, hclosed⟩ := hc
  obtain ⟨hregistry, hregistrations, -, -⟩ := hs.closed hclosed
  refine
    { nobody := ⟨hregistry, hregistrations, by rw [hs.count, hregistry]; rfl⟩
      channels := fun id c hid => ?_
      register := register_closed hclosed
      arrive := ?_
      connect := fun s p hp hstage => ?_
      unregister := fun id => by simp [unregister, hclosed]
      publish := fun w e hw => World.publish_refused (by rw [hw]; exact ⟨hs, ho, hclosed⟩) e
      produce := fun task p e rest now hp he => ?_ }
  · have hsending : c.channel.sending = false := by
      have hmember := hs.sending id c hid
      rw [hregistry, hregistrations] at hmember
      simpa using hmember
    exact receiveAll_ended hid hsending
  · unfold arrive
    split
    · rfl
    · simp [hclosed]
  · simp only [Session.connectStep, hstage, hp, register_closed hclosed]
  · have hlen := (List.getElem?_eq_some_iff.1 hp).1
    exact ⟨_, producerStep_closed (ho.closed hclosed).1 hp he, by simp [hlen]⟩

/-! ## Shutdown -/

/-- what holds after a list of things that happen to a hub once it was told to stop -/
structure Closing (h : Hub) (as : List Act) : Prop where
  /-- the phase moves forward, one phase at a time -/
  forward : ∀ a, ((h.acts as).act a).phase = (h.acts as).phase ∨
    (h.acts as).phase.next? = some ((h.acts as).act a).phase
  /-- no event is handled any more -/
  quiet : (h.acts as).nextEvent? = none ∧ (h.acts as).totals = h.totals
  /-- clients only take what was queued before -/
  queued : ∀ id, takings id h as ++ (h.acts as).queued id = h.queued id
  closed : (h.acts as).isOpen = false → ClosedDown (h.acts as)
  /-- a hub that has stopped has no timers, and nothing of it that is told outside changes any more -/
  stopped : (h.acts as).phase = .stopped →
    (h.acts as).ticker.running = false ∧ (h.acts as).heartbeat.running = false ∧
    ∀ more, (h.acts (as ++ more)).phase = .stopped ∧ (h.acts (as ++ more)).stats = (h.acts as).stats
  /-- the hub gets there by moves of its own -/
  ends : ∀ now, (h.acts as).Ends now
  /-- orders to stop, and wishes to be dropped, make no difference -/
  idle : (h.acts as).unasked = (h.acts (as.filter (!·.isIdle))).unasked

/-- **Shutdown is complete and final.** Whatever was done to a hub before it was told to stop, and whatever is done to
it afterwards, it handles no event any more and its phase only moves on to its end, which it reaches by itself. When it
has closed down nobody is left in it, every channel ends after what was queued, and everybody is refused; when it has
stopped, nothing of it changes any more. -/
theorem shutdown_final {config : HubConfig} {h : Hub} (hh : Hub.create config = .ok h) (before after : List Act) :
    Closing (h.acts before).stop after := by
  have hkeep : ∀ k a, Sound k → Orderly k → Orderly (k.act a) := fun _ a hs ho => orderly_act hs ho a
  obtain ⟨hs₀, ho₀⟩ := kept_acts hkeep (sound_create hh) (orderly_create hh) before
  have hs : Sound (h.acts before).stop := sound_act hs₀ (.op .stop)
  have ho : Orderly (h.acts before).stop := orderly_act hs₀ ho₀ (.op .stop)
  have hsd : (h.acts before).stop.shutdown = true := rfl
  obtain ⟨hs', ho'⟩ := kept_acts hkeep hs ho after
  obtain ⟨hsd', htotals⟩ := silent_acts hs hsd after
  refine
    { forward := phase_act hs'
      quiet := ⟨nextEvent?_of_closing (Or.inl hsd'), htotals⟩
      queued := queued_acts hs hsd after
      closed := fun hclosed => closedDown ⟨hs', ho', hclosed⟩
      stopped := fun hp => ⟨(ho'.ended hp).1, (ho'.ended hp).2, fun more => ?_⟩
      ends := fun now => Hub.ends now hs' ho' hsd'
      idle := unasked_acts hs hsd hs hsd rfl after }
  rw [acts_append]
  exact stopped_acts hs' hsd' hp more

/-- one client is in and has an event queued, another one waits to get in and a third comes in late; then the hub
closes down, the first client takes its event, and the timers end -/
theorem shutdown_final_three :
    ∃ h before after, Hub.create {} = .ok h ∧
      (h.acts before).registry = [1] ∧ (h.acts before).registrations = [2] ∧ (h.acts before).queued 1 = [.newBlock] ∧
      ((h.acts before).stop.acts after).clients.length = 3 ∧
      takings 1 (h.acts before).stop after = [.newBlock] ∧
      ((h.acts before).stop.acts after).phase = .stopped ∧ Closing (h.acts before).stop after := by
  refine ⟨_, [.op .register, .op (.turn 0), .op (.turn 0), .op (.subscribe 1 ⟨.newBlock, none⟩),
    .op (.publish [.newBlock]), .op (.produce 0 0), .op (.turn 0), .op .register],
    [.arrive, .op (.unregister 1), .op (.turn 0), .op (.take 1), .op .stop, .op (.tick 0), .op (.beat 0),
      .op (.turn 0)], rfl, ?_, ?_, ?_, ?_, ?_, ?_, ?_⟩
  · rfl
  · rfl
  · rfl
  · rfl
  · rfl
  · rfl
  · exact shutdown_final (show Hub.create {} = .ok _ from rfl) _ _

end Hub

end ChainFeed
