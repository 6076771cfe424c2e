/-
What is on its way through a hub was let in.

- `dropped_apply`: an event that is fit to be handled is not dropped.
- `Fed`: every event on its way is fit, but for the strays that were let in all the same, and nothing was dropped as
  long as there are none; `fed_apply`: every operation keeps it.
-/
import ChainFeed.Proofs.Hub.Accounting
import ChainFeed.Proofs.Hub.Trail

namespace ChainFeed

/-- whether the hub can use an event: it is well formed, and not a request -/
def Event.isFit (e : Event) : Bool :=
  e.isValid && !e.isRequest

namespace Hub

/-- the event is fit, or one of those that were let in all the same -/
def Admitted (strays : List Event) (e : Event) : Prop :=
  e.isFit = true ∨ e ∈ strays

/-- every event on its way to a hub was admitted, and the hub has dropped none as long as no strays were let in -/
structure Fed (strays : List Event) (h : Hub) : Prop where
  sound : Sound h
  remaining : ∀ (task : Nat) p, h.producers[task]? = some p → ∀ e ∈ p.remaining, Admitted strays e
  offers : h.relay.Offers fun x => Admitted strays x.event
  queue : ∀ e ∈ h.relay.queue, Admitted strays e
  dropped : strays = [] → h.totals.dropped = 0

variable {strays strays' : List Event} {h k : Hub}

theorem Admitted.mono {e : Event} (hsub : strays ⊆ strays') (he : Admitted strays e) : Admitted strays' e :=
  he.imp_right fun hin => hsub hin

theorem Fed.mono (hsub : strays ⊆ strays') (hf : Fed strays h) : Fed strays' h where
  sound := hf.sound
  remaining task p hp e he := (hf.remaining task p hp e he).mono hsub
  offers x hx := Admitted.mono hsub (hf.offers x hx)
  queue e he := (hf.queue e he).mono hsub
  dropped hnone := hf.dropped (List.subset_nil.1 (hnone ▸ hsub))

theorem fed_create {config : HubConfig} (hh : Hub.create config = .ok h) : Fed [] h := by
  obtain ⟨hproducers, hwaiting, hqueue⟩ := untouched_create hh
  refine ⟨sound_create hh, by simp [hproducers], by simp [Relay.Offers, hwaiting], by simp [hqueue], fun _ => ?_⟩
  rw [totals_create hh]

theorem fate_fit {e : Event} (he : e.isFit = true) : h.fate e ≠ .dropped := by
  have hfit : (!e.isValid || e.isRequest) = false := by simpa [Event.isFit] using he
  unfold fate
  rw [hfit]
  split_ifs <;> simp_all

theorem mem_queue_of_errand? {e : Event} (he : h.errand? = some (.handle e)) : e ∈ h.relay.queue := by
  unfold errand? at he
  split_ifs at he
  split at he <;> cases he
  simp [*]

/-- an event that is handled is dropped only if it is a stray -/
theorem dropped_apply (hf : Fed strays h) (op : Op) (hnone : strays = []) : (h.apply op).totals.dropped = 0 := by
  have hbooked := (booked_act hf.sound (.op op)).dropped
  have hfates : (h.fates (.op op)).count .dropped = 0 := by
    unfold fates errandOf?
    by_cases ht : (Act.op op).asOp.isTurn = true
    · rw [if_pos ht]
      split
      · rename_i e he
        rcases hf.queue e (mem_queue_of_errand? he) with hfit | hstray
        · simp [fate_fit hfit]
        · simp [hnone] at hstray
      · rfl
    · rw [if_neg ht]
      rfl
  calc (h.apply op).totals.dropped = h.totals.dropped + (h.fates (.op op)).count .dropped := hbooked
    _ = 0 := by rw [hf.dropped hnone, hfates]

/-- what clients do among themselves leaves the events alone that are on their way -/
theorem Fed.still (hf : Fed strays h) (hs : Sound k) (hk : Still h k) (hd : strays = [] → k.totals.dropped = 0) :
    Fed strays k where
  sound := hs
  remaining := hk.producers ▸ hf.remaining
  offers := hk.relay ▸ hf.offers
  queue := hk.relay ▸ hf.queue
  dropped := hd

/-- an origin puts in what was admitted -/
theorem Fed.grown {o : Origin} (hf : Fed strays h) (hs : Sound k)
    (hg : h.relay.Grown (fun x => Admitted strays x.event) o k.relay)
    (remaining : ∀ (task : Nat) p, k.producers[task]? = some p → ∃ q, h.producers[task]? = some q ∧
      p.remaining <:+ q.remaining) (hd : strays = [] → k.totals.dropped = 0) : Fed strays k where
  sound := hs
  remaining task p hp e he := by
    obtain ⟨q, hq, hsuffix⟩ := remaining task p hp
    exact hf.remaining task q hq e (hsuffix.subset he)
  offers := hg.offers
  queue e he := by
    obtain ⟨new, hqueue, hnew⟩ := hg.queue
    rw [hqueue] at he
    exact (List.mem_append.1 he).elim (hf.queue e) (hnew e)
  dropped := hd

/-- **Every operation keeps it that what is on its way was admitted**, if what is published anew is. -/
theorem fed_apply (hf : Fed strays h) (op : Op)
    (hnew : ∀ events, op = .publish events → ∀ e ∈ events, Admitted strays e) :
    Fed strays (h.apply op) := by
  have hs := sound_apply hf.sound op
  have hd := dropped_apply hf op
  cases hq : op.isQuiet with
  | true => exact hf.still hs (still_apply h hq) hd
  | false =>
    cases op with
    | publish events =>
      refine ⟨hs, fun task p hp e he => ?_, hf.offers, hf.queue, hd⟩
      change (h.producers ++ [{ remaining := events }])[task]? = some p at hp
      rw [List.getElem?_append] at hp
      split_ifs at hp
      · exact hf.remaining task p hp e he
      · obtain ⟨-, rfl⟩ : task - h.producers.length = 0 ∧ ({ remaining := events } : Producer) = p := by
          simpa [List.getElem?_singleton] using hp
        exact hnew events rfl e he
    | produce task now =>
      obtain ⟨hgrown, -, -, hremaining⟩ :=
        grown_produce (P := fun x => Admitted strays x.event) now hf.offers (hf.remaining task)
      exact hf.grown hs hgrown hremaining hd
    | turn now =>
      obtain ⟨hwaiting, hqueue⟩ := relay_turn hf.sound now
      refine ⟨hs, ?_, fun x hx => hf.offers x (hwaiting ▸ hx), fun e he => hf.queue e (hqueue.subset he), hd⟩
      rw [producers_turn hf.sound now]
      exact hf.remaining
    | tick now =>
      refine hf.still hs ?_ hd
      simp only [apply, tickerStep]
      cases h.ticker.step now <;> exact ⟨rfl, rfl, fun _ => List.suffix_refl _⟩
    | beat now =>
      simp only [apply, heartbeatStep] at hs hd ⊢
      cases hb : h.heartbeat.step h.relay now h.isHeld h.shutdown with
      | none => exact hf
      | some x =>
        rw [hb] at hs hd
        have hping : Admitted strays .ping := Or.inl rfl
        have hgrown := Heartbeat.grown_step (P := fun x => Admitted strays x.event) hf.offers hping hb
        exact hf.grown hs hgrown (fun i q hq => ⟨q, hq, List.suffix_refl _⟩) hd
    | _ => cases hq

theorem fed_run (hf : Fed strays h) {ops : List Op} (hq : ∀ op ∈ ops, op.isQuiet = true) : Fed strays (h.run ops) := by
  induction ops generalizing h with
  | nil => exact hf
  | cons op ops ih =>
    obtain ⟨hop, hops⟩ := List.forall_mem_cons.1 hq
    refine ih (fed_apply hf op ?_) hops
    rintro events rfl
    cases hop

end Hub

end ChainFeed
