/-
Whether the hub can use what the node accepts.

An event is checked when it comes in, and again when the hub handles it. Main statements:
- `World.fed_move`: a move publishes no other events than those it is asked to publish.
- `Incoming.strays_eq_nil`: what an endpoint has checked is fit, but for a block that pays to something that is no
  address.
- `Server.take_run`, `Server.handle_handled`: what a request does is a run that publishes what it brings, or nothing.
- `Server.accepted_fit`: over every run of a node, what is accepted is fit and nothing is dropped, but for such blocks;
  `Server.accepted_unfit`: with one of them an event is dropped.
-/
import ChainFeed.Proofs.Hub.Admitted
import ChainFeed.Proofs.Node.Ingest

namespace ChainFeed

/-! ## A running system -/

/-- the events that a move is asked to publish -/
def Move.brings : Move → List Event
  | .ask (.publishAll events) => events
  | .ask (.storeBlock r) => Publisher.blockEvents r
  | _ => []

theorem Move.brings_own {m : Move} (hm : m.isOwn = true) : m.brings = [] := by
  cases m with
  | ask => cases hm
  | act | wait => rfl

namespace World

open Hub (Admitted Fed)

variable {strays : List Event} {w : World}

/-- the block that a move stores is the one that it is asked to store -/
theorem eq_of_mem_stored {m : Move} {store : StoredBlock} (hs : store ∈ stored w m) :
    m = .ask (.storeBlock store.report) := by
  unfold stored at hs
  split at hs
  · split at hs
    · rw [List.mem_singleton.1 hs]
    · cases hs
  · cases hs

/-- **Nothing is published but what a move is asked to publish.** -/
theorem fed_move (hf : Fed strays w.hub) {m : Move} (hm : ∀ e ∈ m.brings, Admitted strays e) :
    Fed strays (w.move m).hub := by
  have hp := progress w m
  have hstored : ∀ store ∈ stored w m, m = .ask (.storeBlock store.report) := fun _ => eq_of_mem_stored
  unfold hub
  generalize stored w m = stores, (w.move m).publisher = p at hp hstored
  cases hp with
  | quiet ops _ quiet => exact Hub.fed_run hf quiet
  | hub op _ published =>
    refine Hub.fed_apply hf op fun events he e hin => hm e ?_
    rw [published events he]
    exact hin
  | @stored r =>
    have hsame := hstored _ (List.mem_singleton.2 rfl)
    refine Hub.fed_apply hf (.publish (Publisher.blockEvents r)) fun events he e hin => hm e ?_
    cases he
    rw [hsame]
    exact hin

theorem fed_moves (hf : Fed strays w.hub) {moves : List Move} (hm : ∀ m ∈ moves, ∀ e ∈ m.brings, Admitted strays e) :
    Fed strays (w.run moves).hub := by
  induction moves generalizing w with
  | nil => exact hf
  | cons m moves ih =>
    obtain ⟨hone, hrest⟩ := List.forall_mem_cons.1 hm
    exact ih (fed_move hf hone) hrest

/-- a publication is a move that brings its event, and the wait for the outcome -/
theorem publish_run (w : World) (e : Event) :
    ∃ own : List Move, (∀ m ∈ own, m.isOwn = true) ∧ (w.publish e).1 = w.run (.ask (.publishAll [e]) :: own) := by
  have hwait : (w.publish e).1 = timed.advanceUntil (fun u => u.isPublished (w.hub.publish [e]).2)
      w.hub.config.publishTimeout (w.setHub (w.hub.publish [e]).1) := by simp only [publish]
  obtain ⟨own, hown, hrun⟩ := becomes_advanceUntil (w.setHub (w.hub.publish [e]).1)
    (fun u => u.isPublished (w.hub.publish [e]).2) w.hub.config.publishTimeout
  exact ⟨own, hown, hwait.trans hrun⟩

end World

/-! ## What comes in -/

namespace Incoming

/-- whether the endpoint finds nothing wrong with it -/
def isChecked : Incoming → Bool
  | tx t => t.isValid
  | address a => a.isValid && a.txHash ≠ ""
  | _ => true

/-- whether it is no block with a coinbase transaction that pays to something that is no address -/
def paysAddresses : Incoming → Bool
  | block r => r.coinbaseHash = "" || r.coinbaseAddresses.all isAddress
  | _ => true

/-- the events published for it that the hub cannot use -/
def strays (i : Incoming) : List Event :=
  i.events.filter fun e => !e.isFit

theorem admitted_events {i : Incoming} {e : Event} (he : e ∈ i.events) : Hub.Admitted i.strays e := by
  unfold Hub.Admitted strays
  rw [List.mem_filter]
  cases hfit : e.isFit with
  | true => exact Or.inl rfl
  | false => exact Or.inr ⟨he, rfl⟩

/-- **What an endpoint has checked is fit, but for a block that pays to something that is no address.** -/
theorem strays_eq_nil {i : Incoming} (hi : i.isChecked = true) : i.strays = [] ↔ i.paysAddresses = true := by
  unfold strays
  rw [List.filter_eq_nil_iff]
  cases i with
  | block r =>
    by_cases hh : r.coinbaseHash = ""
    · simp [events, Publisher.blockEvents, paysAddresses, hh, Event.isFit, Event.isValid, Event.isRequest]
    · simp [events, Publisher.blockEvents, paysAddresses, hh, Event.isFit, Event.isValid, Event.isRequest,
        AddressActivity.isValid]
  | tx t => simpa [isChecked, events, paysAddresses, Event.isFit, Event.isValid, Event.isRequest] using hi
  | mempool m => simp [events, paysAddresses, Event.isFit, Event.isValid, Event.isRequest]
  | address a => simpa [isChecked, events, paysAddresses, Event.isFit, Event.isValid, Event.isRequest] using hi
  | sync r => simp [events, paysAddresses, Event.isFit, Event.isValid, Event.isRequest]

theorem paysAddresses_of_not_block {i : Incoming} (hi : ∀ r, i ≠ .block r) : i.paysAddresses = true := by
  cases i with
  | block r => exact absurd rfl (hi r)
  | _ => rfl

/-- what is done for it brings its events -/
theorem brings_asks {i : Incoming} {own : List Move} (hown : ∀ m ∈ own, m.isOwn = true) {m : Move}
    (hm : m ∈ i.asks ++ own) {e : Event} (he : e ∈ m.brings) : e ∈ i.events := by
  rcases List.mem_append.1 hm with hm | hm
  · cases i <;> simp only [asks, List.mem_cons, List.not_mem_nil, or_false] at hm
    case block | tx | address =>
      subst hm
      exact he
    case mempool | sync =>
      rcases hm with rfl | rfl
      · cases he
      · exact he
  · rw [Move.brings_own (hown m hm)] at he
    cases he

end Incoming

namespace Server

open World (publish_run)

variable {s s₁ s' : Server} {response : HttpResponse}

/-- what an endpoint does for what comes in: nothing, or it finds nothing wrong and publishes it -/
structure Taken (s : Server) (i : Incoming) (s' : Server) (response : HttpResponse) : Prop where
  checked : i.isChecked = true
  run : ∃ own : List Move, (∀ m ∈ own, m.isOwn = true) ∧ s'.world = s.world.run (i.asks ++ own)
  block : ∀ r, i = .block r → response.status = 202

/-- a publication, after something was done that publishes nothing -/
theorem taken_publish {i : Incoming} {k : IngestKind} {e : Event} (hp : s₁.publish k e = (s', response))
    (hc : i.isChecked = true) (hb : ∀ r, i ≠ .block r) (pre : List Move)
    (asks : i.asks = pre ++ [.ask (.publishAll [e])])
    (run : s₁.world = s.world.run pre) : Taken s i s' response where
  checked := hc
  run := by
    obtain ⟨own, hown, hrun⟩ := publish_run s₁.world e
    have hworld : s'.world = (s₁.world.publish e).1 := (congrArg (·.1.world) hp).symm
    refine ⟨own, hown, ?_⟩
    rw [hworld, hrun, run, asks, List.append_assoc, World.run_append]
    rfl
  block r hr := absurd hr (hb r)

/-- **An endpoint refuses what comes in, and then it does nothing, or it publishes it.** -/
theorem take_run {i : Incoming} (h : i.take s = .ok (s', response)) :
    (response.status ≠ 202 ∧ s' = s) ∨ Taken s i s' response := by
  cases i with
  | block r =>
    have hanswered := block_answered h
    have hstatus := (hanswered.recorded r rfl).1
    obtain ⟨own, hown, hrun, -⟩ := hanswered.run (by rw [hstatus]; decide)
    exact Or.inr ⟨rfl, ⟨own, hown, hrun⟩, fun _ _ => hstatus⟩
  | tx t =>
    have hboth : s.ingestTx t = (s', response) := Except.ok.inj h
    unfold ingestTx at hboth
    split_ifs at hboth with hvalid
    · exact Or.inr (taken_publish hboth hvalid (by rintro _ ⟨⟩) [] rfl rfl)
    · cases hboth
      exact Or.inl ⟨by decide, rfl⟩
  | mempool m =>
    change s.ingestMempool m = _ at h
    unfold ingestMempool World.setMempool at h
    cases hs : (s.recordIngest .mempool).world.publisher.setMempool (some m) with
    | error e => simp [hs, Except.map] at h
    | ok p =>
      have hsame : s.world.publisher.setMempool (some m) = .ok p := hs
      have hmove : s.world.move (.ask (.setMempool (some m))) = { s.world with publisher := p } := by
        simp [World.move, Command.isPlain, World.perform, World.setMempool, hsame, Except.map]
      simp only [hs, Except.map, Except.ok.injEq] at h
      exact Or.inr (taken_publish h rfl (by rintro _ ⟨⟩) [.ask (.setMempool (some m))] rfl hmove.symm)
  | address a =>
    have hboth : s.ingestAddress a = (s', response) := Except.ok.inj h
    unfold ingestAddress at hboth
    split_ifs at hboth with hvalid
    · exact Or.inr (taken_publish hboth hvalid (by rintro _ ⟨⟩) [] rfl rfl)
    · cases hboth
      exact Or.inl ⟨by decide, rfl⟩
  | sync r =>
    have hboth : s.ingestSync r = (s', response) := Except.ok.inj h
    unfold ingestSync at hboth
    exact Or.inr (taken_publish hboth rfl (by rintro _ ⟨⟩) [.ask (.setReady r.ready)] rfl rfl)

/-! ## Requests -/

/-- what a request brings to an endpoint, if there is one and it can read the body -/
def incoming? (r : HttpRequest) : Option Incoming :=
  match Route.ofPath? r.path with
  | some (.ingest k) => if r.method ∈ (Route.ingest k).methods then (Incoming.read k r).toOption else none
  | _ => none

/-- what a request does: nothing, or it publishes what it brings -/
def Handled (s : Server) (r : HttpRequest) (s' : Server) (response : HttpResponse) : Prop :=
  (s'.world = s.world ∧ (response.status = 202 → incoming? r = none)) ∨
    ∃ i, incoming? r = some i ∧ Taken s i s' response

theorem Handled.congr {r : HttpRequest} (hh : Handled s r s₁ response) (hw : s'.world = s₁.world)
    {response' : HttpResponse} (hr : response'.status = response.status) : Handled s r s' response' := by
  rcases hh with ⟨hworld, hnone⟩ | ⟨i, hi, checked, run, block⟩
  · exact Or.inl ⟨hw.trans hworld, fun hx => hnone (hr ▸ hx)⟩
  · exact Or.inr ⟨i, hi, checked, hw ▸ run, fun b hb => hr.trans (block b hb)⟩

theorem respond_handled {r : HttpRequest} {route : Route} (hp : Route.ofPath? r.path = some route)
    (hm : r.method ∈ route.methods) (h : s.respond route r = .ok (s', response)) : Handled s r s' response := by
  cases route with
  | ingest k =>
    have hin : incoming? r = (Incoming.read k r).toOption := by simp only [incoming?, hp, if_pos hm]
    have htake : s.ingest k r = .ok (s', response) := h
    rw [Incoming.ingest_eq] at htake
    cases hi : Incoming.read k r with
    | error refusal =>
      rw [hi] at htake hin
      cases htake
      exact Or.inl ⟨rfl, fun _ => hin⟩
    | ok i =>
      rw [hi] at htake hin
      rcases take_run htake with ⟨hstatus, rfl⟩ | htaken
      · exact Or.inl ⟨rfl, fun hx => absurd hx hstatus⟩
      · exact Or.inr ⟨i, hin, htaken⟩
  | _ =>
    cases h
    exact Or.inl ⟨rfl, fun _ => by simp only [incoming?, hp]⟩

/-- **A request does nothing, or it publishes what it brings.** -/
theorem handle_handled {r : HttpRequest} {seconds : Float} (h : s.handle r seconds = .ok (s', response)) :
    Handled s r s' response := by
  unfold handle dispatch at h
  cases hp : Route.ofPath? r.path with
  | none =>
    simp only [hp, Except.map, Except.ok.injEq, Prod.mk.injEq] at h
    obtain ⟨rfl, rfl⟩ := h
    exact Or.inl ⟨rfl, fun _ => by simp only [incoming?, hp]⟩
  | some route =>
    simp only [hp] at h
    by_cases hm : r.method ∈ route.methods
    · rw [if_pos hm] at h
      cases hr : s.respond route r with
      | error e => simp [hr, Except.map] at h
      | ok x =>
        have hhandled : Handled s r x.1 x.2 := respond_handled hp hm hr
        simp only [hr, Except.map, Except.ok.injEq, Prod.mk.injEq] at h
        obtain ⟨rfl, rfl⟩ := h
        apply hhandled.congr
        · rfl
        · dsimp only
          split_ifs <;> rfl
    · rw [if_neg hm] at h
      simp only [Except.map, Except.ok.injEq, Prod.mk.injEq] at h
      obtain ⟨rfl, rfl⟩ := h
      exact Or.inl ⟨rfl, fun hx => by cases hx⟩

/-- a request that asks for a websocket brings no event, and any other is answered -/
theorem upgrade_handled {config : SessionConfig} {r : HttpRequest} {answer : Option HttpResponse}
    (h : s.upgrade config r = .ok (s', answer)) :
    (answer = none ∧ s'.world = (s.world.connect { config }).settle) ∨
      ∃ response, answer = some response ∧ Handled s r s' response := by
  unfold upgrade at h
  split_ifs at h
  · cases h
    exact Or.inl ⟨rfl, rfl⟩
  · cases hh : s.handle r 0.0 with
    | error e => simp [hh, Except.map] at h
    | ok x =>
      simp only [hh, Except.map, Except.ok.injEq, Prod.mk.injEq] at h
      obtain ⟨rfl, rfl⟩ := h
      exact Or.inr ⟨x.2, rfl, handle_handled hh⟩

/-! ## Every run of a node -/

/-- what happens to a node; events come in by requests alone -/
inductive Input where
  | request (r : HttpRequest) (seconds : Float)
  /-- a request by a connection that may become a websocket -/
  | upgrade (config : SessionConfig) (r : HttpRequest)
  /-- a message by a websocket -/
  | message (session : Nat) (m : SocketMessage)
  /-- a task makes a move, time passes, or something is done from outside that publishes nothing -/
  | move (m : Move) (silent : m.brings = [])
  /-- what a client without a websocket does -/
  | client (op : Hub.Op) (quiet : op.isQuiet = true)

/-- the node after that; a request that breaks down publishes nothing -/
def step (s : Server) : Input → Server
  | .request r seconds => ((s.handle r seconds).toOption.map (·.1)).getD s
  | .upgrade config r => ((s.upgrade config r).toOption.map (·.1)).getD s
  | .message session m => (s.receive session m).1
  | .move m _ => { s with world := s.world.move m }
  | .client op _ => { s with world := s.world.setHub (s.world.hub.apply op) }

/-- what comes in by a request and is answered 202 -/
def accepting (s : Server) : Input → List Incoming
  | .request r seconds =>
    if (s.handle r seconds).toOption.any fun x => x.2.status = 202 then (incoming? r).toList else []
  | .upgrade config r =>
    if (s.upgrade config r).toOption.any fun x => x.2.any fun response => response.status = 202 then
      (incoming? r).toList
    else []
  | _ => []

def run (s : Server) (inputs : List Input) : Server :=
  Trace.run step s inputs

/-- all that came in and was answered 202 -/
def intake (s : Server) (inputs : List Input) : List Incoming :=
  Trace.record step accepting s inputs

theorem run_concat (s : Server) (inputs : List Input) (i : Input) : s.run (inputs ++ [i]) = (s.run inputs).step i :=
  Trace.run_concat _ _ _ _

theorem intake_concat (s : Server) (inputs : List Input) (i : Input) :
    s.intake (inputs ++ [i]) = s.intake inputs ++ (s.run inputs).accepting i :=
  Trace.record_concat _ _ _ _ _

/-- what an input comes to, with what is accepted of it -/
inductive Stepped (s s' : Server) : List Incoming → Prop
  /-- no events are published -/
  | silent (own : List Move) (brings : ∀ m ∈ own, m.brings = []) (run : s'.world = s.world.run own) : Stepped s s' []
  /-- a request publishes what it brings, which does not tell yet that it is accepted -/
  | published {i : Incoming} {response : HttpResponse} (taken : Taken s i s' response) :
      Stepped s s' (if response.status = 202 then [i] else [])
  | client {op : Hub.Op} (quiet : op.isQuiet = true) (hub : s'.world.hub = s.world.hub.apply op) : Stepped s s' []

theorem Handled.stepped {r : HttpRequest} (hh : Handled s r s' response) :
    Stepped s s' (if response.status = 202 then (incoming? r).toList else []) := by
  rcases hh with ⟨hworld, hnone⟩ | ⟨i, hi, htaken⟩
  · have hempty : (if response.status = 202 then (incoming? r).toList else []) = [] := by
      split_ifs with hstatus
      · rw [hnone hstatus]
        rfl
      · rfl
    rw [hempty]
    exact .silent [] (List.forall_mem_nil _) hworld
  · rw [hi]
    exact .published htaken

/-- a move that publishes nothing, with all that follows from it -/
theorem stepped_settle {m : Move} (hm : m.brings = []) (hw : s'.world = (s.world.move m).settle) : Stepped s s' [] := by
  obtain ⟨⟨own, hown, hrun⟩, -⟩ := (World.Becomes.refl (s.world.move m)).settle
  refine .silent (m :: own) ?_ (hw.trans hrun)
  exact List.forall_mem_cons.2 ⟨hm, fun m' hm' => Move.brings_own (hown m' hm')⟩

/-- **Events come in by requests alone.** -/
theorem step_stepped (s : Server) (i : Input) : Stepped s (s.step i) (s.accepting i) := by
  cases i with
  | request r seconds =>
    simp only [step, accepting]
    cases hx : s.handle r seconds with
    | error e => exact .silent [] (List.forall_mem_nil _) rfl
    | ok x => simpa [Except.toOption] using (handle_handled hx).stepped
  | upgrade config r =>
    simp only [step, accepting]
    cases hx : s.upgrade config r with
    | error e => exact .silent [] (List.forall_mem_nil _) rfl
    | ok x =>
      obtain ⟨s', answer⟩ := x
      rcases upgrade_handled hx with ⟨rfl, hworld⟩ | ⟨response, rfl, hhandled⟩
      · simpa [Except.toOption] using stepped_settle (m := .ask (.connect { config })) rfl hworld
      · simpa [Except.toOption] using hhandled.stepped
  | message session m =>
    let limit := ((s.world.sessions[session]?).map fun c => c.config.maxRequestBytes).getD 0
    exact stepped_settle (m := .ask (.feed session (m.frame (SocketMessage.limit limit)))) rfl rfl
  | move m silent => exact .silent [m] (by simpa using silent) rfl
  | client op quiet => exact .client quiet rfl

open Hub (Fed)

theorem Stepped.fed {strays : List Event} {accepted : List Incoming} (hstep : Stepped s s' accepted)
    (hf : Fed strays s.world.hub) : Fed (strays ++ accepted.flatMap Incoming.strays) s'.world.hub := by
  cases hstep with
  | silent own brings run =>
    rw [run, List.flatMap_nil, List.append_nil]
    refine World.fed_moves hf fun m hm e he => ?_
    rw [brings m hm] at he
    cases he
  | @published i response taken =>
    obtain ⟨own, hown, hrun⟩ := taken.run
    rw [hrun]
    refine World.fed_moves (hf.mono (List.subset_append_left _ _)) fun m hm e he => ?_
    refine (Incoming.admitted_events (Incoming.brings_asks hown hm he)).mono ?_
    by_cases hstatus : response.status = 202
    · simp [hstatus]
    · -- only a block brings strays, and that is accepted
      have hpays : i.paysAddresses = true :=
        Incoming.paysAddresses_of_not_block fun r hr => hstatus (taken.block r hr)
      rw [(Incoming.strays_eq_nil taken.checked).2 hpays]
      exact List.nil_subset _
  | @client op quiet hub =>
    rw [hub, List.flatMap_nil, List.append_nil]
    refine Hub.fed_apply hf op ?_
    rintro events rfl
    cases quiet

theorem fed_create {settings : Settings} (hs : create settings = .ok s) : Fed [] s.world.hub := by
  unfold create at hs
  cases hw : World.create settings.hub.hubConfig (source settings) with
  | error e => simp [hw, Except.map] at hs
  | ok w =>
    simp only [hw, Except.map, Except.ok.injEq] at hs
    subst hs
    exact Hub.fed_create (World.create_ok hw).1

/-- **What is on its way through a node was accepted.** -/
theorem fed_run {settings : Settings} (hs : create settings = .ok s) (inputs : List Input) :
    Fed ((s.intake inputs).flatMap Incoming.strays) (s.run inputs).world.hub := by
  induction inputs using List.reverseRecOn with
  | nil => exact fed_create hs
  | append_singleton inputs i ih =>
    rw [run_concat, intake_concat, List.flatMap_append]
    exact (step_stepped _ i).fed ih

/-- what is accepted is what the endpoint has checked, and it is published -/
theorem accepting_publishes {input : Input} {i : Incoming} (hi : i ∈ s.accepting input) : i.isChecked = true ∧
    ∃ own : List Move, (∀ m ∈ own, m.isOwn = true) ∧ (s.step input).world = s.world.run (i.asks ++ own) := by
  have hstep := s.step_stepped input
  generalize s.accepting input = accepted at hstep hi
  cases hstep with
  | published taken =>
    split_ifs at hi
    · rw [List.mem_singleton.1 hi]
      exact ⟨taken.checked, taken.run⟩
    · cases hi
  | silent | client => cases hi

theorem intake_checked {inputs : List Input} {i : Incoming} (hi : i ∈ s.intake inputs) : i.isChecked = true := by
  induction inputs using List.reverseRecOn with
  | nil => cases hi
  | append_singleton inputs input ih =>
    rw [intake_concat] at hi
    rcases List.mem_append.1 hi with hi | hi
    · exact ih hi
    · exact (accepting_publishes hi).1

/-! ## What is accepted is fit -/

/-- what is known of a node, and of what it has accepted -/
structure Fitting (s : Server) (inputs : List Input) : Prop where
  /-- the events of what is accepted are well formed and no requests, but for a block that pays to something that is no
  address -/
  fit : ∀ i ∈ s.intake inputs,
    (∀ e ∈ i.events, e.isValid = true ∧ e.isRequest = false) ↔ i.paysAddresses = true
  /-- no other events are published for it -/
  published : ∀ before input after, inputs = before ++ input :: after → ∀ i ∈ (s.run before).accepting input,
    ∃ own : List Move, (∀ m ∈ own, m.isOwn = true) ∧
      ((s.run before).step input).world = (s.run before).world.run (i.asks ++ own)
  /-- and no others are on their way -/
  relay : ∀ e ∈ (s.run inputs).world.hub.relay.queue, (e.isValid = true ∧ e.isRequest = false) ∨
    ∃ i ∈ s.intake inputs, i.paysAddresses = false ∧ e ∈ i.events
  /-- without such blocks nothing is ever dropped, whoever is connected -/
  dropped : (∀ i ∈ s.intake inputs, i.paysAddresses = true) →
    (s.run inputs).world.hub.totals.dropped = 0 ∧
      ∀ e ∈ (s.run inputs).world.hub.relay.queue, e.isValid = true ∧ e.isRequest = false

theorem isFit_eq_true {e : Event} : e.isFit = true ↔ e.isValid = true ∧ e.isRequest = false := by
  simp [Event.isFit]

/-- **Whatever a node accepts, its hub can use**, over every run in which events come in by requests alone, as long as
each block that is accepted pays to addresses, or has no coinbase transaction. -/
theorem accepted_fit {settings : Settings} (hs : create settings = .ok s) (inputs : List Input) : Fitting s inputs where
  fit i hi := by
    rw [← Incoming.strays_eq_nil (intake_checked hi), Incoming.strays, List.filter_eq_nil_iff]
    simp only [← isFit_eq_true]
    simp
  published before input after _ i hi := (accepting_publishes hi).2
  relay e he := by
    refine ((fed_run hs inputs).queue e he).imp isFit_eq_true.1 fun hstray => ?_
    obtain ⟨i, hi, hin⟩ := List.mem_flatMap.1 hstray
    refine ⟨i, hi, ?_, (List.mem_filter.1 hin).1⟩
    by_contra hpays
    rw [(Incoming.strays_eq_nil (intake_checked hi)).2 (by simpa using hpays)] at hin
    cases hin
  dropped hpays := by
    have hnone : (s.intake inputs).flatMap Incoming.strays = [] :=
      List.flatMap_eq_nil_iff.2 fun i hi => (Incoming.strays_eq_nil (intake_checked hi)).2 (hpays i hi)
    have hfed := fed_run hs inputs
    rw [hnone] at hfed
    exact ⟨hfed.dropped rfl, fun e he => isFit_eq_true.1 ((hfed.queue e he).resolve_right (by simp))⟩

/-- a client is registered, and a block comes in with a coinbase transaction that pays to something -/
def payment (address : String) : List Input :=
  [.move (.act .hub) rfl, .client .register rfl, .move (.act .hub) rfl,
    .request (post .block ("\x7b\"coinbase_hash\":\"h\",\"coinbase_addresses\":[\"" ++ address ++ "\"]\x7d")) 0.0,
    .move (.act (.producer 0)) rfl, .move (.act (.producer 0)) rfl, .move (.act .hub) rfl, .move (.act .hub) rfl]

/-- a block that pays to an address, and a transaction -/
theorem accepted_fit_two : ∃ s, create {} = .ok s ∧ ∃ inputs, inputs = payment "a" ++ [.request oneTx 0.0] ∧
    (s.intake inputs).map (·.events) = [[.newBlock, .address ⟨"a", "h"⟩], [.newTx { hash := "a" }]] ∧
    (s.intake inputs).all (·.paysAddresses) = true ∧ (s.run inputs).world.hub.totals.events = 2 ∧
    Fitting s inputs := by
  refine ⟨_, rfl, _, rfl, ?_, ?_, ?_, accepted_fit (show create {} = .ok _ from rfl) _⟩
  · decide +kernel
  · decide +kernel
  · decide +kernel

/-- **The coinbase transaction of a block is not checked.** One that pays to an empty text is answered 202, and the hub
drops the event that is published for it. -/
theorem accepted_unfit : ∃ s, create {} = .ok s ∧
    (s.intake (payment "")).map (·.events) = [[.newBlock, .address ⟨"", "h"⟩]] ∧
    Event.isValid (.address ⟨"", "h"⟩) = false ∧ (s.run (payment "")).world.hub.totals.dropped = 1 := by
  refine ⟨_, rfl, ?_, ?_, ?_⟩
  · decide +kernel
  · decide
  · decide +kernel

end Server

end ChainFeed
