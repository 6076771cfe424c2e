/-
What the exposition of the metrics tells of the hub.

The hub keeps its own totals, and a counter of the exposition can only be added to: each scrape takes a snapshot of the
hub and adds to every counter what it is behind. That this tells the totals as they are rests on the hub, whose totals
never fall. Main statements:
- `Metrics.field_observed`: after any snapshots at all, each counter is the greatest figure it was shown.
- `Server.hub_happen`, `Server.happen_grown`: whatever happens to a node, its hub makes steps of its own, and no total
  of it falls.
- `Server.hubPart_step`, `Server.handle_scrape`: only a scrape touches what the metrics tell of the hub.
- `Server.Behind.happen`: no exported total is ever above the one of the hub.
- `Server.exposition_current`: after each scrape of every run, the exposition tells the figures of the hub.
-/
import ChainFeed.Proofs.Hub.Accounting
import ChainFeed.Proofs.Node.Admission

namespace ChainFeed

/-! ## Counters -/

namespace HubTotals

/-- the four totals, each by itself -/
def fields : List (HubTotals → Nat) :=
  [connections, events, evicted, dropped]

theorem eq_of_fields {t u : HubTotals} (h : ∀ f ∈ fields, f t = f u) : t = u := by
  have hall : t.connections = u.connections ∧ t.events = u.events ∧ t.evicted = u.evicted ∧
      t.dropped = u.dropped := by
    simpa [fields] using h
  cases t
  cases u
  simpa using hall

end HubTotals

namespace Metrics

variable {f : HubTotals → Nat}

/-- the totals of the hub as they are exported -/
def totals (m : Metrics) : HubTotals :=
  ⟨m.connectionsOpened, m.hubEvents, m.hubEvictions, m.hubDropped⟩

/-- all that is exported about the hub: the gauge and the totals -/
def hubPart (m : Metrics) : Int64 × HubTotals :=
  (m.connections, m.totals)

/-- the samples that tell a number of connections, and totals -/
def hubSamples (connections : Int) (t : HubTotals) : List String :=
  ["blockpulse_websocket_connections " ++ toString connections,
    "blockpulse_websocket_connections_opened_total " ++ toString t.connections,
    "blockpulse_hub_events_total " ++ toString t.events,
    "blockpulse_hub_evictions_total " ++ toString t.evicted,
    "blockpulse_hub_dropped_events_total " ++ toString t.dropped]

theorem hubSamples_subset (m : Metrics) : hubSamples m.connections.toInt m.totals ⊆ m.lines := by
  simp [hubSamples, totals, lines, counter, family]

theorem advance_eq_max (counter total : Nat) : advance counter total = max counter total := by
  unfold advance
  split_ifs <;> omega

/-- a snapshot raises each counter that is behind, and no other -/
theorem field_observeHub (m : Metrics) (snapshot : HubStats) (hf : f ∈ HubTotals.fields) :
    f (m.observeHub snapshot).totals = max (f m.totals) (f snapshot.totals) := by
  revert f
  simp [HubTotals.fields, totals, observeHub, advance_eq_max]

/-- **After snapshots in any order, a counter is the greatest figure that it has seen.** -/
theorem field_observed (m : Metrics) (snapshots : List HubStats) (hf : f ∈ HubTotals.fields) :
    f (snapshots.foldl observeHub m).totals = (snapshots.map fun s => f s.totals).foldl max (f m.totals) := by
  induction snapshots generalizing m with
  | nil => rfl
  | cons s snapshots ih => rw [List.foldl_cons, ih, field_observeHub m s hf, List.map_cons, List.foldl_cons]

theorem field_empty (hf : f ∈ HubTotals.fields) : f ({} : Metrics).totals = 0 := by
  revert f
  simp [HubTotals.fields, totals]

end Metrics

/-! ## What happens to a node -/

/-- whether a request asks for the metrics -/
def HttpRequest.isScrape (r : HttpRequest) : Bool :=
  Route.ofPath? r.path = some .metrics && Route.metrics.methods.contains r.method

theorem HttpRequest.isScrape_iff {r : HttpRequest} :
    r.isScrape = true ↔ Route.ofPath? r.path = some .metrics ∧ r.method ∈ Route.metrics.methods := by
  simp [isScrape]

namespace Server

variable {s s' : Server} {f : HubTotals → Nat}

/-- the request that comes in -/
def Input.request? : Input → Option HttpRequest
  | .request r _ | .upgrade _ r => some r
  | _ => none

def Input.isScrape (i : Input) : Bool :=
  i.request?.any HttpRequest.isScrape

/-- the response to a request that comes in; a connection that becomes a websocket gets none -/
def answer? (s : Server) : Input → Option HttpResponse
  | .request r seconds => (s.handle r seconds).toOption.map (·.2)
  | .upgrade config r => (s.upgrade config r).toOption.bind (·.2)
  | _ => none

/-- anything that can happen to a node -/
inductive Happening where
  | input (i : Input)
  /-- a task makes a move, time passes, or something is done from outside -/
  | move (m : Move)
  /-- the hub makes a step, or something is done to it: clients come and go, events come in, it is shut down -/
  | hub (a : Hub.Act)

/-- the node after that -/
def happen (s : Server) : Happening → Server
  | .input i => s.step i
  | .move m => { s with world := s.world.move m }
  | .hub a => { s with world := s.world.setHub (s.world.hub.act a) }

/-- the node after all of that -/
def after (s : Server) (happenings : List Happening) : Server :=
  Trace.run happen s happenings

/-! ## The hub goes on by itself -/

theorem hub_of_moves {own : List Move} (h : s'.world = s.world.run own) :
    ∃ as, s'.world.hub = s.world.hub.acts as := by
  obtain ⟨ops, hops⟩ := World.hub_run s.world own
  refine ⟨ops.map .op, ?_⟩
  rw [h, hops]
  simp [Hub.acts, Hub.run, Trace.run, List.foldl_map, Hub.act]

/-- **Whatever happens to a node, its hub makes steps of its own.** -/
theorem hub_happen (s : Server) (x : Happening) : ∃ as, (s.happen x).world.hub = s.world.hub.acts as := by
  cases x with
  | input i =>
    have hstep := s.step_stepped i
    simp only [happen]
    generalize s.step i = s', s.accepting i = accepted at hstep
    cases hstep with
    | silent own _ run => exact hub_of_moves run
    | published taken =>
      obtain ⟨own, -, run⟩ := taken.run
      exact hub_of_moves run
    | @client op _ hub => exact ⟨[.op op], hub⟩
  | move m => exact hub_of_moves (show (s.happen (.move m)).world = s.world.run [m] from rfl)
  | hub a => exact ⟨[a], rfl⟩

/-- no total of the hub ever falls -/
theorem happen_grown (hs : Hub.Sound s.world.hub) (x : Happening) : Hub.Sound (s.happen x).world.hub ∧
    ∀ f ∈ HubTotals.fields, f s.world.hub.totals ≤ f (s.happen x).world.hub.totals := by
  obtain ⟨as, has⟩ := s.hub_happen x
  -- the books say by how much each total is raised
  have hb := Hub.booked_acts hs as
  rw [has]
  refine ⟨(Hub.kept_acts (P := fun _ => True) (fun _ _ _ _ => trivial) hs trivial as).1, ?_⟩
  simp [HubTotals.fields, hb.connections, hb.events, hb.evictions, hb.dropped]

/-! ## What touches the metrics of the hub -/

/-- an event that comes in is only counted by its kind -/
theorem hubPart_take {i : Incoming} (h : i.take s = .ok (s', response)) :
    s'.metrics.hubPart = s.metrics.hubPart := by
  cases i with
  | block r =>
    change s.ingestBlock r = _ at h
    unfold ingestBlock at h
    cases hw : (s.recordIngest .block).world.storeBlock r with
    | error e => simp [hw, Except.map] at h
    | ok w =>
      simp only [hw, Except.map, Except.ok.injEq, Prod.mk.injEq] at h
      rw [← h.1]
      rfl
  | tx t =>
    have hs' : (s.ingestTx t).1 = s' := congrArg Prod.fst (Except.ok.inj h)
    rw [← hs', ingestTx]
    split_ifs <;> rfl
  | mempool m =>
    change s.ingestMempool m = _ at h
    unfold ingestMempool at h
    cases hw : (s.recordIngest .mempool).world.setMempool (some m) with
    | error e => simp [hw, Except.map] at h
    | ok w =>
      simp only [hw, Except.map, Except.ok.injEq] at h
      have hs' : (publish _ _ _).1 = s' := congrArg Prod.fst h
      rw [← hs']
      rfl
  | address a =>
    have hs' : (s.ingestAddress a).1 = s' := congrArg Prod.fst (Except.ok.inj h)
    rw [← hs', ingestAddress]
    split_ifs <;> rfl
  | sync r =>
    have hs' : (s.ingestSync r).1 = s' := congrArg Prod.fst (Except.ok.inj h)
    rw [← hs']
    rfl

theorem hubPart_respond {route : Route} {r : HttpRequest} (hr : route ≠ .metrics)
    (h : s.respond route r = .ok (s', response)) : s'.metrics.hubPart = s.metrics.hubPart := by
  cases route with
  | metrics => exact absurd rfl hr
  | ingest k =>
    have htake : s.ingest k r = .ok (s', response) := h
    rw [Incoming.ingest_eq] at htake
    cases hi : Incoming.read k r with
    | error refusal =>
      rw [hi] at htake
      cases htake
      rfl
    | ok i =>
      rw [hi] at htake
      exact hubPart_take htake
  | _ =>
    cases h
    rfl

theorem hubPart_handle {r : HttpRequest} {seconds : Float} (hr : r.isScrape = false)
    (h : s.handle r seconds = .ok (s', response)) : s'.metrics.hubPart = s.metrics.hubPart := by
  unfold handle dispatch at h
  cases hp : Route.ofPath? r.path with
  | none =>
    simp only [hp, Except.map, Except.ok.injEq, Prod.mk.injEq] at h
    rw [← h.1]
    rfl
  | some route =>
    simp only [hp] at h
    by_cases hm : r.method ∈ route.methods
    · have hroute : route ≠ .metrics := by
        rintro rfl
        simp [HttpRequest.isScrape_iff.2 ⟨hp, hm⟩] at hr
      rw [if_pos hm] at h
      cases hx : s.respond route r with
      | error e => simp [hx, Except.map] at h
      | ok x =>
        obtain ⟨s₁, answer⟩ := x
        simp only [hx, Except.map, Except.ok.injEq, Prod.mk.injEq] at h
        rw [← hubPart_respond hroute hx, ← h.1]
        rfl
    · rw [if_neg hm] at h
      simp only [Except.map, Except.ok.injEq, Prod.mk.injEq] at h
      rw [← h.1]
      rfl

/-- what a scrape comes to -/
structure Scraped (s : Server) (r : HttpRequest) (s' : Server) (response : HttpResponse) : Prop where
  /-- nothing but metrics is touched -/
  world : s'.world = s.world
  hubPart : s'.metrics.hubPart = (s.metrics.observeHub s.world.hub.stats).hubPart
  status : response.status = 200
  /-- the response tells what was found; one to HEAD has no content -/
  body : r.method = "GET" → response.body = .metrics (s.metrics.observeHub s.world.hub.stats).lines

/-- **What a scrape does**: the metrics are brought up to date and told, and the request is counted. -/
theorem handle_scrape {r : HttpRequest} (hr : r.isScrape = true) (seconds : Float) :
    ∃ s' response, s.handle r seconds = .ok (s', response) ∧ Scraped s r s' response := by
  obtain ⟨hp, hm⟩ := HttpRequest.isScrape_iff.1 hr
  unfold handle dispatch
  simp only [hp, if_pos hm, respond, Except.map]
  refine ⟨_, _, rfl, rfl, rfl, ?_, fun hget => ?_⟩
  · dsimp only
    split_ifs <;> rfl
  · have hhead : r.method ≠ "HEAD" := by
      rw [hget]
      decide
    simp only [if_neg hhead]
    rfl

theorem step_scrape {i : Input} {r : HttpRequest} (hi : i.request? = some r) (hr : r.isScrape = true) :
    ∃ response, s.answer? i = some response ∧ Scraped s r (s.step i) response := by
  cases i with
  | request r' seconds =>
    cases hi
    obtain ⟨s', response, hx, hscraped⟩ := s.handle_scrape hr seconds
    refine ⟨response, ?_, ?_⟩
    · simp [answer?, hx, Except.toOption]
    · simpa [step, hx, Except.toOption] using hscraped
  | upgrade config r' =>
    cases hi
    obtain ⟨s', response, hx, hscraped⟩ := s.handle_scrape hr 0.0
    have hsocket : Route.ofPath? r.path ≠ some .socket := by simp [(HttpRequest.isScrape_iff.1 hr).1]
    refine ⟨response, ?_, ?_⟩
    · simp [answer?, upgrade, hsocket, hx, Except.map, Except.toOption]
    · simpa [step, upgrade, hsocket, hx, Except.map, Except.toOption] using hscraped
  | message | move | client => cases hi

theorem hubPart_step {i : Input} (hi : i.isScrape = false) : (s.step i).metrics.hubPart = s.metrics.hubPart := by
  cases i with
  | request r seconds =>
    simp only [step]
    cases hx : s.handle r seconds with
    | error e => rfl
    | ok x =>
      obtain ⟨s', answer⟩ := x
      exact hubPart_handle hi hx
  | upgrade config r =>
    simp only [step, upgrade]
    split_ifs
    · rfl
    · cases hx : s.handle r 0.0 with
      | error e => rfl
      | ok x =>
        obtain ⟨s', answer⟩ := x
        exact hubPart_handle hi hx
  | message | move | client => rfl

/-! ## Every run of a node -/

/-- **The exported totals stay as they are, or a snapshot of the hub is taken.** -/
theorem totals_happen (s : Server) (x : Happening) : (s.happen x).metrics.totals = s.metrics.totals ∨
    (s.happen x).metrics.totals = (s.metrics.observeHub s.world.hub.stats).totals := by
  cases x with
  | input i =>
    cases hi : i.isScrape with
    | false => exact Or.inl (congrArg Prod.snd (hubPart_step hi))
    | true =>
      obtain ⟨r, hrequest, hr⟩ := (Option.any_eq_true _ _).1 hi
      obtain ⟨response, -, hscraped⟩ := s.step_scrape hrequest hr
      exact Or.inr (congrArg Prod.snd hscraped.hubPart)
  | move | hub => exact Or.inl rfl

/-- no exported total ever falls -/
theorem exported_happen (x : Happening) (hf : f ∈ HubTotals.fields) :
    f s.metrics.totals ≤ f (s.happen x).metrics.totals := by
  rcases s.totals_happen x with htotals | htotals
  · rw [htotals]
  · calc f s.metrics.totals ≤ max (f s.metrics.totals) (f s.world.hub.totals) := Nat.le_max_left _ _
      _ = f (s.metrics.observeHub s.world.hub.stats).totals := (s.metrics.field_observeHub s.world.hub.stats hf).symm
      _ = f (s.happen x).metrics.totals := by rw [htotals]

theorem exported_after (happenings : List Happening) (hf : f ∈ HubTotals.fields) :
    f s.metrics.totals ≤ f (s.after happenings).metrics.totals := by
  induction happenings generalizing s with
  | nil => exact Nat.le_refl _
  | cons x happenings ih => exact (exported_happen x hf).trans ih

/-- the exported totals are those of the hub at an earlier moment -/
structure Behind (s : Server) : Prop where
  sound : Hub.Sound s.world.hub
  totals : ∀ f ∈ HubTotals.fields, f s.metrics.totals ≤ f s.world.hub.totals

/-- an exported total that is behind comes up to the one of the hub -/
theorem Behind.observed (hb : s.Behind) :
    (s.metrics.observeHub s.world.hub.stats).totals = s.world.hub.totals := by
  refine HubTotals.eq_of_fields fun f hf => ?_
  rw [Metrics.field_observeHub _ _ hf]
  exact Nat.max_eq_right (hb.totals f hf)

theorem Behind.happen (hb : s.Behind) (x : Happening) : (s.happen x).Behind := by
  obtain ⟨hsound, hgrown⟩ := happen_grown hb.sound x
  refine ⟨hsound, fun f hf => ?_⟩
  rcases s.totals_happen x with htotals | htotals
  · rw [htotals]
    exact (hb.totals f hf).trans (hgrown f hf)
  · rw [htotals, hb.observed]
    exact hgrown f hf

theorem behind_create {settings : Settings} (hs : create settings = .ok s) : s.Behind := by
  unfold create at hs
  cases hw : World.create settings.hub.hubConfig (source settings) with
  | error e => simp [hw, Except.map] at hs
  | ok w =>
    simp only [hw, Except.map, Except.ok.injEq] at hs
    subst hs
    refine ⟨Hub.sound_create (World.create_ok hw).1, fun f hf => ?_⟩
    rw [Metrics.field_empty hf]
    exact Nat.zero_le _

theorem behind_after {settings : Settings} (hs : create settings = .ok s) (happenings : List Happening) :
    (s.after happenings).Behind :=
  Trace.run_induction (P := Behind) (fun _ x hb => hb.happen x) (behind_create hs) happenings

/-- what a scrape tells, and what it leaves behind, is how the hub stands -/
structure Current (s : Server) (r : HttpRequest) (s' : Server) (response : HttpResponse) : Prop where
  /-- nothing but metrics is touched -/
  world : s'.world = s.world
  gauge : s'.metrics.connections = Int64.ofNat s.world.hub.connections
  /-- the gauge is exact, as long as there are not more clients than a signed number of 64 bits can tell -/
  exact : s.world.hub.connections < 2 ^ 63 → s'.metrics.connections.toInt = s.world.hub.connections
  registered : s.world.hub.connections = s.world.hub.registry.length
  totals : s'.metrics.totals = s.world.hub.totals
  status : response.status = 200
  told : r.method = "GET" → ∃ lines, response.body = .metrics lines ∧
    Metrics.hubSamples s'.metrics.connections.toInt s.world.hub.totals ⊆ lines

theorem Scraped.current {r : HttpRequest} (hs : Scraped s r s' response) (hb : s.Behind) :
    Current s r s' response := by
  have hgauge : s'.metrics.connections = Int64.ofNat s.world.hub.connections := congrArg Prod.fst hs.hubPart
  have htotals : s'.metrics.totals = s.world.hub.totals := (congrArg Prod.snd hs.hubPart).trans hb.observed
  refine ⟨hs.world, hgauge, fun hfit => ?_, hb.sound.count, htotals, hs.status, fun hget => ?_⟩
  · rw [hgauge]
    exact Int64.toInt_ofNat_of_lt hfit
  · refine ⟨_, hs.body hget, ?_⟩
    have hlines := Metrics.hubSamples_subset (s.metrics.observeHub s.world.hub.stats)
    rw [hb.observed] at hlines
    rw [hgauge]
    exact hlines

/-- what holds of the exported metrics over a run -/
structure Exported (s : Server) (happenings : List Happening) : Prop where
  /-- every scrape of the run tells how the hub stands -/
  scraped : ∀ before i rest r, happenings = before ++ .input i :: rest → i.request? = some r →
    r.isScrape = true → ∃ response, (s.after before).answer? i = some response ∧
      Current (s.after before) r (s.after (before ++ [.input i])) response
  /-- no exported total ever falls -/
  grows : ∀ before rest, happenings = before ++ rest → ∀ f ∈ HubTotals.fields,
    f (s.after before).metrics.totals ≤ f (s.after happenings).metrics.totals
  /-- nor is it ever above the one of the hub -/
  bounded : ∀ f ∈ HubTotals.fields,
    f (s.after happenings).metrics.totals ≤ f (s.after happenings).world.hub.totals
  /-- and whatever snapshots metrics are shown, in any order, each total is the greatest among them -/
  observed : ∀ snapshots : List HubStats, ∀ f ∈ HubTotals.fields,
    f (snapshots.foldl Metrics.observeHub {}).totals = ((snapshots.map fun s => f s.totals).max?).getD 0

/-- **The exposition matches the hub after every scrape**, however scrapes come between all that happens to a node and
to its hub, from its first moment to its shutdown. -/
theorem exposition_current {settings : Settings} (hs : create settings = .ok s) (happenings : List Happening) :
    Exported s happenings where
  scraped before i rest r _ hi hr := by
    obtain ⟨response, hanswer, hscraped⟩ := (s.after before).step_scrape hi hr
    refine ⟨response, hanswer, ?_⟩
    have hstep : s.after (before ++ [.input i]) = (s.after before).step i := Trace.run_concat _ _ _ _
    rw [hstep]
    exact hscraped.current (behind_after hs before)
  grows before rest hsplit f hf := by
    have happend : s.after happenings = (s.after before).after rest := hsplit ▸ Trace.run_append _ _ _ _
    rw [happend]
    exact exported_after rest hf
  bounded := (behind_after hs happenings).totals
  observed snapshots f hf := by
    rw [Metrics.field_observed _ _ hf, Metrics.field_empty hf]
    cases snapshots with
    | nil => rfl
    | cons s snapshots =>
      rw [List.map_cons, List.max?_cons', List.foldl_cons, Nat.zero_max]
      rfl

/-- of two clients with room for one event, the second block puts one out; a request is dropped -/
def twoClients : List Happening :=
  [.op (.turn 0), .op .register, .op .register, .op (.turn 0), .op (.turn 0), .op (.subscribe 1 ⟨.newBlock, none⟩),
    .op (.publish [.newBlock, .newBlock, .subscribe ⟨.ping, none⟩]), .op (.produce 0 0), .op (.produce 0 0),
    .op (.produce 0 0), .op (.turn 0), .op (.turn 0), .op (.turn 0)].map .hub

/-- the metrics are asked for -/
def scrapes : List Happening :=
  [.input (.request { target := { path := "/metrics" } } 0.0)]

/-- the metrics are asked for again after a shutdown, when no client is left -/
theorem exposition_current_two : ∃ s, create { hub := { clientQueue := 1 } } = .ok s ∧
    (s.after twoClients).metrics.hubPart = (0, {}) ∧
    (s.after (twoClients ++ scrapes)).metrics.hubPart = (1, ⟨2, 2, 1, 1⟩) ∧
    ∃ happenings, happenings = twoClients ++ scrapes ++ .hub (.op .stop) :: .hub (.op (.turn 0)) :: scrapes ∧
      (s.after happenings).metrics.hubPart = (0, ⟨2, 2, 1, 1⟩) ∧ Exported s happenings := by
  refine ⟨_, rfl, ?_, ?_, _, rfl, ?_,
    exposition_current (show create { hub := { clientQueue := 1 } } = .ok _ from rfl) _⟩
  · decide +kernel
  · decide +kernel
  · decide +kernel

end Server

end ChainFeed
