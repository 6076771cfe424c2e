/-
What the answer to an event that came in by HTTP tells about the node.

An event is read from the body of its request (`Incoming.read`), and the node does a few things for it (`Incoming.asks`)
before it waits for the outcome.

- `publish_told`: a publication is answered 202 if its event has entered the relay; else 503, and then it never does.
- `ingest_answered`: what each answer tells, for every endpoint, every body and every state of the node.
- `ingest_not_atomic`: a block is answered before its event is accepted, and a mempool summary or a ready flag that came
  with an event stays although the event is refused.
-/
import ChainFeed.Node.Server
import ChainFeed.Proofs.World.Blocks
import ChainFeed.Proofs.World.Publishing

namespace ChainFeed

/-- an event that came in, with its body read -/
inductive Incoming where
  | block (r : BlockReport)
  | tx (tx : Transaction)
  | mempool (m : Mempool)
  | address (a : AddressActivity)
  | sync (r : SyncReport)

namespace Incoming

def kind : Incoming → IngestKind
  | block _ => .block
  | tx _ => .tx
  | mempool _ => .mempool
  | address _ => .address
  | sync _ => .sync

/-- what a request to an endpoint brings -/
def read (k : IngestKind) (r : HttpRequest) : Except HttpResponse Incoming :=
  match k with
  | .block => (Server.readBody BlockReport.codec r).map block
  | .tx => (Server.readBody Transaction.codec r).map tx
  | .mempool => (Server.readBody Mempool.codec r).map mempool
  | .address => (Server.readBody AddressActivity.codec r).map address
  | .sync => (Server.readBody SyncReport.codec r).map sync

/-- what is published for it -/
def events : Incoming → List Event
  | block r => Publisher.blockEvents r
  | tx t => [.newTx t]
  | mempool _ => [.mempool]
  | address a => [.address a]
  | sync r => [.syncStatus r.stages]

/-- what is done for it, in order; the publication comes last -/
def asks : Incoming → List Move
  | block r => [.ask (.storeBlock r)]
  | tx t => [.ask (.publishAll [.newTx t])]
  | mempool m => [.ask (.setMempool (some m)), .ask (.publishAll [.mempool])]
  | address a => [.ask (.publishAll [.address a])]
  | sync r => [.ask (.setReady r.ready), .ask (.publishAll [.syncStatus r.stages])]

/-- the chain data that it leaves behind, whatever becomes of its event -/
def source (i : Incoming) (s : Source) : Source :=
  match i with
  | mempool m => { s with mempool := some m }
  | _ => s

/-- the ready flag that it leaves behind, whatever becomes of its event -/
def ready (i : Incoming) (flag : Bool) : Bool :=
  match i with
  | sync r => r.ready
  | _ => flag

/-- how the endpoints take it -/
def take (s : Server) : Incoming → Except Overflow (Server × HttpResponse)
  | block r => s.ingestBlock r
  | tx t => .ok (s.ingestTx t)
  | mempool m => s.ingestMempool m
  | address a => .ok (s.ingestAddress a)
  | sync r => .ok (s.ingestSync r)

theorem ingest_eq (s : Server) (k : IngestKind) (r : HttpRequest) :
    s.ingest k r = match read k r with
      | .ok i => i.take s
      | .error refusal => .ok (s, refusal) := by
  have hbody : ∀ {α : Type} (codec : Json.Codec α) (f : α → Incoming),
      Server.ingest.withBody s r codec (fun s a => (f a).take s) = match (Server.readBody codec r).map f with
        | .ok i => i.take s
        | .error refusal => .ok (s, refusal) := by
    intro α codec f
    unfold Server.ingest.withBody
    cases Server.readBody codec r <;> rfl
  cases k with
  | block => exact hbody BlockReport.codec .block
  | tx => exact hbody Transaction.codec .tx
  | mempool => exact hbody Mempool.codec .mempool
  | address => exact hbody AddressActivity.codec .address
  | sync => exact hbody SyncReport.codec .sync

end Incoming

namespace Server

open World (entering)

/-! ## Publishing -/

/-- what the answer to a publication tells about its event -/
structure Published (s : Server) (e : Event) (own : List Move) (s' : Server) (response : HttpResponse) : Prop where
  status : response.status = 202 ∨ response.status = 503
  unattended : ∀ m ∈ own, m.isOwn = true
  run : s'.world = s.world.run (.ask (.publishAll [e]) :: own)
  line : s'.world.hub.relay.line (.producer s.world.hub.producers.length) = []
  entered : ∀ more, s.world.record (entering s.world.hub.producers.length) (.ask (.publishAll [e]) :: own ++ more) =
    if response.status = 202 then [e] else []
  same : s.world.Same s'.world

/-- **A publication is answered 202 if its event has entered the relay**, and else 503, and then it never does. -/
theorem publish_told {s : Server} (hw : s.world.Wired)
    (hn : s.world.hub.relay.line (.producer s.world.hub.producers.length) = []) (k : IngestKind) (e : Event) :
    ∃ own, s.Published e own (s.publish k e).1 (s.publish k e).2 := by
  obtain ⟨outcome, own, hresult, hdelivered⟩ := World.publish_delivers hw hn e
  have hresponse : (s.publish k e).2.status = if outcome = .accepted then 202 else 503 := by
    simp only [publish, hresult]
    cases outcome <;> rfl
  refine ⟨own, ?_, hdelivered.unattended, hdelivered.run, hdelivered.line, ?_, ?_⟩
  · rw [hresponse]
    split_ifs <;> simp
  · intro more
    rw [hdelivered.entered more, hresponse]
    cases outcome <;> rfl
  · have hoffered : s.world.Same (s.world.offered e) := ⟨rfl, rfl, rfl, rfl⟩
    have hwired : (s.world.offered e).Wired := World.wired_move hw (.ask (.publishAll [e]))
    have hlater := World.same_own hwired hdelivered.unattended
    rw [show (s.publish k e).1.world = (s.world.offered e).run own from hdelivered.run]
    exact hoffered.trans hlater

/-! ## Answers, endpoint by endpoint -/

/-- what the answer to an event that came in tells about the node -/
structure Answered (s : Server) (i : Incoming) (s' : Server) (response : HttpResponse) : Prop where
  status : response.status = 202 ∨ response.status = 400 ∨ response.status = 503
  /-- a bad request changes nothing at all -/
  malformed : response.status = 400 → s' = s
  /-- else nothing is done from outside but what is asked for, and the event has entered the relay, once and for all, if
  the answer is 202; if it is 503 the event never does, whatever happens later -/
  run : response.status ≠ 400 → ∃ own, (∀ m ∈ own, m.isOwn = true) ∧ s'.world = s.world.run (i.asks ++ own) ∧
    (i.kind ≠ .block → ∀ more,
      s.world.record (entering s.world.hub.producers.length) (i.asks ++ own ++ more) =
        if response.status = 202 then i.events else [])
  /-- nothing of an event that was not accepted is left in line -/
  line : response.status = 503 → s'.world.hub.relay.line (.producer s.world.hub.producers.length) = []
  /-- a block is recorded and signalled in the background, without a wait for the relay -/
  recorded : ∀ r, i = .block r → response.status = 202 ∧
    s.world.publisher.storeBlock r = .ok (s'.world.publisher, s.world.hub.producers.length)
  /-- nothing but a block changes the latest block and the overview -/
  figures : i.kind ≠ .block → s'.world.publisher.block = s.world.publisher.block ∧
    s'.world.publisher.overview = s.world.publisher.overview
  /-- a mempool summary is taken whatever becomes of its event, and nothing else changes it -/
  summary : s'.world.publisher.source = i.source s.world.publisher.source
  /-- the ready flag is set whatever becomes of the event, and nothing else changes it -/
  flag : s'.world.hub.ready = i.ready s.world.hub.ready

variable {s s₁ s' : Server} {response : HttpResponse}

/-- the answer to an event that is not as it should be -/
theorem answered_badRequest {i : Incoming} {text : String} (block : ∀ r, i ≠ .block r)
    (summary : i.source s.world.publisher.source = s.world.publisher.source)
    (flag : i.ready s.world.hub.ready = s.world.hub.ready) : s.Answered i s (.ofError (.badRequest text)) where
  status := Or.inr (Or.inl rfl)
  malformed _ := rfl
  run h := absurd rfl h
  line h := by cases h
  recorded r hr := absurd hr (block r)
  figures _ := ⟨rfl, rfl⟩
  summary := summary.symm
  flag := flag.symm

/-- the answer to a publication, after something was done that leaves relay and background tasks alone -/
theorem Published.answered {i : Incoming} {e : Event} {own : List Move} (hp : s₁.Published e own s' response)
    (pre : List Move) (events : i.events = [e]) (asks : i.asks = pre ++ [.ask (.publishAll [e])]) (block : ∀ r, i ≠ .block r)
    (run : s₁.world = s.world.run pre) (quiet : ∀ task, s.world.record (entering task) pre = [])
    (tasks : s₁.world.hub.producers = s.world.hub.producers)
    (figures : s₁.world.publisher.block = s.world.publisher.block ∧
      s₁.world.publisher.overview = s.world.publisher.overview)
    (summary : s₁.world.publisher.source = i.source s.world.publisher.source)
    (flag : s₁.world.hub.ready = i.ready s.world.hub.ready) : s.Answered i s' response where
  status := hp.status.imp_right Or.inr
  malformed h := by
    rcases hp.status with hstatus | hstatus <;> cases h.symm.trans hstatus
  run _ := by
    refine ⟨own, hp.unattended, ?_, ?_⟩
    · rw [hp.run, run, asks, ← World.run_append, List.append_assoc]
      rfl
    · intro _ more
      have hentered := hp.entered more
      rw [tasks, run] at hentered
      calc s.world.record (entering s.world.hub.producers.length) (i.asks ++ own ++ more)
          = s.world.record (entering s.world.hub.producers.length)
              (pre ++ (.ask (.publishAll [e]) :: own ++ more)) := by rw [asks]; simp
        _ = (s.world.run pre).record (entering s.world.hub.producers.length)
              (.ask (.publishAll [e]) :: own ++ more) := by rw [World.record_append, quiet, List.nil_append]
        _ = if response.status = 202 then i.events else [] := by rw [hentered, events]
  line _ := tasks ▸ hp.line
  recorded r hr := absurd hr (block r)
  figures _ := ⟨hp.same.block.trans figures.1, hp.same.overview.trans figures.2⟩
  summary := hp.same.source.trans summary
  flag := hp.same.ready.trans flag

theorem block_answered {r : BlockReport} (h : s.ingestBlock r = .ok (s', response)) :
    s.Answered (.block r) s' response := by
  unfold ingestBlock World.storeBlock Publisher.storeBlock at h
  cases ho : s.world.publisher.overview.apply r s.world.publisher.source.params with
  | error e => simp [recordIngest, ho, Except.map] at h
  | ok overview =>
    have hmove : s.world.move (.ask (.storeBlock r)) = { s.world with publisher := { s.world.publisher with
        overview, block := some r.block, hub := (s.world.hub.publish (Publisher.blockEvents r)).1 } } := by
      simp [World.move, Command.isPlain, World.perform, World.storeBlock, Publisher.storeBlock, ho, Except.map]
      rfl
    simp only [recordIngest, ho, Except.map, Except.ok.injEq] at h
    have hboth : s' = _ ∧ response = _ := Prod.mk.inj h.symm
    rw [hboth.1, hboth.2]
    exact
      { status := Or.inl rfl
        malformed := fun hbad => by cases hbad
        run := fun _ => ⟨[], by simp, hmove.symm, fun hk => absurd rfl hk⟩
        line := fun hbad => by cases hbad
        recorded := fun other hother => by
          cases hother
          refine ⟨rfl, ?_⟩
          simp only [Publisher.storeBlock, ho, Except.map]
          rfl
        figures := fun hk => absurd rfl hk
        summary := rfl
        flag := rfl }

section

variable (hw : s.world.Wired) (hn : s.world.hub.relay.line (.producer s.world.hub.producers.length) = [])
include hw hn

theorem tx_answered (t : Transaction) : s.Answered (.tx t) (s.ingestTx t).1 (s.ingestTx t).2 := by
  unfold ingestTx
  split_ifs
  · obtain ⟨own, hp⟩ := publish_told (s := s.recordIngest .tx) hw hn .tx (.newTx t)
    exact hp.answered [] rfl rfl (by simp) rfl (fun _ => rfl) rfl ⟨rfl, rfl⟩ rfl rfl
  · exact answered_badRequest (by simp) rfl rfl

theorem address_answered (a : AddressActivity) :
    s.Answered (.address a) (s.ingestAddress a).1 (s.ingestAddress a).2 := by
  unfold ingestAddress
  split_ifs
  · obtain ⟨own, hp⟩ := publish_told (s := s.recordIngest .address) hw hn .address (.address a)
    exact hp.answered [] rfl rfl (by simp) rfl (fun _ => rfl) rfl ⟨rfl, rfl⟩ rfl rfl
  · exact answered_badRequest (by simp) rfl rfl

theorem sync_answered (r : SyncReport) : s.Answered (.sync r) (s.ingestSync r).1 (s.ingestSync r).2 := by
  have hwired : (s.world.setHub (s.world.hub.setReady r.ready)).Wired := World.wired_move hw (.ask (.setReady r.ready))
  obtain ⟨own, hp⟩ := publish_told
    (s := { s.recordIngest .sync with world := s.world.setHub (s.world.hub.setReady r.ready) }) hwired hn .sync
    (.syncStatus r.stages)
  exact hp.answered [.ask (.setReady r.ready)] rfl rfl (by simp) rfl (fun _ => rfl) rfl ⟨rfl, rfl⟩ rfl rfl

theorem mempool_answered {m : Mempool} (h : s.ingestMempool m = .ok (s', response)) :
    s.Answered (.mempool m) s' response := by
  unfold ingestMempool World.setMempool Publisher.setMempool at h
  cases hs : s.world.publisher.source.setMempool (some m) with
  | error e => simp [recordIngest, hs, Except.map] at h
  | ok source =>
    have hmove : s.world.move (.ask (.setMempool (some m))) =
        { s.world with publisher := { s.world.publisher with source } } := by
      simp [World.move, Command.isPlain, World.perform, World.setMempool, Publisher.setMempool, hs, Except.map]
    have hwired : World.Wired { s.world with publisher := { s.world.publisher with source } } :=
      hmove ▸ World.wired_move hw (.ask (.setMempool (some m)))
    simp only [recordIngest, hs, Except.map, Except.ok.injEq] at h
    obtain ⟨own, hp⟩ := publish_told
      (s := { s.recordIngest .mempool with world := { s.world with publisher := { s.world.publisher with source } } })
      hwired hn .mempool .mempool
    have hserver : _ = s' := congrArg Prod.fst h
    have hresponse : _ = response := congrArg Prod.snd h
    rw [← hserver, ← hresponse]
    exact hp.answered [.ask (.setMempool (some m))] rfl rfl (by simp) hmove.symm (fun _ => rfl) rfl ⟨rfl, rfl⟩
      (Source.setMempool_ok hs) rfl

end

/-! ## Every state of a node -/

/-- the system of the node is one that is run from its start -/
def Live (s : Server) : Prop :=
  ∃ config source runs w₀, World.create config source runs = .ok w₀ ∧ World.Reaches w₀ s.world

/-- the next background task of a node has nothing in line -/
theorem Live.line_new (hs : s.Live) :
    s.world.Wired ∧ s.world.hub.relay.line (.producer s.world.hub.producers.length) = [] := by
  obtain ⟨config, source, runs, w₀, hw, moves, hrun⟩ := hs
  have hkept := Traced.kept_run (Traced.kept_create hw) moves
  rw [hrun, ← Traced.world_run { world := w₀ }]
  exact ⟨hkept.wired, hkept.fits.line_new⟩

theorem take_answered (hs : s.Live) {i : Incoming} (h : i.take s = .ok (s', response)) :
    s.Answered i s' response := by
  obtain ⟨hwired, hn⟩ := hs.line_new
  cases i with
  | block r => exact block_answered h
  | tx t =>
    have hboth : s.ingestTx t = (s', response) := Except.ok.inj h
    have ht := tx_answered hwired hn t
    rwa [hboth] at ht
  | mempool m => exact mempool_answered hwired hn h
  | address a =>
    have hboth : s.ingestAddress a = (s', response) := Except.ok.inj h
    have ha := address_answered hwired hn a
    rwa [hboth] at ha
  | sync r =>
    have hboth : s.ingestSync r = (s', response) := Except.ok.inj h
    have hsync := sync_answered hwired hn r
    rwa [hboth] at hsync

theorem Live.of_reaches (hs : s.Live) (h : World.Reaches s.world s'.world) : s'.Live := by
  obtain ⟨config, source, runs, w₀, hw, hreaches⟩ := hs
  exact ⟨config, source, runs, w₀, hw, hreaches.trans h⟩

theorem live_create {settings : Settings} (h : create settings = .ok s) : s.Live := by
  unfold create at h
  cases hw : World.create settings.hub.hubConfig (source settings) with
  | error e => simp [hw, Except.map] at h
  | ok w₀ =>
    simp only [hw, Except.map, Except.ok.injEq] at h
    subst h
    exact ⟨_, _, _, w₀, hw, .refl w₀⟩

theorem live_ingest (hs : s.Live) {k : IngestKind} {r : HttpRequest} (h : s.ingest k r = .ok (s', response)) :
    s'.Live := by
  rw [Incoming.ingest_eq] at h
  cases hi : Incoming.read k r with
  | error refusal =>
    rw [hi] at h
    cases h
    exact hs
  | ok i =>
    rw [hi] at h
    have ha := take_answered hs h
    by_cases hbad : response.status = 400
    · exact ha.malformed hbad ▸ hs
    · obtain ⟨own, -, hrun, -⟩ := ha.run hbad
      exact hs.of_reaches ⟨_, hrun⟩

theorem live_respond (hs : s.Live) {route : Route} {r : HttpRequest} (h : s.respond route r = .ok (s', response)) :
    s'.Live := by
  cases route with
  | ingest k => exact live_ingest hs h
  | _ =>
    cases h
    exact hs

theorem live_dispatch (hs : s.Live) {r : HttpRequest} (h : s.dispatch r = .ok (s', response)) : s'.Live := by
  unfold dispatch at h
  cases ho : Route.ofPath? r.path with
  | none =>
    simp only [ho] at h
    cases h
    exact hs
  | some route =>
    simp only [ho] at h
    by_cases hm : r.method ∈ route.methods
    · rw [if_pos hm] at h
      cases hr : s.respond route r with
      | error e => simp [hr, Except.map] at h
      | ok x =>
        have hlive : x.1.Live := live_respond hs hr
        simp only [hr, Except.map, Except.ok.injEq, Prod.mk.injEq] at h
        exact h.1 ▸ hlive
    · rw [if_neg hm] at h
      cases h
      exact hs

/-- **Requests lead from one state of a node to the next.** -/
theorem live_handle (hs : s.Live) {r : HttpRequest} {seconds : Float} (h : s.handle r seconds = .ok (s', response)) :
    s'.Live := by
  unfold handle at h
  cases hd : s.dispatch r with
  | error e => simp [hd, Except.map] at h
  | ok x =>
    simp only [hd, Except.map, Except.ok.injEq, Prod.mk.injEq] at h
    have hlive : x.1.Live := live_dispatch hs hd
    exact h.1 ▸ hlive

/-- **So do websockets**: new ones, and the messages that come in by them. -/
theorem live_upgrade (hs : s.Live) {config : SessionConfig} {r : HttpRequest} {answer : Option HttpResponse}
    (h : s.upgrade config r = .ok (s', answer)) : s'.Live := by
  unfold upgrade at h
  split_ifs at h
  · cases h
    have hmove := World.reaches_move s.world (.ask (.connect { config }))
    exact hs.of_reaches (hmove.trans (World.Becomes.refl _).settle.1.reaches)
  · cases hh : s.handle r 0.0 with
    | error e => simp [hh, Except.map] at h
    | ok x =>
      simp only [hh, Except.map, Except.ok.injEq, Prod.mk.injEq] at h
      exact h.1 ▸ live_handle hs hh

theorem live_receive (hs : s.Live) (session : Nat) (m : SocketMessage) : (s.receive session m).1.Live := by
  have hmove := World.reaches_move s.world (.ask (.feed session (m.frame (SocketMessage.limit
    (((s.world.sessions[session]?).map fun c => c.config.maxRequestBytes).getD 0)))))
  exact hs.of_reaches (hmove.trans (World.Becomes.refl _).settle.1.reaches)

/-! ## What answers tell -/

/-- **What the answer to an event that came in tells**, for every endpoint, every body that can be read and every state
of the node. A bad request changes nothing. An event is answered 202 if it has entered the relay, and else 503, and then
it never does; the latest block, the mempool summary and the ready flag are the old ones then, but for the summary and
the flag that came with the event itself. A block is answered 202 when it is recorded, without a wait for the relay. -/
theorem ingest_answered (hs : s.Live) {k : IngestKind} {r : HttpRequest} {i : Incoming}
    (hi : Incoming.read k r = .ok i) (h : s.ingest k r = .ok (s', response)) : s.Answered i s' response := by
  rw [Incoming.ingest_eq, hi] at h
  exact take_answered hs h

/-- a request that brings a JSON text to an endpoint -/
def post (k : IngestKind) (body : String) : HttpRequest :=
  { method := "POST"
    target := { path := "/api/ingest/" ++ k.name }
    headers := [("content-type", "application/json")]
    body }

/-- a transaction with its hash alone -/
def oneTx : HttpRequest :=
  post .tx "\x7b\"hash\":\"a\"\x7d"

/-- a node without a connection to a chain node -/
def unconnected (world : World) : Server :=
  { world, rpcConfigured := false }

/-- a transaction fills the relay of a hub that is not run; where something fills it already there is no room -/
theorem ingest_answered_two :
    ∃ w₀, World.create { relayCapacity := 1, publishTimeout := 1 } (source {}) false = .ok w₀ ∧
      ∃ i, Incoming.read .tx oneTx = .ok i ∧
        (∃ s' response, (unconnected w₀).ingest .tx oneTx = .ok (s', response) ∧ response.status = 202 ∧
          (unconnected w₀).Answered i s' response) ∧
        ∃ full, full = unconnected (w₀.run [.ask (.publishAll [.mempool]), .act (.producer 0)]) ∧
          ∃ s' response, full.ingest .tx oneTx = .ok (s', response) ∧ response.status = 503 ∧
            full.Answered i s' response := by
  obtain ⟨i, hi⟩ : ∃ i, Incoming.read .tx oneTx = .ok i := by
    have hok : (Incoming.read .tx oneTx).isOk = true := by decide +kernel
    cases hr : Incoming.read .tx oneTx with
    | error e => rw [hr] at hok; cases hok
    | ok i => exact ⟨i, rfl⟩
  have hanswer : ∀ s : Server, s.Live → ∀ status : Nat,
      (s.ingest .tx oneTx).toOption.map (·.2.status) = some status →
      ∃ s' response, s.ingest .tx oneTx = .ok (s', response) ∧ response.status = status ∧ s.Answered i s' response := by
    intro s hs status hstatus
    cases hx : s.ingest .tx oneTx with
    | error e => simp [hx, Except.toOption] at hstatus
    | ok x =>
      rw [hx] at hstatus
      exact ⟨x.1, x.2, rfl, Option.some.inj hstatus, ingest_answered hs hi hx⟩
  have hlive : ∀ {w₀ : World}, World.create { relayCapacity := 1, publishTimeout := 1 } (source {}) false = .ok w₀ →
      ∀ moves, (unconnected (w₀.run moves)).Live := fun hw moves => ⟨_, _, _, _, hw, moves, rfl⟩
  refine ⟨_, rfl, i, hi, hanswer _ (hlive rfl []) 202 ?_, _, rfl, hanswer _ (hlive rfl _) 503 ?_⟩
  · decide +kernel
  · decide +kernel

/-- **Not all of a request is undone when its event is refused, and a block is answered before that.** The hub of the
node was told to stop and has closed down. A block is answered 202, and its event is refused afterwards; the requests
with a mempool summary and with a ready flag are answered 503, and summary and flag stay. -/
theorem ingest_not_atomic :
    ∃ w₀, World.create {} (source {}) true = .ok w₀ ∧ ∃ s : Server,
      s.world = w₀.run [.act .hub, .ask .stop, .act .hub] ∧
      (s.ingest .block (post .block "\x7b\x7d")).toOption.map (fun (s', response) =>
        (response.status, (s'.world.settle.hub.producers.map (·.outcomes)))) = some (202, [[.refused]]) ∧
      s.world.publisher.source.mempool = none ∧
      (s.ingest .mempool (post .mempool "\x7b\x7d")).toOption.map (fun (s', response) =>
        (response.status, s'.world.publisher.source.mempool.isSome)) = some (503, true) ∧
      s.world.hub.ready = false ∧
      (s.ingest .sync (post .sync "\x7b\"ready\":true\x7d")).toOption.map (fun (s', response) =>
        (response.status, s'.world.hub.ready)) = some (503, true) := by
  refine ⟨_, rfl, unconnected _, rfl, ?_, ?_, ?_, ?_, ?_⟩
  · decide +kernel
  · rfl
  · decide +kernel
  · rfl
  · decide +kernel

end Server

end ChainFeed
