/-
What the publisher tells of blocks, and what moves do to it.

- `Overview.apply_congr`: of the overview before a block, only the constant figures show in the one after it.
- `Abreast`: the publisher holds the block that was stored last, with the overview that this block alone gives.
- `progress`: what a move does to the publisher: clients change something among themselves, the hub makes an operation,
  or a block is stored.
- `fits_move`: the trail lists the events that are on their way; `abreast_move`: the publisher stays abreast.
-/
import ChainFeed.Proofs.Hub.Trail
import ChainFeed.Proofs.World.Moves

namespace ChainFeed

/-! ## The overview -/

namespace Overview

/-- of the overview before a block, only the constant figures show in the one after it -/
theorem apply_congr {o o' : Overview} (ho : o.params = o'.params) (r : BlockReport) (p : ChainParams) :
    o.apply r p = o'.apply r p := by
  unfold apply
  rw [ho]

theorem params_apply {o o' : Overview} {r : BlockReport} {p : ChainParams} (ho : o.apply r p = .ok o') :
    o'.params = o.params := by
  unfold apply at ho
  cases ht : p.ticketPoolTarget with
  | error e => simp [ht, bind, Except.bind] at ho
  | ok target =>
    cases hb : maturityBlocks o.params.meanVotingBlocks p with
    | error e => simp [ht, hb, bind, Except.bind] at ho
    | ok blocks =>
      simp only [ht, hb, bind, Except.bind, pure, Except.pure, Except.ok.injEq] at ho
      rw [← ho]

end Overview

/-- the frame tells of a block, with the overview that it gives to one that knows of no block before -/
def Tells (params : ChainParams) (r : BlockReport) (frame : Message) : Prop :=
  ∃ fresh overview, Overview.fresh params = .ok fresh ∧ fresh.apply r params = .ok overview ∧
    frame = .push .newBlock (LatestBlock.codec.text ⟨r.block, overview⟩)

/-! ## The publisher -/

/-- a block that was stored, with the background task that signals it -/
structure StoredBlock where
  task : Nat
  report : BlockReport

theorem Source.setMempool_ok {s s' : Source} {mempool : Option Mempool} (hs : s.setMempool mempool = .ok s') :
    s' = { s with mempool } := by
  unfold setMempool at hs
  cases mempool with
  | none => exact (Except.ok.inj hs).symm
  | some m => cases hc : m.count <;> cases hn : s.counting <;> simp [hc, hn, Except.map] at hs <;> rw [← hs]

namespace Publisher

/-- the push about the latest block -/
def blockPush (p : Publisher) : Message :=
  .push .newBlock ((p.latestBlock.map LatestBlock.codec.text).getD "")

/-- the publisher holds the last of the stored blocks, with the overview that this block alone gives -/
structure Abreast (params : ChainParams) (stores : List StoredBlock) (p : Publisher) : Prop where
  network : p.source.params = params
  known : ∃ fresh, Overview.fresh params = .ok fresh ∧ fresh.params = p.overview.params
  before : stores = [] → p.block = none
  latest : ∀ store, stores.getLast? = some store → p.block = some store.report.block ∧
    ∃ fresh, Overview.fresh params = .ok fresh ∧ fresh.apply store.report params = .ok p.overview

theorem abreast_create {h : Hub} {source : Source} {p : Publisher} (hp : create h source = .ok p) :
    p.Abreast source.params [] := by
  unfold create at hp
  cases ho : Overview.fresh source.params with
  | error e => simp [ho, Except.map] at hp
  | ok fresh =>
    simp only [ho, Except.map, Except.ok.injEq] at hp
    subst hp
    exact ⟨rfl, ⟨fresh, ho, rfl⟩, fun _ => rfl, by simp⟩

variable {params : ChainParams} {stores : List StoredBlock} {p : Publisher}

/-- the figures do not depend on the hub, nor on anything of the source but the parameters -/
theorem Abreast.congr (ha : p.Abreast params stores) (hub : Hub) {source : Source}
    (hs : source.params = p.source.params) : Abreast params stores { p with hub, source } :=
  ⟨hs.trans ha.network, ha.known, ha.before, ha.latest⟩

/-- **The overview after a block is what the block alone gives**, whatever was stored before. -/
theorem Abreast.store (ha : p.Abreast params stores) {task : Nat} {r : BlockReport} {overview : Overview}
    (ho : p.overview.apply r p.source.params = .ok overview) (hub : Hub) :
    Abreast params (stores ++ [⟨task, r⟩]) { p with overview, block := some r.block, hub } := by
  obtain ⟨fresh, hfresh, hconstant⟩ := ha.known
  rw [ha.network] at ho
  have halone : fresh.apply r params = .ok overview := (Overview.apply_congr hconstant r params).trans ho
  refine ⟨ha.network, ⟨fresh, hfresh, ?_⟩, by simp, ?_⟩
  · exact (Overview.params_apply halone).symm
  · intro store hstore
    rw [List.getLast?_concat] at hstore
    cases hstore
    exact ⟨rfl, fresh, hfresh, halone⟩

theorem Abreast.push_before (ha : p.Abreast params []) : p.blockPush = .push .newBlock "" := by
  simp [blockPush, latestBlock, ha.before rfl]

theorem Abreast.push_latest (ha : p.Abreast params stores) {store : StoredBlock}
    (hs : stores.getLast? = some store) : Tells params store.report p.blockPush := by
  obtain ⟨hblock, fresh, hfresh, happly⟩ := ha.latest store hs
  exact ⟨fresh, p.overview, hfresh, happly, by simp [blockPush, latestBlock, hblock]⟩

end Publisher

/-! ## What a move does to the publisher -/

/-- who puts events into the relay in a move, if anybody does -/
def Move.origin : Move → Origin
  | .act (.producer task) => .producer task
  | _ => .heartbeat

/-- a session makes a client, and works for its own one -/
theorem Session.did_personal {s s' : Session} {h : Hub} {ops : List Hub.Op} (hd : s.Did h ops s') :
    ∀ op ∈ ops, op = .register ∨ op.client?.isSome = true := by
  cases hd with
  | opened => simp
  | said _ hsaid =>
    cases hsaid with
    | took _ _ drains => rcases drains with rfl | rfl <;> simp [Hub.Op.client?]
    | _ => simp [Hub.Op.client?]
  | @parted id line d ending => cases hn : ending.needsUnregister <;> simp [partingOps, hn, Hub.Op.client?]
  | _ => simp

theorem Session.did_quiet {s s' : Session} {h : Hub} {ops : List Hub.Op} (hd : s.Did h ops s') :
    ∀ op ∈ ops, op.isQuiet = true := by
  intro op hop
  rcases did_personal hd op hop with rfl | hclient
  · rfl
  · cases op <;> first | rfl | cases hclient

namespace World

/-- the block that a move stores -/
def stored (w : World) : Move → List StoredBlock
  | .ask (.storeBlock r) =>
    match w.publisher.storeBlock r with
    | .ok (_, task) => [⟨task, r⟩]
    | .error _ => []
  | _ => []

/-- what a move does to the publisher, with the block that it stores -/
inductive Progress (w : World) (m : Move) : List StoredBlock → Publisher → Prop
  /-- relay, background tasks and figures stay -/
  | quiet (ops : List Hub.Op) {source : Source} (params : source.params = w.publisher.source.params)
      (quiet : ∀ op ∈ ops, op.isQuiet = true) :
      Progress w m [] { w.publisher with hub := w.hub.run ops, source }
  | hub (op : Hub.Op) (origin : op.origin = m.origin)
      (published : ∀ events, op = .publish events → m = .ask (.publishAll events)) :
      Progress w m [] { w.publisher with hub := w.hub.apply op }
  | stored {r : BlockReport} {overview : Overview}
      (applied : w.publisher.overview.apply r w.publisher.source.params = .ok overview) :
      Progress w m [⟨w.hub.producers.length, r⟩] { w.publisher with
        overview
        block := some r.block
        hub := (w.hub.publish (Publisher.blockEvents r)).1 }

section

variable {w : World} {m : Move}

theorem progress_nothing : Progress w m [] w.publisher :=
  .quiet [] rfl (by simp)

theorem progress_session {i : Nat} {step : Session → Publisher → Option (Publisher × Session)}
    (hstep : ∀ s p p' s', step s p = some (p', s') → s.DidWith p p' s') :
    Progress w m [] ((w.sessionStep i step).getD w).publisher := by
  unfold sessionStep
  cases hs : w.sessions[i]? with
  | none => exact progress_nothing
  | some s =>
    cases hst : step s w.publisher with
    | none => simpa [hst] using progress_nothing
    | some ps =>
      obtain ⟨ops, hdid, hp⟩ := hstep s w.publisher ps.1 ps.2 hst
      simp only [hst, Option.map_some, Option.getD_some, hp]
      exact .quiet ops rfl (Session.did_quiet hdid)

theorem progress_setHub (op : Hub.Op) {k? : Option Hub} (hop : op.origin = m.origin)
    (hpublish : ∀ events, op ≠ .publish events) (hk : k?.getD w.hub = w.hub.apply op) :
    Progress w m [] ((k?.map w.setHub).getD w).publisher := by
  have hmove : ((k?.map w.setHub).getD w).publisher = { w.publisher with hub := w.hub.apply op } := by
    rw [← hk]
    cases k? <;> rfl
  rw [hmove]
  exact .hub op hop fun events he => absurd he (hpublish events)

theorem progress_act (w : World) (a : Actor) : Progress w (.act a) [] (w.move (.act a)).publisher := by
  cases a with
  | producer task => exact progress_setHub (.produce task w.now) rfl (by rintro _ ⟨⟩) rfl
  | hub =>
    simp only [move, act]
    split_ifs
    · exact progress_setHub (.turn w.now) rfl (by rintro _ ⟨⟩) rfl
    · exact progress_nothing
  | ticker => exact progress_setHub (.tick w.now) rfl (by rintro _ ⟨⟩) rfl
  | heartbeat => exact progress_setHub (.beat w.now) rfl (by rintro _ ⟨⟩) rfl
  | connect i => exact progress_session fun s p p' s' => Session.connectStep_did
  | receive i => exact progress_session fun s p p' s' => Session.receiveStep_did
  | send i => exact progress_session fun s p p' s' => Session.sendStep_did
  | close i =>
    have hmove : w.move (.act (.close i)) =
        (w.sessionStep i fun s p => (s.closeStep w.now).map fun s => (p, s)).getD w := rfl
    rw [hmove]
    refine progress_session ?_
    intro s p p' s' hs
    obtain ⟨t, ht, he⟩ := Option.map_eq_some_iff.1 hs
    cases he
    exact ⟨[], Session.closeStep_did ht, rfl⟩

theorem progress_storeBlock (w : World) (r : BlockReport) :
    Progress w (.ask (.storeBlock r)) (stored w (.ask (.storeBlock r))) (w.move (.ask (.storeBlock r))).publisher := by
  cases ho : w.publisher.overview.apply r w.publisher.source.params with
  | error e =>
    simp only [stored, move, Command.isPlain, if_true, perform, storeBlock, Publisher.storeBlock, ho, Except.map]
    exact progress_nothing
  | ok overview =>
    simp only [stored, move, Command.isPlain, if_true, perform, storeBlock, Publisher.storeBlock, ho, Except.map]
    exact .stored ho

theorem progress_setMempool (w : World) (mempool : Option Mempool) :
    Progress w (.ask (.setMempool mempool)) [] (w.move (.ask (.setMempool mempool))).publisher := by
  cases hs : w.publisher.source.setMempool mempool with
  | error e =>
    simp only [move, Command.isPlain, if_true, perform, setMempool, Publisher.setMempool, hs, Except.map]
    exact progress_nothing
  | ok source =>
    simp only [move, Command.isPlain, if_true, perform, setMempool, Publisher.setMempool, hs, Except.map]
    exact .quiet [] (by rw [Source.setMempool_ok hs]) (by simp)

theorem progress_ask (w : World) (c : Command) :
    Progress w (.ask c) (stored w (.ask c)) (w.move (.ask c)).publisher := by
  cases c with
  | publishAll events =>
    refine .hub (.publish events) rfl ?_
    rintro _ ⟨⟩
    rfl
  | storeBlock r => exact progress_storeBlock w r
  | setMempool mempool => exact progress_setMempool w mempool
  | setReady ready => exact .hub (.setReady ready) rfl nofun
  | stop => exact .hub .stop rfl nofun
  | release => exact .hub .release rfl nofun
  | connect s =>
    simp only [stored, move]
    split_ifs <;> exact progress_nothing
  | _ => exact progress_nothing

/-- **What a move does to the publisher.** -/
theorem progress (w : World) (m : Move) : Progress w m (stored w m) (w.move m).publisher := by
  cases m with
  | act a => exact progress_act w a
  | wait ms => exact progress_nothing
  | ask c => exact progress_ask w c

/-- **The trail lists the events that are on their way, after every move.** -/
theorem fits_move {t : Hub.Trail} (hs : w.hub.Sound) (hf : t.Fits w.hub) (m : Move) :
    (t.follow m.origin (w.move m).hub).Fits (w.move m).hub := by
  have hp := progress w m
  unfold hub
  generalize stored w m = stores, (w.move m).publisher = p at hp
  cases hp with
  | quiet ops _ quiet => exact Hub.fits_still hf (Hub.still_run w.hub quiet) _
  | hub op origin => exact origin ▸ Hub.fits_apply hs hf op
  | @stored r => exact Hub.fits_publish hf (Publisher.blockEvents r) _

/-- **The publisher holds what the block stored last gives alone, after every move.** -/
theorem abreast_move {params : ChainParams} {stores : List StoredBlock} (ha : w.publisher.Abreast params stores)
    (m : Move) : (w.move m).publisher.Abreast params (stores ++ stored w m) := by
  have hp := progress w m
  generalize stored w m = new, (w.move m).publisher = p at hp
  cases hp with
  | quiet _ params =>
    rw [List.append_nil]
    exact ha.congr _ params
  | hub =>
    rw [List.append_nil]
    exact ha.congr _ rfl
  | stored applied => exact ha.store applied _

theorem abreast_create {config : HubConfig} {source : Source} {runs : Bool} {w : World}
    (hw : World.create config source runs = .ok w) : w.publisher.Abreast source.params [] := by
  unfold World.create at hw
  cases hh : Hub.create config with
  | error e => simp [hh, bind, Except.bind] at hw
  | ok h =>
    cases hp : Publisher.create h source with
    | error e => simp [hh, hp, bind, Except.bind] at hw
    | ok p =>
      simp only [hh, hp, bind, Except.bind, Except.ok.injEq] at hw
      subst hw
      exact Publisher.abreast_create hp

/-- the block that a move stores is signalled by a new task -/
theorem stored_signalled {t : Hub.Trail} (hf : t.Fits w.hub) {store : StoredBlock} (hs : store ∈ stored w m) :
    store.task = t.tasks.length ∧
      (t.follow m.origin (w.move m).hub).tasks = t.tasks ++ [Publisher.blockEvents store.report] := by
  have hp := progress w m
  unfold hub
  generalize stored w m = stores, (w.move m).publisher = p at hp hs
  cases hp with
  | quiet => cases hs
  | hub => cases hs
  | stored =>
    rw [List.mem_singleton.1 hs]
    refine ⟨hf.tasks.symm, ?_⟩
    simp [Hub.Trail.follow, Hub.publish, hf.tasks, World.hub]

end

end World

end ChainFeed
