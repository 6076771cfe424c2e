/-
What sessions are told about new blocks: never less than what the event is about, and never of two blocks at once.

The push for a `newblock` event is filled in when the send pump takes the event, with the block and the overview that
the publisher holds then. `Traced` is a run together with the blocks stored so far and the trail of the hub's events,
so that each push can be held against the block whose event it is for.

- `blockPushes_cases`: a session puts a push about a block in line when its send pump takes a `newblock` event.
- `blockPushes_written`: those that it writes are, in order, the first of those that it puts in line.
- `current_move`: every push stays what it was when it was rendered.
- `blocks_current`: the push for the event of the `k`-th block tells of the `j`-th one alone, for some `j ≥ k`, and `j`
  never goes back within a session.
-/
import ChainFeed.Proofs.World.Publisher
import ChainFeed.Proofs.World.Replies

namespace ChainFeed

/-! ## Pushes about blocks -/

/-- whether the frame is a push about a new block -/
def Message.isBlockPush (m : Message) : Bool :=
  decide (m.eventId = EventKind.newBlock.name)

theorem Message.isBlockPush_of_reply {m : Message} (hm : m.isReply = true) : m.isBlockPush = false := by
  by_contra hb
  rw [Bool.not_eq_false] at hb
  have hid : m.eventId = "newblock" := of_decide_eq_true hb
  rw [isReply, hid] at hm
  exact absurd hm (by decide)

/-- the frames of a session that are in line for its sink -/
def Session.inLine (s : Session) : List Message :=
  match s.stage with
  | .open _ line _ => line.map (·.frame)
  | _ => []

namespace Publisher

theorem isReply_answerFrame {p : Publisher} {id : ClientId} {limit : Nat} {text : String} {m : Message}
    (hm : (p.answerFrame id limit text).2 = some m) : m.isReply = true := by
  unfold answerFrame at hm
  split at hm
  · cases hm
    exact show "Resp".toList.isSuffixOf "invalidResp".toList = true by decide
  · split_ifs at hm
    · cases hm
      exact Message.isReply_resp _ _
    · unfold answer at hm
      split at hm
      · cases hm
      · obtain ⟨text, -, rfl⟩ := Option.map_eq_some_iff.1 hm
        exact Message.isReply_resp _ _

/-- a push about a block is rendered for a `newblock` event, and tells of the latest block -/
theorem render_blockPush (p : Publisher) (id : ClientId) (e : Event) :
    (p.render id e).2.toList.filter (·.isBlockPush) = if e = .newBlock then [p.blockPush] else [] := by
  split_ifs with he
  · subst he
    rfl
  · obtain ⟨-, -, -, -, hpush⟩ := p.render_pushes id e
    refine List.filter_eq_nil_iff.2 ?_
    intro m hm hb
    have hid : m.eventId = EventKind.newBlock.name := of_decide_eq_true hb
    have htarget : m.pushed? = some (.kind .newBlock) := by
      rw [Message.pushed?, hid, EventKind.ofName?_name]
    have hsame := htarget.symm.trans (hpush m (Option.mem_toList.1 hm)).1
    cases e <;> simp_all [Event.target, Event.kind]

end Publisher

namespace Session

variable {p p' : Publisher} {s s' : Session} {now : Nat}

/-- the frames that get in line -/
def lined (s s' : Session) : List Message :=
  s'.inLine.drop s.inLine.length

theorem lined_of_le (h : s'.inLine.length ≤ s.inLine.length) : s.lined s' = [] :=
  List.drop_eq_nil_of_le h

theorem inLine_open {id : ClientId} {line : List Write} {d : Option Nat} (hst : s.stage = .open id line d) :
    s.inLine = line.map (·.frame) := by
  unfold inLine
  rw [hst]

theorem inLine_congr (hst : s'.stage = s.stage) : s'.inLine = s.inLine := by
  unfold inLine
  rw [hst]

theorem lined_enqueue {id : ClientId} {line : List Write} {d : Option Nat} (hst : s.stage = .open id line d)
    (inbox : List Frame) (intake : Intake) (pump : Pump) (frame : Option Message) :
    s.lined ({ s with inbox, intake }.enqueue pump frame) = frame.toList := by
  rw [enqueue_eq (s := { s with inbox, intake }) hst, lined, inLine_open hst]
  simp [inLine, Function.comp_def]

theorem finish_lined {id : ClientId} {ending : SessionEnd} (hs : s.finish p id ending now = (p', s')) :
    s.lined s' = [] := by
  cases hs
  exact lined_of_le (Nat.zero_le _)

theorem writeStep_lined {id : ClientId} {line : List Write} {d : Option Nat} {pump : Pump}
    (hst : s.stage = .open id line d) (hs : s.writeStep p pump now = some (p', s')) : s.lined s' = [] := by
  refine (writeStep_cases hst hs).elim finish_lined ?_
  rintro ⟨-, ⟨t, rfl⟩ | ⟨x, rest, rfl, rfl⟩⟩
  · refine lined_of_le (Nat.le_of_eq ?_)
    rw [inLine_open hst]
    rfl
  · refine lined_of_le ?_
    rw [inLine_open hst]
    simp [inLine]

/-- the receive pump puts replies in line, and no pushes -/
theorem receiveStep_lined (hs : s.receiveStep p now = some (p', s')) :
    (s.lined s').filter (·.isBlockPush) = [] := by
  obtain ⟨id, line, d, hst, hreceived⟩ := receiveStep_received hs
  have hturned : ∀ t : Session, t.stage = s.stage → (s.lined t).filter (·.isBlockPush) = [] := fun t ht => by
    rw [lined_of_le (Nat.le_of_eq (by rw [inLine_congr ht])), List.filter_nil]
  cases hreceived with
  | writing _ hs => rw [writeStep_lined hst hs, List.filter_nil]
  | answering _ _ hs =>
    cases hs
    rw [lined_enqueue hst]
    refine List.filter_eq_nil_iff.2 ?_
    intro m hm hb
    have hreply := Publisher.isReply_answerFrame (Option.mem_toList.1 hm)
    simp [Message.isBlockPush_of_reply hreply] at hb
  | asking _ _ _ hs =>
    cases hs
    exact hturned _ rfl
  | skipping _ _ _ hs =>
    cases hs
    exact hturned _ rfl
  | reading _ _ hs he =>
    cases he
    exact hturned _ (stage_readStep hs)
  | @ending inbox _ _ _ hs =>
    have hnone : s.lined s' = [] := finish_lined (s := { s with inbox }) hs
    rw [hnone, List.filter_nil]

/-- the send pump puts a push about a block in line when it takes a `newblock` event -/
theorem sendStep_lined (hs : s.sendStep p now = some (p', s')) :
    (s.lined s').filter (·.isBlockPush) = [] ∨
      ∃ id rest, s.client? = some id ∧ p.hub.queued id = .newBlock :: rest ∧
        (s.lined s').filter (·.isBlockPush) = [p.blockPush] := by
  obtain ⟨id, line, d, hst, hs | ⟨ending, hs⟩ | ⟨e, hub, hr, hs⟩⟩ := sendStep_cases hs
  · exact Or.inl (by rw [writeStep_lined hst hs, List.filter_nil])
  · exact Or.inl (by rw [finish_lined hs, List.filter_nil])
  · obtain ⟨c, rest, hc, hq, -⟩ := Hub.receive_eq_some hr
    unfold takeEvent at hs
    split_ifs at hs
    · have hs' : s' = s.enqueue .send (({ p with hub } : Publisher).render id e).2 := (congrArg Prod.snd hs).symm
      have hlined : s.lined s' = (({ p with hub } : Publisher).render id e).2.toList :=
        hs' ▸ lined_enqueue hst s.inbox s.intake .send _
      rw [hlined, Publisher.render_blockPush]
      split_ifs with he
      · subst he
        exact Or.inr ⟨id, rest, by simp [client?, hst], by simp [Hub.queued, hc, hq], rfl⟩
      · exact Or.inl rfl
    · cases hs
      exact Or.inl (by rw [lined_of_le (Nat.le_refl _), List.filter_nil])

theorem connectStep_lined (hs : s.connectStep p = some (p', s')) : s.lined s' = [] := by
  unfold connectStep at hs
  split at hs
  · split at hs
    · cases hs
      exact lined_of_le (Nat.zero_le _)
    · cases hs
      exact lined_of_le (Nat.zero_le _)
    · split_ifs at hs
      cases hs
      exact lined_of_le (Nat.zero_le _)
  · cases hs

theorem closeStep_lined (hs : s.closeStep now = some s') : s.lined s' = [] := by
  unfold closeStep at hs
  split at hs
  · split at hs
    · cases hs
      exact lined_of_le (Nat.zero_le _)
    · cases hs
      exact lined_of_le (Nat.zero_le _)
    · split_ifs at hs
      cases hs
      exact lined_of_le (Nat.zero_le _)
  · cases hs

end Session

namespace World

/-- the pushes about blocks that a session puts in line in a move -/
def blockPushes (i : Nat) (w : World) (m : Move) : List Message :=
  match w.sessions[i]?, (w.move m).sessions[i]? with
  | some s, some s' => (s.lined s').filter (·.isBlockPush)
  | _, _ => []

section

variable {w : World} {m : Move} {i : Nat} {s s' : Session}

theorem blockPushes_eq (hi : w.sessions[i]? = some s) (hi' : (w.move m).sessions[i]? = some s') :
    blockPushes i w m = (s.lined s').filter (·.isBlockPush) := by
  simp [blockPushes, hi, hi']

theorem blockPushes_absent (w : World) (m : Move) (hi : w.sessions[i]? = none) : blockPushes i w m = [] := by
  simp [blockPushes, hi]

/-- **A session puts a push about a block in line when its send pump takes a `newblock` event**, and it tells of the
latest block. -/
theorem blockPushes_cases (hw : Wired w) (i : Nat) (m : Move) :
    blockPushes i w m = [] ∨ ∃ s id rest, w.sessions[i]? = some s ∧ s.client? = some id ∧
      w.hub.queued id = .newBlock :: rest ∧ blockPushes i w m = [w.publisher.blockPush] := by
  cases hi : w.sessions[i]? with
  | none => exact Or.inl (blockPushes_absent w m hi)
  | some s =>
    by_cases hm : m.session? = some i
    · obtain ⟨s', hi', hown⟩ := own_move hi hm
      rw [blockPushes_eq hi hi']
      generalize (w.move m).publisher = p', heard i w m = texts at hown
      cases hown with
      | waited => exact Or.inl (by rw [Session.lined_of_le (Nat.le_refl _), List.filter_nil])
      | connected hs => exact Or.inl (by rw [Session.connectStep_lined hs, List.filter_nil])
      | received hs => exact Or.inl (Session.receiveStep_lined hs)
      | sent hs =>
        refine (Session.sendStep_lined hs).imp_right ?_
        rintro ⟨id, rest, hc, hq, hpush⟩
        exact ⟨s, id, rest, rfl, hc, hq, hpush⟩
      | closed hs => exact Or.inl (by rw [Session.closeStep_lined hs, List.filter_nil])
    · obtain ⟨s', hi', apart⟩ := seen_apart hw hi hm
      have hsame := Session.inLine_congr apart.stage
      rw [blockPushes_eq hi hi', Session.lined_of_le (Nat.le_of_eq (by rw [hsame])), List.filter_nil]
      exact Or.inl rfl

/-! ## Frames in line are written in that order -/

/-- how the pushes about blocks that a session has written stand to those that it has put in line -/
def Lined (frames pushes : List Message) (s : Session) : Prop :=
  match s.stage with
  | .connecting | .open .. => (frames ++ s.inLine).filter (·.isBlockPush) = pushes
  | _ => frames.filter (·.isBlockPush) <+: pushes

variable {frames pushes : List Message}

theorem Lined.inOrder (hl : Lined frames pushes s) : frames.filter (·.isBlockPush) <+: pushes := by
  unfold Lined at hl
  split at hl
  · rw [← hl, List.filter_append]
    exact List.prefix_append _ _
  · rw [← hl, List.filter_append]
    exact List.prefix_append _ _
  · exact hl

theorem lined_own {h : Hub} {ops : List Hub.Op} (hl : Lined frames pushes s) (hd : s.Did h ops s') :
    Lined (frames ++ s'.sink.unread.drop s.sink.unread.length)
      (pushes ++ (s.lined s').filter (·.isBlockPush)) s' := by
  have horder := hl.inOrder
  cases hd with
  | broke | refused | parted | ended =>
    have hnone : ∀ t : Session, t.inLine = [] → s.lined t = [] := fun t ht => by simp [Session.lined, ht]
    rw [hnone _ rfl, List.filter_nil, List.append_nil, List.drop_length, List.append_nil]
    exact horder
  | opened hstage =>
    simp only [Lined, hstage, Session.inLine] at hl
    simpa [Lined, Session.lined, Session.inLine, hstage] using hl
  | @timed id line d t hstage =>
    have hnone : (line.map (·.frame)).drop line.length = [] := List.drop_eq_nil_of_le (by simp)
    simp only [Lined, hstage, Session.inLine] at hl
    simpa [Lined, Session.lined, Session.inLine, hstage, hnone] using hl
  | @wrote id x line d hstage =>
    have hnone : (line.map (·.frame)).drop (line.length + 1) = [] := List.drop_eq_nil_of_le (by simp)
    simp only [Lined, hstage, Session.inLine] at hl
    simpa [Lined, Session.lined, Session.inLine, hstage, Sink.write, hnone] using hl
  | said hstage =>
    simp only [Lined, hstage, Session.inLine] at hl
    simpa [Lined, Session.lined, Session.inLine, hstage, Function.comp_def, ← List.append_assoc] using hl

theorem lined_move (hw : Wired w) (hi : w.sessions[i]? = some s) (hi' : (w.move m).sessions[i]? = some s')
    (hl : Lined frames pushes s) : Lined (frames ++ written i w m) (pushes ++ blockPushes i w m) s' := by
  obtain ⟨t, ht, hseen⟩ := seen hw hi m
  cases hi'.symm.trans ht
  rw [written_eq hi hi', blockPushes_eq hi hi']
  cases hseen with
  | own did => exact lined_own hl did
  | other _ stage unread =>
    have hsame := Session.inLine_congr stage
    rw [List.drop_eq_nil_of_le unread.length_le, List.append_nil,
      Session.lined_of_le (Nat.le_of_eq (by rw [hsame])), List.filter_nil, List.append_nil]
    unfold Lined at hl ⊢
    rw [stage, hsame]
    exact hl

end

theorem lined_run {w₀ : World} (hw : Wired w₀) (hs : w₀.sessions = []) {moves : List Move} {i : Nat} {s : Session}
    (hi : (w₀.run moves).sessions[i]? = some s) :
    Lined (w₀.record (written i) moves) (w₀.record (blockPushes i) moves) s := by
  induction moves using List.reverseRecOn generalizing s with
  | nil => simp [run, hs] at hi
  | append_singleton moves m ih =>
    rw [run_concat] at hi
    rw [record_concat, record_concat]
    cases ht : (w₀.run moves).sessions[i]? with
    | none =>
      have hframes : w₀.record (written i) moves = [] := record_absent (fun w m hi => by simp [written, hi]) hw ht
      have hpushes : w₀.record (blockPushes i) moves = [] := record_absent blockPushes_absent hw ht
      simp [Lined, Session.inLine, (appeared ht hi).1, hframes, hpushes, written, ht, blockPushes_absent _ m ht]
    | some t => exact lined_move (wired_run hw moves) ht hi (ih ht)

/-- **The pushes about blocks that a session writes are, in order, the first of those that it puts in line.** -/
theorem blockPushes_written {w₀ : World} (hw : Wired w₀) (hs : w₀.sessions = []) (moves : List Move) (i : Nat) :
    (w₀.record (written i) moves).filter (·.isBlockPush) <+: w₀.record (blockPushes i) moves := by
  cases hi : (w₀.run moves).sessions[i]? with
  | none =>
    rw [record_absent (fun w m hi => by simp [written, hi]) hw hi]
    exact List.nil_prefix
  | some s => exact (lined_run hw hs hi).inOrder

end World

/-! ## Runs with their blocks -/

/-- a running system with the blocks stored so far, and where the events come from that are on their way -/
structure Traced where
  world : World
  trail : Hub.Trail := {}
  stores : List StoredBlock := []

/-- a push about a block, as it was rendered -/
structure Rendering where
  frame : Message
  /-- the event that it was rendered for, with its origin -/
  cause? : Option Stamped
  /-- how many blocks had been stored -/
  stores : Nat

namespace Traced

/-- carries out a move -/
def move (x : Traced) (m : Move) : Traced where
  world := x.world.move m
  trail := x.trail.follow m.origin (x.world.move m).hub
  stores := x.stores ++ x.world.stored m

def run (x : Traced) (moves : List Move) : Traced :=
  Trace.run move x moves

/-- the oldest event in the channel of a session's client -/
def oldest? (i : Nat) (x : Traced) : Option Stamped :=
  ((x.world.sessions[i]?).bind (·.client?)).bind fun id => (x.trail.channels id).head?

/-- the pushes about blocks that a session puts in line in a move -/
def rendered (i : Nat) (x : Traced) (m : Move) : List Rendering :=
  (x.world.blockPushes i m).map fun frame => ⟨frame, x.oldest? i, x.stores.length⟩

/-- the pushes about blocks that a session puts in line in a list of moves -/
def renderings (i : Nat) (x : Traced) (moves : List Move) : List Rendering :=
  Trace.record move (rendered i) x moves

theorem run_concat (x : Traced) (moves : List Move) (m : Move) : x.run (moves ++ [m]) = (x.run moves).move m :=
  Trace.run_concat _ _ _ _

theorem renderings_concat (i : Nat) (x : Traced) (moves : List Move) (m : Move) :
    x.renderings i (moves ++ [m]) = x.renderings i moves ++ (x.run moves).rendered i m :=
  Trace.record_concat _ _ _ _ _

/-- what is traced does not change the run -/
theorem world_run (x : Traced) (moves : List Move) : (x.run moves).world = x.world.run moves := by
  induction moves generalizing x with
  | nil => rfl
  | cons m moves ih => exact ih (x.move m)

theorem frames_renderings (i : Nat) (x : Traced) (moves : List Move) :
    (x.renderings i moves).map (·.frame) = x.world.record (World.blockPushes i) moves := by
  induction moves generalizing x with
  | nil => rfl
  | cons m moves ih =>
    calc (x.renderings i (m :: moves)).map (·.frame)
        = (x.rendered i m).map (·.frame) ++ ((x.move m).renderings i moves).map (·.frame) := List.map_append
      _ = x.world.blockPushes i m ++ (x.world.move m).record (World.blockPushes i) moves := by
          rw [ih, rendered, List.map_map]
          simp [Function.comp_def, move]
      _ = x.world.record (World.blockPushes i) (m :: moves) := rfl

/-- what holds of a push about a block, in view of the blocks stored and the events published -/
structure Current (params : ChainParams) (x : Traced) (r : Rendering) : Prop where
  /-- it is rendered for a `newblock` event that its origin has published -/
  cause : ∃ origin, r.cause? = some ⟨.newBlock, origin⟩ ∧ x.trail.Published ⟨.newBlock, origin⟩
  /-- if that is the one of the `k`-th block, then this one has been stored -/
  later : ∀ k store, x.stores[k]? = some store → r.cause? = some ⟨.newBlock, .producer store.task⟩ → k < r.stores
  bounded : r.stores ≤ x.stores.length
  /-- it tells of the block that was stored last, with the overview that this one alone gives -/
  single : ∀ j, r.stores = j + 1 → ∃ last, x.stores[j]? = some last ∧ Tells params last.report r.frame
  /-- before the first block it tells of nothing -/
  empty : r.stores = 0 → r.frame = .push .newBlock ""

/-- what holds after every run -/
structure Kept (params : ChainParams) (x : Traced) : Prop where
  wired : World.Wired x.world
  fits : x.trail.Fits x.world.hub
  abreast : x.world.publisher.Abreast params x.stores
  /-- the task of a block publishes the events that signal it -/
  signalled : ∀ store ∈ x.stores, x.trail.tasks[store.task]? = some (Publisher.blockEvents store.report)

variable {params : ChainParams} {x : Traced}

theorem kept_move (hk : x.Kept params) (m : Move) : (x.move m).Kept params where
  wired := World.wired_move hk.wired m
  fits := World.fits_move hk.wired.sound hk.fits m
  abreast := World.abreast_move hk.abreast m
  signalled := by
    intro store hstore
    rcases List.mem_append.1 hstore with hold | hnew
    · have htask := (List.getElem?_eq_some_iff.1 (hk.signalled store hold)).1
      exact (List.getElem?_append_left htask).trans (hk.signalled store hold)
    · obtain ⟨htask, htasks⟩ := World.stored_signalled hk.fits hnew
      exact htasks ▸ htask ▸ List.getElem?_concat_length

theorem kept_run (hk : x.Kept params) (moves : List Move) : (x.run moves).Kept params :=
  Trace.run_induction (P := Kept params) (fun _ m hk => kept_move hk m) hk moves

theorem kept_create {config : HubConfig} {source : Source} {runs : Bool} {w₀ : World}
    (hw : World.create config source runs = .ok w₀) : Kept source.params { world := w₀ } where
  wired := World.wired_create hw
  fits := Hub.fits_create (World.create_ok hw).1
  abreast := World.abreast_create hw
  signalled := by simp

/-- **A push is rendered as it should be**: for the oldest event in the channel, and with the latest block. -/
theorem current_rendered (hk : x.Kept params) {i : Nat} {m : Move} {r : Rendering} (hr : r ∈ x.rendered i m) :
    x.Current params r := by
  obtain ⟨frame, hframe, rfl⟩ := List.mem_map.1 hr
  rcases World.blockPushes_cases hk.wired i m with hnone | ⟨s, id, rest, hi, hc, hq, hpush⟩
  · simp [hnone] at hframe
  rw [hpush, List.mem_singleton] at hframe
  subst hframe
  have hstamps := hk.fits.channels id
  -- the stamp that stands first is that of the event that is taken
  obtain ⟨stamp, more, hchannel⟩ : ∃ stamp more, x.trail.channels id = stamp :: more := by
    refine List.exists_cons_of_ne_nil ?_
    intro hnil
    simpa [hnil, hq] using hstamps.events
  have hevent : stamp.event = .newBlock := by
    have hevents := hstamps.events
    rw [hchannel, hq, List.map_cons] at hevents
    exact (List.cons.inj hevents).1
  have holdest : x.oldest? i = some ⟨.newBlock, stamp.origin⟩ := by
    simp [oldest?, hi, hc, hchannel, ← hevent]
  refine ⟨⟨stamp.origin, holdest, ?_⟩, ?_, Nat.le_refl _, ?_, ?_⟩
  · rcases hstamps.all stamp (by simp [hchannel]) with hflush | hpublished
    · simp [hevent] at hflush
    · exact hevent ▸ hpublished
  · intro k store hstore _
    exact (List.getElem?_eq_some_iff.1 hstore).1
  · intro j hj
    have hlength : x.stores.length = j + 1 := hj
    have hlast : x.stores.getLast? = x.stores[j]? := by
      rw [List.getLast?_eq_getElem?, hlength, Nat.add_sub_cancel]
    have hget : x.stores[j]? = some x.stores[j] := List.getElem?_eq_getElem (by omega)
    exact ⟨x.stores[j], hget, hk.abreast.push_latest (hlast.trans hget)⟩
  · intro hzero
    have hnone : x.stores = [] := List.eq_nil_of_length_eq_zero hzero
    exact (hnone ▸ hk.abreast).push_before

/-- **A push stays what it was when it was rendered**: no block that is stored later has the task of its event. -/
theorem current_move (hk : x.Kept params) (m : Move) {r : Rendering} (hr : x.Current params r) :
    (x.move m).Current params r where
  cause := by
    obtain ⟨origin, hcause, hpublished⟩ := hr.cause
    exact ⟨origin, hcause, Hub.Trail.published_extend (List.prefix_append _ _) hpublished⟩
  later := by
    intro k store hstore hcause
    by_cases hk' : k < x.stores.length
    · exact hr.later k store ((List.getElem?_append_left hk').symm.trans hstore) hcause
    · exfalso
      have hnew : store ∈ x.world.stored m := by
        change (x.stores ++ x.world.stored m)[k]? = some store at hstore
        rw [List.getElem?_append_right (Nat.le_of_not_lt hk')] at hstore
        exact List.mem_of_getElem? hstore
      obtain ⟨origin, hown, hpublished⟩ := hr.cause
      cases hcause.symm.trans hown
      have hlt := hpublished.lt
      have htask := (World.stored_signalled hk.fits hnew).1
      omega
  bounded := Nat.le_trans hr.bounded (by simp [move])
  single := by
    intro j hj
    obtain ⟨last, hlast, htells⟩ := hr.single j hj
    exact ⟨last, (List.getElem?_append_left (List.getElem?_eq_some_iff.1 hlast).1).trans hlast, htells⟩
  empty := hr.empty

/-- after every run, each push is current, and none goes back behind one before it -/
theorem current_run (hk : x.Kept params) (i : Nat) (moves : List Move) :
    (∀ r ∈ x.renderings i moves, (x.run moves).Current params r) ∧
      (x.renderings i moves).Pairwise (·.stores ≤ ·.stores) := by
  induction moves using List.reverseRecOn with
  | nil => exact ⟨by simp [renderings], List.Pairwise.nil⟩
  | append_singleton moves m ih =>
    obtain ⟨hcurrent, hordered⟩ := ih
    have hkept := kept_run hk moves
    rw [renderings_concat, run_concat]
    refine ⟨?_, ?_⟩
    · intro r hr
      rcases List.mem_append.1 hr with hr | hr
      · exact current_move hkept m (hcurrent r hr)
      · exact current_move hkept m (current_rendered hkept hr)
    · have hsame : ∀ r ∈ (x.run moves).rendered i m, r.stores = (x.run moves).stores.length := by
        intro r hr
        obtain ⟨frame, -, rfl⟩ := List.mem_map.1 hr
        rfl
      refine List.pairwise_append.2 ⟨hordered, ?_, ?_⟩
      · exact List.pairwise_of_forall_mem_list fun r hr r' hr' => Nat.le_of_eq ((hsame r hr).trans (hsame r' hr').symm)
      · intro r hr r' hr'
        rw [hsame r' hr']
        exact (hcurrent r hr).bounded

end Traced

namespace World

/-- what holds of the pushes about blocks of a session, after a list of moves -/
structure ToldBlocks (params : ChainParams) (w₀ : World) (moves : List Move) (i : Nat) (x : Traced)
    (pushes : List Rendering) : Prop where
  /-- the run is that of the system -/
  world : x.world = w₀.run moves
  /-- the task of a block publishes the events that signal it -/
  signalled : ∀ store ∈ x.stores, x.trail.tasks[store.task]? = some (Publisher.blockEvents store.report)
  /-- each push is rendered for a `newblock` event that its origin has published -/
  cause : ∀ r ∈ pushes, ∃ origin, r.cause? = some ⟨.newBlock, origin⟩ ∧ x.trail.Published ⟨.newBlock, origin⟩
  /-- that for the event of the `k`-th block tells of the `j`-th one, for some `j ≥ k` -/
  current : ∀ r ∈ pushes, ∀ k store, x.stores[k]? = some store →
    r.cause? = some ⟨.newBlock, .producer store.task⟩ →
    ∃ j last, k ≤ j ∧ r.stores = j + 1 ∧ x.stores[j]? = some last ∧ Tells params last.report r.frame
  /-- each tells of the block that was stored last, with the overview that this one alone gives -/
  single : ∀ r ∈ pushes, ∀ j, r.stores = j + 1 →
    ∃ last, x.stores[j]? = some last ∧ Tells params last.report r.frame
  /-- before the first block they tell of nothing -/
  empty : ∀ r ∈ pushes, r.stores = 0 → r.frame = .push .newBlock ""
  /-- none tells of an earlier block than one before it -/
  ordered : pushes.Pairwise (·.stores ≤ ·.stores)
  /-- those that are written are, in order, the first of them -/
  written : (w₀.record (written i) moves).filter (·.isBlockPush) <+: pushes.map (·.frame)

/-- **Pushes about blocks are never stale and never mix two blocks.** Over every run of a new world, the push for the
`newblock` event of the `k`-th stored block tells of the `j`-th one for some `j ≥ k`, with the overview that this block
alone gives to one that knows of none, and within a session `j` never goes back. -/
theorem blocks_current {config : HubConfig} {source : Source} {runs : Bool} {w₀ : World}
    (hw : World.create config source runs = .ok w₀) (moves : List Move) (i : Nat) :
    ToldBlocks source.params w₀ moves i (Traced.run { world := w₀ } moves)
      (Traced.renderings i { world := w₀ } moves) := by
  have hkept := Traced.kept_create hw
  obtain ⟨hcurrent, hordered⟩ := Traced.current_run hkept i moves
  refine ⟨Traced.world_run _ moves, (Traced.kept_run hkept moves).signalled, fun r hr => (hcurrent r hr).cause, ?_,
    fun r hr => (hcurrent r hr).single, fun r hr => (hcurrent r hr).empty, hordered, ?_⟩
  · intro r hr k store hstore hcause
    obtain ⟨j, hj⟩ : ∃ j, r.stores = j + 1 :=
      Nat.exists_eq_add_one.2 (Nat.zero_lt_of_lt ((hcurrent r hr).later k store hstore hcause))
    obtain ⟨last, hlast, htells⟩ := (hcurrent r hr).single j hj
    have hlater := (hcurrent r hr).later k store hstore hcause
    exact ⟨j, last, by omega, hj, hlast, htells⟩
  · rw [Traced.frames_renderings]
    exact blockPushes_written (wired_create hw) (create_ok hw).2 moves i

/-- the event of the first block is taken when the second one is stored already, and tells of that -/
theorem blocks_current_two :
    ∃ w₀, World.create {} { Source.idle with params := { ticketsPerBlock := 0 } } true = .ok w₀ ∧ ∃ moves,
      ((Traced.run { world := w₀ } moves).stores.map fun store => (store.task, store.report.block.height)) =
        [(0, 1), (1, 2)] ∧
      ((Traced.renderings 0 { world := w₀ } moves).map fun r => (r.cause?, r.stores)) =
        [(some ⟨.newBlock, .producer 0⟩, 2), (some ⟨.newBlock, .producer 1⟩, 2)] ∧
      ToldBlocks { ticketsPerBlock := 0 } w₀ moves 0 (Traced.run { world := w₀ } moves)
        (Traced.renderings 0 { world := w₀ } moves) := by
  refine ⟨_, rfl, [.ask (.connect {}), .act .hub, .act (.connect 0), .act .hub,
    .ask (.feed 0 (.text "\x7b\"event_id\":\"subscribe\",\"message\":\"newblock\"\x7d")), .act (.receive 0),
    .act (.receive 0), .ask (.storeBlock { block := { height := 1 } }), .act (.producer 0), .act .hub,
    .ask (.storeBlock { block := { height := 2 } }), .act (.send 0), .act (.send 0), .act (.producer 1), .act .hub,
    .act (.send 0), .act (.send 0)], ?_, ?_, ?_⟩
  · rfl
  · rfl
  · exact blocks_current
      (show World.create {} { Source.idle with params := { ticketsPerBlock := 0 } } true = .ok _ from rfl) _ 0

end World

end ChainFeed
