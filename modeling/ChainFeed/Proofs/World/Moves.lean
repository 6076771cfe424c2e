/-
Everything that can happen to a running system, one move at a time.

A move is a move of one task, time that passes, or something from outside: chain activity, an order to the hub, a new
connection, or what its peer does. Main statements:
- `moved`: a move is an operation on the hub, a move of one session, a change of a session from outside, or a new
  session.
- `wired_run`: the clients of sessions exist and are different.
- `seen`: a move as one session sees it: its own, or one that leaves its client alone.
- `owned_run`: every client is the client of a session.
-/
import ChainFeed.Proofs.Hub.Membership
import ChainFeed.Proofs.Session.Moves
import ChainFeed.World.Command
import Mathlib.Data.List.Induction

namespace ChainFeed

/-- a source that decodes and sends nothing -/
def Source.idle : Source where
  decode _ := .error (.source "idle")
  send _ := .error (.source "idle")

/-- whether a command is carried out at once and is not about a client without a session; a new connection has
nothing written to it -/
def Command.isPlain : Command → Bool
  | .publishAll _ | .storeBlock _ | .setMempool _ | .setReady _ | .stop | .release => true
  | .connect s => decide (s.stage = .connecting) && s.sink.unread.isEmpty
  | .feed .. | .endInput _ | .read .. | .failSink _ => true
  | _ => false

/-- one thing that happens to a running system -/
inductive Move where
  /-- a task makes a move -/
  | act (actor : Actor)
  /-- time passes -/
  | wait (ms : Nat)
  /-- something comes from outside -/
  | ask (command : Command)

/-- the session whose task makes the move -/
def Move.session? : Move → Option Nat
  | .act (.connect i) | .act (.receive i) | .act (.send i) | .act (.close i) => some i
  | _ => none

theorem Move.eq_act {m : Move} {i : Nat} (hm : m.session? = some i) : ∃ a, m = .act a := by
  cases m with
  | act a => exact ⟨a, rfl⟩
  | _ => cases hm

theorem Session.stage_feed (f : Frame) (s : Session) : (s.feed f).stage = s.stage := by
  unfold feed
  split_ifs <;> rfl

theorem Session.input_feed (f : Frame) (s : Session) :
    (s.feed f).config = s.config ∧ (s.feed f).intake = s.intake ∧ s.inbox <+: (s.feed f).inbox := by
  unfold feed
  split_ifs
  · exact ⟨rfl, rfl, List.prefix_append _ _⟩
  · exact ⟨rfl, rfl, List.prefix_refl _⟩

theorem Session.unread_feed (f : Frame) (s : Session) : (s.feed f).sink.unread <:+ s.sink.unread := by
  unfold feed
  split_ifs <;> exact List.suffix_refl _

namespace World

/-- carries out a move; one that is not possible changes nothing -/
def move (w : World) : Move → World
  | .act a => (w.act a).getD w
  | .wait ms => { w with now := w.now + ms }
  | .ask c =>
    if c.isPlain then
      match w.perform c with
      | .ok (w, _) => w
      | .error _ => w
    else w

/-- the system after a list of moves -/
def run (w : World) (moves : List Move) : World :=
  Trace.run move w moves

theorem run_append (w : World) (a b : List Move) : w.run (a ++ b) = (w.run a).run b :=
  Trace.run_append _ _ _ _

theorem run_concat (w : World) (moves : List Move) (m : Move) : w.run (moves ++ [m]) = (w.run moves).move m :=
  Trace.run_concat _ _ _ _

/-- what is noted of each move along a list of them -/
def record {Note : Type} (note : World → Move → List Note) (w : World) (moves : List Move) : List Note :=
  Trace.record move note w moves

theorem record_append {Note : Type} (note : World → Move → List Note) (w : World) (a b : List Move) :
    w.record note (a ++ b) = w.record note a ++ (w.run a).record note b :=
  Trace.record_append _ _ _ _ _

theorem record_concat {Note : Type} (note : World → Move → List Note) (w : World) (moves : List Move) (m : Move) :
    w.record note (moves ++ [m]) = w.record note moves ++ note (w.run moves) m :=
  Trace.record_concat _ _ _ _ _

/-- the round that puts a client out, if the move makes it -/
def evicting (id : ClientId) (w : World) : Move → List Event
  | .act .hub => if w.hubRuns then Hub.evicting id w.hub (.turn w.now) else []
  | _ => []

/-! ## One move -/

/-- what a move is -/
inductive Moved (w : World) (m : Move) : World → Prop
  /-- neither the hub nor a session changes -/
  | nothing {w' : World} (hub : w'.hub = w.hub) (sessions : w'.sessions = w.sessions)
      (evicting : ∀ id, w.evicting id m = []) : Moved w m w'
  | hub {w' : World} {op : Hub.Op} (plain : op.client? = none ∧ op ≠ .register)
      (hub : w'.hub = w.hub.apply op) (sessions : w'.sessions = w.sessions)
      (evicting : ∀ id, w.evicting id m = Hub.evicting id w.hub op) : Moved w m w'
  | session {w' : World} {i : Nat} {s s' : Session} {ops : List Hub.Op} (place : w.sessions[i]? = some s)
      (did : s.Did w.hub ops s') (hub : w'.hub = w.hub.run ops) (sessions : w'.sessions = w.sessions.set i s')
      (evicting : ∀ id, w.evicting id m = []) (mover : m.session? = some i) : Moved w m w'
  /-- a session is changed from outside -/
  | outside {w' : World} {i : Nat} {f : Session → Session} (stage : ∀ s, (f s).stage = s.stage)
      (unread : ∀ s, (f s).sink.unread <:+ s.sink.unread) (hub : w'.hub = w.hub)
      (sessions : w'.sessions = w.sessions.modify i f) (evicting : ∀ id, w.evicting id m = [])
      (input : ∀ s, (f s).config = s.config ∧ (f s).intake = s.intake ∧ s.inbox <+: (f s).inbox) : Moved w m w'
  | connected {w' : World} {s : Session} (stage : s.stage = .connecting) (unread : s.sink.unread = [])
      (hub : w'.hub = w.hub) (sessions : w'.sessions = w.sessions ++ [s])
      (evicting : ∀ id, w.evicting id m = []) : Moved w m w'

theorem moved_hub {w : World} {m : Move} (op : Hub.Op) (hp : op.client? = none ∧ op ≠ .register)
    (hm : w.move m = w.setHub (w.hub.apply op)) (he : ∀ id, w.evicting id m = Hub.evicting id w.hub op) :
    Moved w m (w.move m) :=
  .hub hp (by rw [hm]; rfl) (by rw [hm]; rfl) he

theorem moved_session {w : World} {m : Move} {i : Nat} {step : Session → Publisher → Option (Publisher × Session)}
    (hstep : ∀ s p p' s', step s p = some (p', s') → s.DidWith p p' s')
    (hm : w.move m = (w.sessionStep i step).getD w) (he : ∀ id, w.evicting id m = [])
    (hmover : m.session? = some i) : Moved w m (w.move m) := by
  rw [hm]
  unfold sessionStep
  cases hs : w.sessions[i]? with
  | none => exact .nothing rfl rfl he
  | some s =>
    cases hst : step s w.publisher with
    | none => simpa [hst] using Moved.nothing rfl rfl he
    | some ps =>
      obtain ⟨ops, hdid, hp⟩ := hstep s w.publisher ps.1 ps.2 hst
      simp only [hst, Option.map_some, Option.getD_some]
      exact .session hs hdid (by rw [hp]; rfl) rfl he hmover

theorem moved_act (w : World) (a : Actor) : Moved w (.act a) (w.move (.act a)) := by
  cases a with
  | producer id =>
    refine moved_hub (.produce id w.now) ⟨rfl, by simp⟩ ?_ fun _ => rfl
    simp only [move, act, Hub.apply]
    cases w.hub.producerStep id w.now <;> rfl
  | hub =>
    cases hr : w.hubRuns with
    | false =>
      have hm : w.move (.act .hub) = w := by simp [move, act, hr]
      rw [hm]
      exact .nothing rfl rfl fun id => by simp [evicting, hr]
    | true =>
      refine moved_hub (.turn w.now) ⟨rfl, by simp⟩ ?_ fun id => by simp [evicting, hr]
      simp only [move, act, hr, if_true, Hub.apply]
      cases w.hub.step w.now <;> rfl
  | ticker =>
    refine moved_hub (.tick w.now) ⟨rfl, by simp⟩ ?_ fun _ => rfl
    simp only [move, act, Hub.apply]
    cases w.hub.tickerStep w.now <;> rfl
  | heartbeat =>
    refine moved_hub (.beat w.now) ⟨rfl, by simp⟩ ?_ fun _ => rfl
    simp only [move, act, Hub.apply]
    cases w.hub.heartbeatStep w.now <;> rfl
  | connect i => exact moved_session (fun s p p' s' => Session.connectStep_did) rfl (fun _ => rfl) rfl
  | receive i => exact moved_session (fun s p p' s' => Session.receiveStep_did) rfl (fun _ => rfl) rfl
  | send i => exact moved_session (fun s p p' s' => Session.sendStep_did) rfl (fun _ => rfl) rfl
  | close i =>
    have hm : w.move (.act (.close i)) =
        (w.sessionStep i fun s p => (s.closeStep w.now).map fun s => (p, s)).getD w := rfl
    refine moved_session (fun s p p' s' hs => ?_) hm (fun _ => rfl) rfl
    obtain ⟨t, ht, he⟩ := Option.map_eq_some_iff.1 hs
    cases he
    exact ⟨[], Session.closeStep_did ht, rfl⟩

theorem moved_storeBlock (w : World) (r : BlockReport) :
    Moved w (.ask (.storeBlock r)) (w.move (.ask (.storeBlock r))) := by
  cases ho : w.publisher.overview.apply r w.publisher.source.params with
  | error e =>
    have hm : w.move (.ask (.storeBlock r)) = w := by
      simp [move, Command.isPlain, perform, storeBlock, Publisher.storeBlock, ho, Except.map]
    rw [hm]
    exact .nothing rfl rfl fun _ => rfl
  | ok overview =>
    have hm : w.move (.ask (.storeBlock r)) = { w with publisher :=
        { w.publisher with
          overview
          block := some r.block
          hub := (w.hub.publish (Publisher.blockEvents r)).1 } } := by
      simp only [move, Command.isPlain, if_true, perform, storeBlock, Publisher.storeBlock, ho, Except.map]
      rfl
    rw [hm]
    exact .hub ⟨rfl, by simp⟩ (show _ = w.hub.apply (.publish (Publisher.blockEvents r)) from rfl) rfl
      fun _ => rfl

theorem moved_setMempool (w : World) (mempool : Option Mempool) :
    Moved w (.ask (.setMempool mempool)) (w.move (.ask (.setMempool mempool))) := by
  cases hs : w.publisher.source.setMempool mempool with
  | error e =>
    have hm : w.move (.ask (.setMempool mempool)) = w := by
      simp [move, Command.isPlain, perform, setMempool, Publisher.setMempool, hs, Except.map]
    rw [hm]
    exact .nothing rfl rfl fun _ => rfl
  | ok source =>
    have hm : w.move (.ask (.setMempool mempool)) = { w with publisher := { w.publisher with source } } := by
      simp [move, Command.isPlain, perform, setMempool, Publisher.setMempool, hs, Except.map]
    rw [hm]
    exact .nothing rfl rfl fun _ => rfl

theorem moved_ask (w : World) (c : Command) : Moved w (.ask c) (w.move (.ask c)) := by
  cases hc : c.isPlain with
  | false =>
    have hm : w.move (.ask c) = w := by simp [move, hc]
    rw [hm]
    exact .nothing rfl rfl fun _ => rfl
  | true =>
    cases c with
    | publishAll es => exact moved_hub (.publish es) ⟨rfl, by simp⟩ rfl fun _ => rfl
    | storeBlock r => exact moved_storeBlock w r
    | setMempool mempool => exact moved_setMempool w mempool
    | setReady b => exact moved_hub (.setReady b) ⟨rfl, by simp⟩ rfl fun _ => rfl
    | stop => exact moved_hub .stop ⟨rfl, by simp⟩ rfl fun _ => rfl
    | release => exact moved_hub .release ⟨rfl, by simp⟩ rfl fun _ => rfl
    | connect s =>
      have hfresh : s.stage = .connecting ∧ s.sink.unread = [] := by simpa [Command.isPlain] using hc
      have hm : w.move (.ask (.connect s)) = w.connect s := by simp [move, hc, perform]
      rw [hm]
      exact .connected hfresh.1 hfresh.2 rfl rfl fun _ => rfl
    | feed i f =>
      exact .outside (Session.stage_feed f) (Session.unread_feed f) rfl rfl (fun _ => rfl) (Session.input_feed f)
    | endInput i =>
      exact .outside (f := Session.endInput) (fun _ => rfl) (fun _ => List.suffix_refl _) rfl rfl (fun _ => rfl)
        fun _ => ⟨rfl, rfl, List.prefix_refl _⟩
    | read i most =>
      exact .outside (f := fun s => (s.read most).2) (fun _ => rfl) (fun _ => List.drop_suffix _ _) rfl rfl
        (fun _ => rfl) fun _ => ⟨rfl, rfl, List.prefix_refl _⟩
    | failSink i =>
      exact .outside (f := Session.failSink) (fun _ => rfl) (fun _ => List.suffix_refl _) rfl rfl (fun _ => rfl)
        fun _ => ⟨rfl, rfl, List.prefix_refl _⟩
    | _ => cases hc

/-- **What a move is.** -/
theorem moved (w : World) (m : Move) : Moved w m (w.move m) := by
  cases m with
  | act a => exact moved_act w a
  | wait ms => exact .nothing rfl rfl fun _ => rfl
  | ask c => exact moved_ask w c

/-- what a move does to the hub is a list of operations -/
theorem hub_move (w : World) (m : Move) : ∃ ops, (w.move m).hub = w.hub.run ops := by
  cases moved w m with
  | nothing hub => exact ⟨[], hub⟩
  | hub _ hub => exact ⟨[_], hub⟩
  | session _ _ hub => exact ⟨_, hub⟩
  | outside _ _ hub => exact ⟨[], hub⟩
  | connected _ _ hub => exact ⟨[], hub⟩

/-! ## Sessions and their clients -/

/-- sessions have clients of their own -/
structure Wired (w : World) : Prop where
  sound : w.hub.Sound
  known : ∀ (i : Nat) s id, w.sessions[i]? = some s → s.client? = some id → (w.hub.client? id).isSome = true
  distinct : ∀ (i j : Nat) s t id, w.sessions[i]? = some s → w.sessions[j]? = some t → s.client? = some id →
    t.client? = some id → i = j
  asked : ∀ id ∈ w.hub.unregistrations, (w.hub.client? id).isSome = true

/-- the client of a session is not the next one to come -/
theorem Wired.ne_new {w : World} (hw : Wired w) {i : Nat} {s : Session} {id : ClientId}
    (hi : w.sessions[i]? = some s) (hc : s.client? = some id) : id ≠ w.hub.clients.length + 1 :=
  Hub.ne_new (hw.known i s id hi hc)

/-- nothing but clients of sessions changed, and these not at all -/
theorem Wired.of_sessions {w w' : World} (hw : Wired w) (hs : w'.hub.Sound)
    (hk : ∀ id, (w.hub.client? id).isSome = true → (w'.hub.client? id).isSome = true)
    (ht : ∀ (i : Nat) s id, w'.sessions[i]? = some s → s.client? = some id →
      ∃ t, w.sessions[i]? = some t ∧ t.client? = some id)
    (hu : ∀ id ∈ w'.hub.unregistrations, (w.hub.client? id).isSome = true) : Wired w' where
  sound := hs
  known i s id hi hc := by
    obtain ⟨t, hti, htc⟩ := ht i s id hi hc
    exact hk id (hw.known i t id hti htc)
  distinct i j s t id hi hj hc hd := by
    obtain ⟨s', hsi, hsc⟩ := ht i s id hi hc
    obtain ⟨t', htj, htc⟩ := ht j t id hj hd
    exact hw.distinct i j s' t' id hsi htj hsc htc
  asked id hid := hk id (hu id hid)

theorem wired_session {w w' : World} (hw : Wired w) {i : Nat} {s s' : Session} {ops : List Hub.Op}
    (place : w.sessions[i]? = some s) (did : s.Did w.hub ops s') (hub : w'.hub = w.hub.run ops)
    (sessions : w'.sessions = w.sessions.set i s') : Wired w' := by
  have hs := Hub.sound_run hw.sound ops
  have hk : ∀ id, (w.hub.client? id).isSome = true → (w'.hub.client? id).isSome = true := fun id hid =>
    hub ▸ Hub.isSome_run hw.sound hid ops
  have hu : ∀ id ∈ w'.hub.unregistrations, (w.hub.client? id).isSome = true := fun id hid => by
    rw [hub] at hid
    rcases Hub.unregistrations_run hw.sound hid with hid | ⟨op, hop, hc⟩
    · exact hw.asked id hid
    · exact hw.known i s id place ((Session.did_ops did op hop).2 id hc)
  have hat : ∀ (j : Nat) t, w'.sessions[j]? = some t → j = i ∧ t = s' ∨ j ≠ i ∧ w.sessions[j]? = some t := by
    intro j t hj
    rw [sessions, List.getElem?_set] at hj
    split_ifs at hj with hij
    · exact Or.inl ⟨hij.symm, (Option.some.inj hj).symm⟩
    · exact Or.inr ⟨Ne.symm hij, hj⟩
  rcases Session.did_client hw.sound did with ⟨hc, -⟩ | ⟨hnone, hnew, hlen⟩
  · refine hw.of_sessions (hub ▸ hs) hk (fun j t id hj hid => ?_) hu
    rcases hat j t hj with ⟨rfl, rfl⟩ | ⟨-, hj⟩
    · exact ⟨s, place, hc ▸ hid⟩
    · exact ⟨t, hj, hid⟩
  · refine ⟨hub ▸ hs, fun j t id hj hid => ?_, fun j k t u id hj hk ht hu => ?_, fun id hid => hk id (hu id hid)⟩
    · rcases hat j t hj with ⟨rfl, rfl⟩ | ⟨-, hj⟩
      · rw [hnew] at hid
        cases hid
        rw [hub, Hub.client?_isSome_iff, hlen]
        exact ⟨Nat.succ_pos _, Nat.le_refl _⟩
      · exact hk id (hw.known j t id hj hid)
    · rcases hat j t hj with ⟨rfl, rfl⟩ | ⟨-, hj⟩ <;> rcases hat k u hk with ⟨rfl, rfl⟩ | ⟨-, hk⟩
      · rfl
      · exact absurd (Option.some.inj (hnew.symm.trans ht)).symm (hw.ne_new hk hu)
      · exact absurd (Option.some.inj (hnew.symm.trans hu)).symm (hw.ne_new hj ht)
      · exact hw.distinct j k t u id hj hk ht hu

/-- a session that was not there, or was not changed -/
theorem getElem?_outside {w w' : World} {i : Nat} {f : Session → Session}
    (stage : ∀ s, (f s).stage = s.stage) (sessions : w'.sessions = w.sessions.modify i f) {j : Nat} {s : Session}
    (hj : w'.sessions[j]? = some s) : ∃ t, w.sessions[j]? = some t ∧ s.stage = t.stage := by
  rw [sessions, List.getElem?_modify] at hj
  obtain ⟨t, ht, he⟩ := Option.map_eq_some_iff.1 hj
  refine ⟨t, ht, ?_⟩
  subst he
  split_ifs
  · exact stage t
  · rfl

theorem wired_move {w : World} (hw : Wired w) (m : Move) : Wired (w.move m) := by
  have hm := moved w m
  generalize w.move m = w' at hm
  cases hm with
  | nothing hub sessions =>
    exact hw.of_sessions (hub ▸ hw.sound) (fun _ h => hub ▸ h) (fun i s id hi hc => ⟨s, sessions ▸ hi, hc⟩)
      (hub ▸ hw.asked)
  | hub plain hub sessions =>
    refine hw.of_sessions (hub ▸ Hub.sound_apply hw.sound _) (fun _ h => hub ▸ Hub.isSome_apply hw.sound h _)
      (fun i s id hi hc => ⟨s, sessions ▸ hi, hc⟩) fun id hid => ?_
    rw [hub] at hid
    exact hw.asked id ((Hub.unregistrations_apply hw.sound hid).resolve_right (by simp [plain.1]))
  | session place did hub sessions => exact wired_session hw place did hub sessions
  | outside stage _ hub sessions =>
    refine hw.of_sessions (hub ▸ hw.sound) (fun _ h => hub ▸ h) (fun i s id hi hc => ?_) (hub ▸ hw.asked)
    obtain ⟨t, ht, hst⟩ := getElem?_outside stage sessions hi
    exact ⟨t, ht, Session.client?_congr hst ▸ hc⟩
  | connected stage _ hub sessions =>
    refine hw.of_sessions (hub ▸ hw.sound) (fun _ h => hub ▸ h) (fun i s id hi hc => ⟨s, ?_, hc⟩)
      (hub ▸ hw.asked)
    rw [sessions, List.getElem?_append] at hi
    split_ifs at hi with hlt
    · exact hi
    · rw [List.getElem?_singleton] at hi
      split_ifs at hi
      cases hi
      simp [Session.client?, stage] at hc

theorem wired_run {w : World} (hw : Wired w) (moves : List Move) : Wired (w.run moves) :=
  Trace.run_induction (P := Wired) (fun _ m hk => wired_move hk m) hw moves

/-- what every move of a wired world keeps is kept by a list of them -/
theorem kept_run {P : World → Prop} (hstep : ∀ w m, Wired w → P w → P (w.move m)) {w : World} (hw : Wired w)
    (hp : P w) (moves : List Move) : P (w.run moves) :=
  (Trace.run_induction (P := fun w => Wired w ∧ P w)
    (fun w m hk => ⟨wired_move hk.1 m, hstep w m hk.1 hk.2⟩) ⟨hw, hp⟩ moves).2

theorem create_ok {config : HubConfig} {source : Source} {runs : Bool} {w : World}
    (hw : World.create config source runs = .ok w) :
    Hub.create config = .ok w.hub ∧ w.sessions = [] := by
  unfold World.create at hw
  cases hh : Hub.create config with
  | error e => simp [hh, bind, Except.bind] at hw
  | ok h =>
    cases hp : Publisher.create h source with
    | error e => simp [hh, hp, bind, Except.bind] at hw
    | ok p =>
      simp only [hh, hp, bind, Except.bind, Except.ok.injEq] at hw
      subst hw
      refine ⟨congrArg Except.ok ?_, rfl⟩
      unfold Publisher.create at hp
      cases ho : Overview.fresh source.params with
      | error e => simp [ho, Except.map] at hp
      | ok o =>
        simp only [ho, Except.map, Except.ok.injEq] at hp
        subst hp
        rfl

theorem wired_create {config : HubConfig} {source : Source} {runs : Bool} {w : World}
    (hw : World.create config source runs = .ok w) : Wired w := by
  obtain ⟨hh, hs⟩ := create_ok hw
  obtain ⟨-, -, -, hu, -⟩ := Hub.create_ok hh
  exact ⟨Hub.sound_create hh, by simp [hs], by simp [hs], by simp [hu]⟩

/-! ## A move as one session sees it -/

/-- a move as a session sees it -/
inductive Seen (w : World) (m : Move) (s : Session) : Session → Prop
  | own {ops : List Hub.Op} {s' : Session} (did : s.Did w.hub ops s') (hub : (w.move m).hub = w.hub.run ops)
      (evicting : ∀ id, w.evicting id m = []) : Seen w m s s'
  /-- another's move: it leaves the client of the session alone, and says nothing about it to the hub -/
  | other (ops : List Hub.Op) {s' : Session} (stage : s'.stage = s.stage)
      (unread : s'.sink.unread <:+ s.sink.unread) (hub : (w.move m).hub = w.hub.run ops)
      (apart : ∀ id, s.client? = some id → ∀ op ∈ ops, op.client? ≠ some id)
      (evicting : ∀ id, w.evicting id m = w.hub.record (Hub.evicting id) ops)
      (silent : ∀ id, s.client? = some id → ∀ n ∈ Hub.notices w.hub (w.move m).hub, n.client ≠ id) :
      Seen w m s s'

theorem record_evicting_eq_nil {h : Hub} {ops : List Hub.Op} (hops : ∀ op ∈ ops, op.isTurn = false)
    (id : ClientId) : h.record (Hub.evicting id) ops = [] := by
  induction ops generalizing h with
  | nil => rfl
  | cons op ops ih =>
    obtain ⟨hop, hops⟩ := List.forall_mem_cons.1 hops
    have hone : Hub.evicting id h op = [] := by cases op <;> first | rfl | cases hop
    show Hub.evicting id h op ++ (h.apply op).record (Hub.evicting id) ops = []
    rw [hone, ih hops, List.append_nil]

theorem seen_nothing {w : World} {m : Move} {s : Session} (hub : (w.move m).hub = w.hub)
    (evicting : ∀ id, w.evicting id m = []) {s' : Session} (stage : s'.stage = s.stage)
    (unread : s'.sink.unread <:+ s.sink.unread) : Seen w m s s' := by
  refine .other [] stage unread hub (by simp) evicting ?_
  rw [hub, Hub.notices_eq_nil (Nat.le_refl _) (Nat.le_refl _)]
  simp

/-- **A session goes on**, by a move of its own or one that leaves its client alone. -/
theorem seen {w : World} (hw : Wired w) {i : Nat} {s : Session} (hi : w.sessions[i]? = some s) (m : Move) :
    ∃ s', (w.move m).sessions[i]? = some s' ∧ Seen w m s s' := by
  cases moved w m with
  | nothing hub sessions evicting =>
    exact ⟨s, sessions ▸ hi, seen_nothing hub evicting rfl (List.suffix_refl _)⟩
  | @hub op plain hub sessions evicting =>
    refine ⟨s, sessions ▸ hi, .other [op] rfl (List.suffix_refl _) hub (by simp [plain.1])
      (fun id => ?_) ?_⟩
    · rw [evicting]
      exact (List.append_nil _).symm
    · rw [hub, Hub.notices_apply hw.sound plain.1 plain.2]
      simp
  | @session j t t' ops place did hub sessions evicting =>
    by_cases hij : i = j
    · subst hij
      cases hi.symm.trans place
      refine ⟨t', ?_, .own did hub evicting⟩
      rw [sessions, List.getElem?_set_self (List.getElem?_eq_some_iff.1 hi).1]
    · refine ⟨s, ?_, .other ops rfl (List.suffix_refl _) hub (fun id hc op hop hid => ?_)
        (fun id => ?_) fun id hc n hn => ?_⟩
      · rw [sessions, List.getElem?_set_ne (Ne.symm hij), hi]
      · exact hij (hw.distinct i j s t id hi place hc ((Session.did_ops did op hop).2 id hid))
      · rw [evicting, record_evicting_eq_nil fun op hop => (Session.did_ops did op hop).1]
      · rintro rfl
        rw [hub] at hn
        rcases Session.did_client hw.sound did with ⟨hown, -⟩ | ⟨-, hnew, -⟩
        · exact hij (hw.distinct i j s t n.client hi place hc (hown ▸ Session.did_notices_client did hn))
        · have hid := Option.some.inj ((Session.did_notices_client did hn).symm.trans hnew)
          exact hw.ne_new hi hc hid
  | @outside j f stage unread hub sessions evicting =>
    refine ⟨if j = i then f s else s, ?_, seen_nothing hub evicting ?_ ?_⟩
    · rw [sessions, List.getElem?_modify, hi]
      rfl
    · split_ifs
      · exact stage s
      · rfl
    · split_ifs
      · exact unread s
      · exact List.suffix_refl _
  | connected stage unread hub sessions evicting =>
    refine ⟨s, ?_, seen_nothing hub evicting rfl (List.suffix_refl _)⟩
    rw [sessions, List.getElem?_append_left (List.getElem?_eq_some_iff.1 hi).1, hi]

/-- a session after a move of another task: its peer may have read and sent frames, and its client is left alone -/
structure Apart (w : World) (m : Move) (s s' : Session) : Prop where
  stage : s'.stage = s.stage
  config : s'.config = s.config
  intake : s'.intake = s.intake
  inbox : s.inbox <+: s'.inbox
  unread : s'.sink.unread <:+ s.sink.unread
  hub : ∃ ops, (w.move m).hub = w.hub.run ops ∧ ∀ id, s.client? = some id → ∀ op ∈ ops, op.client? ≠ some id

/-- **A move of another task** leaves a session and its client alone. -/
theorem seen_apart {w : World} (hw : Wired w) {i : Nat} {s : Session} (hi : w.sessions[i]? = some s) {m : Move}
    (hm : m.session? ≠ some i) : ∃ s', (w.move m).sessions[i]? = some s' ∧ Apart w m s s' := by
  have hsame : ∀ ops, (w.move m).hub = w.hub.run ops →
      (∀ id, s.client? = some id → ∀ op ∈ ops, op.client? ≠ some id) → Apart w m s s := fun ops hub apart =>
    ⟨rfl, rfl, rfl, List.prefix_refl _, List.suffix_refl _, ops, hub, apart⟩
  cases moved w m with
  | nothing hub sessions => exact ⟨s, sessions ▸ hi, hsame [] hub (by simp)⟩
  | @hub op plain hub sessions => exact ⟨s, sessions ▸ hi, hsame [op] hub (by simp [plain.1])⟩
  | @session j t t' ops place did hub sessions _ mover =>
    have hij : j ≠ i := fun he => hm (he ▸ mover)
    refine ⟨s, by rw [sessions, List.getElem?_set_ne hij, hi], hsame ops hub fun id hc op hop hid => ?_⟩
    exact hij (hw.distinct j i t s id place hi ((Session.did_ops did op hop).2 id hid) hc)
  | @outside j f stage unread hub sessions _ input =>
    refine ⟨if j = i then f s else s, ?_, ?_⟩
    · rw [sessions, List.getElem?_modify, hi]
      rfl
    · split_ifs
      · exact ⟨stage s, (input s).1, (input s).2.1, (input s).2.2, unread s, [], hub, by simp⟩
      · exact hsame [] hub (by simp)
  | connected _ _ hub sessions =>
    refine ⟨s, ?_, hsame [] hub (by simp)⟩
    rw [sessions, List.getElem?_append_left (List.getElem?_eq_some_iff.1 hi).1, hi]

/-- a session that was not there before a move has just come -/
theorem appeared {w : World} {m : Move} {i : Nat} {s : Session} (hi : w.sessions[i]? = none)
    (hs : (w.move m).sessions[i]? = some s) :
    s.stage = .connecting ∧ s.sink.unread = [] ∧ (w.move m).hub = w.hub ∧ ∀ id, w.evicting id m = [] := by
  cases moved w m with
  | nothing hub sessions => simp [sessions, hi] at hs
  | hub _ _ sessions => simp [sessions, hi] at hs
  | session place did hub sessions =>
    rw [sessions, List.getElem?_set] at hs
    split_ifs at hs with hij hlt
    · subst hij
      simp [hi] at place
    · simp [hi] at hs
  | outside _ _ _ sessions => simp [sessions, List.getElem?_modify, hi] at hs
  | connected stage unread hub sessions evicting =>
    rw [sessions, List.getElem?_append, if_neg (by simpa using hi), List.getElem?_singleton] at hs
    split_ifs at hs
    cases hs
    exact ⟨stage, unread, hub, evicting⟩

/-- a session that has come does not go -/
theorem absent_of_move {w : World} (hw : Wired w) {m : Move} {i : Nat} (hi : (w.move m).sessions[i]? = none) :
    w.sessions[i]? = none := by
  cases hs : w.sessions[i]? with
  | none => rfl
  | some s =>
    obtain ⟨s', hs', -⟩ := seen hw hs m
    simp [hs'] at hi

/-- nothing is noted of a session that has not come yet -/
theorem record_absent {Note : Type} {note : World → Move → List Note} {i : Nat}
    (hnote : ∀ w m, w.sessions[i]? = none → note w m = []) {w : World} (hw : Wired w) {moves : List Move}
    (hi : (w.run moves).sessions[i]? = none) : w.record note moves = [] := by
  induction moves using List.reverseRecOn with
  | nil => rfl
  | append_singleton moves m ih =>
    have hbefore := absent_of_move (wired_run hw moves) (run_concat w moves m ▸ hi)
    rw [record_concat, ih hbefore, hnote _ _ hbefore, List.append_nil]

/-- every client is the client of a session -/
def Owned (w : World) : Prop :=
  ∀ id, (w.hub.client? id).isSome = true → ∃ (i : Nat) (s : Session), w.sessions[i]? = some s ∧ s.client? = some id

theorem Seen.client? {w : World} {m : Move} {s s' : Session} {id : ClientId} (hw : Wired w) (hs : Seen w m s s')
    (hc : s.client? = some id) : s'.client? = some id := by
  cases hs with
  | own did =>
    rcases Session.did_client hw.sound did with ⟨he, -⟩ | ⟨hnone, -⟩
    · exact he.trans hc
    · simp [hnone] at hc
  | other _ stage => exact (Session.client?_congr stage).trans hc

theorem owned_move {w : World} (hw : Wired w) (ho : Owned w) (m : Move) : Owned (w.move m) := by
  intro id hid
  cases hold : (w.hub.client? id).isSome with
  | true =>
    obtain ⟨i, s, hi, hc⟩ := ho id hold
    obtain ⟨s', hi', hseen⟩ := seen hw hi m
    exact ⟨i, s', hi', hseen.client? hw hc⟩
  | false =>
    -- a client that is new has come with a session
    have hlen : (w.move m).hub.clients.length ≠ w.hub.clients.length := fun he => by
      rw [Hub.client?_isSome_iff, he, ← Hub.client?_isSome_iff, hold] at hid
      cases hid
    have hm := moved w m
    generalize w.move m = w' at hid hlen hm
    cases hm with
    | nothing hub => exact absurd (by rw [hub]) hlen
    | hub plain hub =>
      refine absurd ?_ hlen
      rw [hub]
      exact (Hub.clients_apply hw.sound _).resolve_right fun hr => plain.2 hr.1
    | @session i s s' ops place did hub sessions =>
      rcases Session.did_client hw.sound did with ⟨-, he⟩ | ⟨-, hnew, he⟩
      · exact absurd (hub ▸ he) hlen
      · refine ⟨i, s', ?_, ?_⟩
        · rw [sessions, List.getElem?_set_self (List.getElem?_eq_some_iff.1 place).1]
        · rw [hnew]
          rw [hub, Hub.client?_isSome_iff, he] at hid
          have hid' : ¬(0 < id ∧ id ≤ w.hub.clients.length) := fun h => by
            rw [(Hub.client?_isSome_iff w.hub id).2 h] at hold
            cases hold
          exact congrArg some (by grind)
    | outside _ _ hub => exact absurd (by rw [hub]) hlen
    | connected _ _ hub => exact absurd (by rw [hub]) hlen

theorem owned_run {w : World} (hw : Wired w) (ho : Owned w) (moves : List Move) : Owned (w.run moves) :=
  kept_run (fun _ m hw ho => owned_move hw ho m) hw ho moves

theorem owned_create {config : HubConfig} {source : Source} {runs : Bool} {w : World}
    (hw : World.create config source runs = .ok w) : Owned w := by
  intro id hid
  obtain ⟨hc, -⟩ := Hub.create_ok (create_ok hw).1
  simp [Hub.client?, hc] at hid

end World

end ChainFeed
