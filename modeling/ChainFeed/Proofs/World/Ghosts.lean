/-
No ghosts: what is left in the hub of a session that has ended.

- `Attached`: how the hub holds the client of a session whose pumps run.
- `Parted`: how it holds the client of a session that has stopped its pumps.
- `tracked_run`: after every run every session stands to the hub as its stage says.
- `no_ghosts`: a client is never registered after its session has ended, once the hub's queues are empty.
-/
import ChainFeed.Proofs.World.Moves

namespace ChainFeed

/-- whether the pumps of the session run -/
def Session.isServing (s : Session) : Bool :=
  match s.stage with
  | .open .. => true
  | _ => false

namespace World

open Hub (Notice)

/-! ## What is noted along a run -/

/-- what a move sends to the hub about a client -/
def sent (id : ClientId) (w : World) (m : Move) : List Notice :=
  (Hub.notices w.hub (w.move m).hub).filter (·.client = id)

/-- the hub as it was before the move by which the pumps of a session stopped, if this is that move -/
def parting (i : Nat) (w : World) (m : Move) : List Hub :=
  if (w.sessions[i]?).any (·.isServing) = true ∧ ((w.move m).sessions[i]?).any (·.isServing) = false then [w.hub]
  else []

/-! ## A client whose session serves it -/

/-- the hub holds a client as it should while the pumps of its session run, after what was sent about it and the
rounds that put it out -/
structure Attached (h : Hub) (id : ClientId) (sent : List Notice) (evicted : List Event) : Prop where
  sent : sent = [.registration id]
  receiving : (h.client? id).map (·.channel.receiving) = some true
  unasked : id ∉ h.unregistrations
  member : h.shutdown = false → evicted = [] → h.isMember id
  gone : evicted ≠ [] → h.isGone id

/-- the hub holds a client as it should after the pumps of its session have stopped -/
structure Parted (h : Hub) (id : ClientId) (ending : SessionEnd) (sent : List Notice) (partings : List Hub) :
    Prop where
  /-- what was sent, and how the hub was when the pumps stopped -/
  parted : ∃ k, partings = [k] ∧ (ending = .channelClosed → k.isGone id) ∧
    sent = .registration id ::
      if ending.needsUnregister = true ∧ k.isOpen = true then [.unregistration id] else []
  subscriptions : (h.client? id).map (·.subscriptions) = some {}
  leaving : ending ≠ .shutdown → h.isLeaving id
  shutdown : ending = .shutdown → h.shutdown = true

section

variable {h k : Hub} {id : ClientId} {notices : List Notice} {evicted : List Event}

theorem isSome_of_map {α : Type} {view : Client → α} {a : α} (hm : (h.client? id).map view = some a) :
    (h.client? id).isSome = true := by
  cases hc : h.client? id with
  | none => simp [hc] at hm
  | some c => rfl

theorem attached_register (hu : ∀ j ∈ h.unregistrations, (h.client? j).isSome = true)
    (hr : h.register = .ok (.ok (k, id))) : Attached k id [.registration id] [] := by
  obtain ⟨ho, rfl, c, hc, rfl⟩ := Hub.register_ok hr
  obtain ⟨-, -, hrec, -⟩ := Hub.client_create_ok hc
  refine ⟨rfl, ?_, fun hin => ?_, fun _ _ => Or.inr (by simp), fun h => absurd rfl h⟩
  · rw [Hub.client?_entered, if_pos rfl]
    simp [hrec]
  · exact Hub.ne_new (hu _ hin) rfl

/-- what the pumps do to the hub leaves the client where it is -/
theorem Attached.pumped {ops : List Hub.Op} (ha : Attached h id notices evicted) (hs : h.Sound)
    (hops : ∀ op ∈ ops, op.isPrivate = true ∧ op.client? = some id ∧ ∀ j, op ≠ .hangUp j) :
    Attached (h.run ops) id notices evicted := by
  obtain ⟨h1, h2, h3⟩ := Hub.private_run (h := h) fun op hop => (hops op hop).1
  have hk := isSome_of_map ha.receiving
  exact {
    sent := ha.sent
    receiving := (Hub.receiving_run hs hk fun op hop => (hops op hop).2.2 id).trans ha.receiving
    unasked := h3 ▸ ha.unasked
    member := fun hsd he => (ha.member (Hub.shutdown_of_run hs hsd) he).imp (h1 ▸ ·) (h2 ▸ ·)
    gone := fun he => Hub.isGone_run hs (ha.gone he) ops }

/-- what others do puts the client out at most -/
theorem Attached.others {ops : List Hub.Op} (ha : Attached h id notices evicted) (hs : h.Sound)
    (hops : ∀ op ∈ ops, op.client? ≠ some id) :
    Attached (h.run ops) id notices (evicted ++ h.record (Hub.evicting id) ops) := by
  have hk := isSome_of_map ha.receiving
  exact {
    sent := ha.sent
    receiving := by
      refine (Hub.receiving_run hs hk fun op hop => ?_).trans ha.receiving
      rintro rfl
      exact hops _ hop rfl
    unasked := fun hin => by
      rcases Hub.unregistrations_run hs hin with hin | ⟨op, hop, hc⟩
      · exact ha.unasked hin
      · exact hops op hop hc
    member := fun hsd he => by
      obtain ⟨he, hev⟩ := List.append_eq_nil_iff.1 he
      exact Hub.isMember_run hs (ha.member (Hub.shutdown_of_run hs hsd) he) ha.unasked hops hsd hev
    gone := fun he => by
      by_cases hold : evicted = []
      · subst hold
        exact (Hub.record_matched hs id ops).2.2 he
      · exact Hub.isGone_run hs (ha.gone hold) ops }

/-! ## A client whose session has let go of it -/

theorem subscriptions_parted (hk : (h.client? id).isSome = true) (ending : SessionEnd) :
    ((h.run (Session.partingOps id ending)).client? id).map (·.subscriptions) = some {} := by
  obtain ⟨c, hc⟩ := Option.isSome_iff_exists.1 hk
  have hclient : (((h.hangUp id).unsubscribeAll id).client? id).map (·.subscriptions) = some {} := by
    simp [Hub.hangUp, Hub.unsubscribeAll, Hub.client?_modifyClient, hc]
  unfold Session.partingOps
  cases ending.needsUnregister with
  | false => exact hclient
  | true =>
    rw [← hclient]
    cases ho : h.isOpen <;>
      simp [Hub.run, Trace.run, Hub.apply, Hub.unregister, Hub.hangUp, Hub.unsubscribeAll, ho, Hub.client?]

theorem mem_unregistrations_parted {ending : SessionEnd} (hn : ending.needsUnregister = true)
    (ho : h.isOpen = true) : id ∈ (h.run (Session.partingOps id ending)).unregistrations := by
  simp [Session.partingOps, hn, Hub.run, Trace.run, Hub.apply, Hub.unregister, Hub.hangUp, Hub.unsubscribeAll, ho]

/-- the pumps stop -/
theorem Attached.part {ending : SessionEnd} (ha : Attached h id notices evicted) (hs : h.Sound)
    (hclosed : ending = .channelClosed → ∃ c, h.client? id = some c ∧ c.channel.isFinished = true)
    (hshut : ending = .shutdown → h.shutdown = true) :
    Parted (h.run (Session.partingOps id ending)) id ending
      (notices ++ if ending.needsUnregister = true ∧ h.isOpen = true then [.unregistration id] else []) [h] := by
  have hk := isSome_of_map ha.receiving
  -- an open receiving end is at its end only after the hub has given up the other one
  have hgone : ending = .channelClosed → h.isGone id := fun he => by
    obtain ⟨c, hc, hf⟩ := hclosed he
    have hrec : c.channel.receiving = true := by simpa [hc] using ha.receiving
    have hsend : ¬c.channel.sending = true := by
      intro hsend
      simp [Channel.isFinished, hsend, hrec] at hf
    rw [hs.sending id c hc, List.mem_append, not_or] at hsend
    exact ⟨hk, hsend⟩
  have hout : h.isOpen = false → h.isGone id := fun ho => by
    obtain ⟨hr, hrs, -⟩ := hs.closed ho
    exact ⟨hk, by simp [hr], by simp [hrs]⟩
  have hleft : h.isGone id → (h.run (Session.partingOps id ending)).isLeaving id := fun hg hm =>
    absurd hm (not_or.2 (Hub.isGone_run hs hg _).2)
  refine ⟨⟨h, rfl, hgone, by rw [ha.sent]; rfl⟩, subscriptions_parted hk ending, fun hend => ?_, fun he =>
    Hub.shutdown_run hs (hshut he) _⟩
  by_cases hn : ending.needsUnregister = true
  · cases ho : h.isOpen with
    | false => exact hleft (hout ho)
    | true => exact fun _ => mem_unregistrations_parted hn ho
  · refine hleft (hgone ?_)
    cases ending <;> simp [SessionEnd.needsUnregister] at hn hend ⊢

theorem Parted.others {ending : SessionEnd} {partings : List Hub} {ops : List Hub.Op}
    (hp : Parted h id ending notices partings) (hs : h.Sound) (hops : ∀ op ∈ ops, op.client? ≠ some id) :
    Parted (h.run ops) id ending notices partings := by
  have hk := isSome_of_map hp.subscriptions
  exact {
    parted := hp.parted
    subscriptions := (Hub.view_run Hub.subscriptions_private hs hk hops).trans hp.subscriptions
    leaving := fun he => Hub.isLeaving_run hs hk (hp.leaving he) ops
    shutdown := fun he => Hub.shutdown_run hs (hp.shutdown he) ops }

end

/-! ## One move -/

/-- how a session stands to the hub, after what was sent and the rounds that put clients out -/
def Standing (h : Hub) (sent : ClientId → List Notice) (evicted : ClientId → List Event) (partings : List Hub)
    (s : Session) : Prop :=
  match s.stage with
  | .open id _ _ => Attached h id (sent id) (evicted id) ∧ partings = []
  | .closing id ending _ | .ended id ending _ => Parted h id ending (sent id) partings
  | _ => partings = []

section

variable {w : World} {m : Move} {i : Nat} {s s' : Session}

theorem parting_eq (hi : w.sessions[i]? = some s) (hi' : (w.move m).sessions[i]? = some s') :
    parting i w m = if s.isServing = true ∧ s'.isServing = false then [w.hub] else [] := by
  simp [parting, hi, hi']

theorem standing_own {ops : List Hub.Op} {sent' : ClientId → List Notice} {evicted : ClientId → List Event}
    {partings : List Hub} (hw : Wired w)
    (hfresh : sent' (w.hub.clients.length + 1) = [] ∧ evicted (w.hub.clients.length + 1) = [])
    (hst : Standing w.hub sent' evicted partings s) (hd : s.Did w.hub ops s') :
    Standing (w.hub.run ops)
      (fun id => sent' id ++ (Hub.notices w.hub (w.hub.run ops)).filter (·.client = id)) evicted
      (partings ++ if s.isServing = true ∧ s'.isServing = false then [w.hub] else []) s' := by
  have hsent := Session.did_notices hd
  cases hd with
  | broke hstage | refused hstage => simpa [Standing, hstage, Session.isServing] using hst
  | @opened k id hstage hr =>
    have hk : w.hub.run [.register] = k := by simp [Hub.run, Trace.run, Hub.apply, hr]
    obtain ⟨-, hid, -⟩ := Hub.register_ok hr
    simp only [hstage, hk] at hsent ⊢
    subst hid
    simp only [Standing, hstage, Session.isServing, hsent, hfresh] at hst ⊢
    simpa [Notice.client, hst] using attached_register hw.asked hr
  | timed hstage | wrote hstage =>
    simp only [hstage] at hsent
    simp only [Standing, hstage, Session.isServing, hsent] at hst ⊢
    simpa [hst.2] using hst.1
  | said hstage hsaid =>
    simp only [hstage] at hsent
    simp only [Standing, hstage, Session.isServing, hsent] at hst ⊢
    simpa [hst.2] using hst.1.pumped hw.sound (Session.said_private hsaid)
  | @parted id line d ending t hstage hclosed hshut =>
    simp only [hstage] at hsent
    simp only [Standing, hstage, Session.isServing, hsent] at hst ⊢
    have hp := hst.1.part hw.sound hclosed hshut
    have hfilter : (if ending.needsUnregister = true ∧ w.hub.isOpen = true then [Notice.unregistration id]
        else []).filter (·.client = id) =
        if ending.needsUnregister = true ∧ w.hub.isOpen = true then [Notice.unregistration id] else [] := by
      split_ifs <;> simp [Notice.client]
    simpa [hst.2, hfilter] using hp
  | ended hstage =>
    simp only [hstage] at hsent
    simp only [Standing, hstage, Session.isServing, hsent] at hst ⊢
    simpa using hst

theorem standing_move {sent' : ClientId → List Notice} {evicted : ClientId → List Event} {partings : List Hub}
    (hw : Wired w) (hi : w.sessions[i]? = some s) (hi' : (w.move m).sessions[i]? = some s')
    (hfresh : sent' (w.hub.clients.length + 1) = [] ∧ evicted (w.hub.clients.length + 1) = [])
    (hst : Standing w.hub sent' evicted partings s) :
    Standing (w.move m).hub (fun id => sent' id ++ sent id w m) (fun id => evicted id ++ w.evicting id m)
      (partings ++ parting i w m) s' := by
  obtain ⟨t, ht, hseen⟩ := seen hw hi m
  cases hi'.symm.trans ht
  rw [parting_eq hi hi']
  cases hseen with
  | own did hub hev =>
    simpa [sent, hub, hev] using standing_own hw hfresh hst did
  | @other ops _ stage _ hub apart hev silent =>
    have hserve : s'.isServing = s.isServing := by simp [Session.isServing, stage]
    have hpart : (if s.isServing = true ∧ s'.isServing = false then [w.hub] else []) = [] := by
      rw [hserve]
      exact if_neg (by simp)
    have hsent : ∀ id, s.client? = some id → sent id w m = [] := fun id hc => by
      simpa [sent] using silent id hc
    rw [hpart, List.append_nil]
    unfold Standing at hst ⊢
    rw [stage]
    cases hstage : s.stage with
    | «open» id line d =>
      have hc : s.client? = some id := by simp [Session.client?, hstage]
      simp only [hstage, hsent id hc, hev, hub, List.append_nil] at hst ⊢
      exact ⟨hst.1.others hw.sound (apart id hc), hst.2⟩
    | closing id ending t | ended id ending t =>
      have hc : s.client? = some id := by simp [Session.client?, hstage]
      simp only [hstage, hsent id hc, hub, List.append_nil] at hst ⊢
      exact hst.others hw.sound (apart id hc)
    | connecting | refused | broken =>
      simp only [hstage] at hst ⊢
      exact hst

end

/-! ## Every run -/

/-- what holds after every run of a new world -/
structure Tracked (w₀ : World) (moves : List Move) : Prop where
  wired : Wired (w₀.run moves)
  /-- nothing has happened to clients that are still to come -/
  fresh : ∀ id, (w₀.run moves).hub.clients.length < id →
    w₀.record (sent id) moves = [] ∧ w₀.record (evicting id) moves = []
  standing : ∀ (i : Nat) s, (w₀.run moves).sessions[i]? = some s →
    Standing (w₀.run moves).hub (fun id => w₀.record (sent id) moves) (fun id => w₀.record (evicting id) moves)
      (w₀.record (parting i) moves) s

section

variable {w : World}

/-- what is sent to the hub is about clients that exist -/
theorem sent_known (hw : Wired w) {m : Move} {id : ClientId} (hs : sent id w m ≠ []) :
    ((w.move m).hub.client? id).isSome = true := by
  have hw' := wired_move hw m
  obtain ⟨n, hsent⟩ := List.exists_mem_of_ne_nil _ hs
  obtain ⟨hn, hid⟩ := List.mem_filter.1 hsent
  obtain rfl : n.client = id := of_decide_eq_true hid
  rcases List.mem_append.1 hn with hn | hn
  · obtain ⟨j, hj, rfl⟩ := List.mem_map.1 hn
    exact hw'.sound.known j (List.mem_append_right _ (List.mem_of_mem_drop hj))
  · obtain ⟨j, hj, rfl⟩ := List.mem_map.1 hn
    exact hw'.asked j (List.mem_of_mem_drop hj)

theorem evicting_known (hw : Wired w) {m : Move} {id : ClientId} (he : w.evicting id m ≠ []) :
    (w.hub.client? id).isSome = true := by
  cases moved w m with
  | hub _ _ _ hev =>
    rw [hev] at he
    obtain ⟨e, he⟩ := List.exists_mem_of_ne_nil _ he
    have hm := (List.mem_filter.1 (List.mem_filter.1 he).1).2
    simp only [Bool.and_eq_true, decide_eq_true_eq] at hm
    exact hw.sound.known id (List.mem_append_left _ hm.1)
  | _ => simp_all

end

theorem tracked_start {w₀ : World} (hw : Wired w₀) (hs : w₀.sessions = []) : Tracked w₀ [] :=
  ⟨hw, fun _ _ => ⟨rfl, rfl⟩, fun i s hi => by simp [run, hs] at hi⟩

theorem tracked_move {w₀ : World} {moves : List Move} (hw₀ : Wired w₀) (ht : Tracked w₀ moves) (m : Move) :
    Tracked w₀ (moves ++ [m]) := by
  have hw := ht.wired
  have hlen : (w₀.run moves).hub.clients.length ≤ ((w₀.run moves).move m).hub.clients.length := by
    obtain ⟨ops, hops⟩ := hub_move (w₀.run moves) m
    rw [hops]
    exact Hub.clients_le_run hw.sound ops
  refine ⟨run_concat w₀ moves m ▸ wired_move hw m, fun id hid => ?_, fun i s hi => ?_⟩
  · rw [run_concat] at hid
    obtain ⟨hs, he⟩ := ht.fresh id (Nat.lt_of_le_of_lt hlen hid)
    rw [record_concat, record_concat, hs, he]
    refine ⟨?_, ?_⟩
    · by_contra hne
      exact absurd ((Hub.client?_isSome_iff _ _).1 (sent_known hw hne)).2 (Nat.not_le_of_lt hid)
    · by_contra hne
      have hle := ((Hub.client?_isSome_iff _ _).1 (evicting_known hw hne)).2
      exact absurd (Nat.le_trans hle hlen) (Nat.not_le_of_lt hid)
  · simp only [record_concat]
    rw [run_concat] at hi ⊢
    cases hs : (w₀.run moves).sessions[i]? with
    | none =>
      have hpast : w₀.record (parting i) moves = [] :=
        record_absent (fun w m hi => by simp [parting, hi]) hw₀ hs
      simp [Standing, (appeared hs hi).1, hpast, parting, hs]
    | some t => exact standing_move hw hs hi (ht.fresh _ (Nat.lt_succ_self _)) (ht.standing i t hs)

theorem tracked_run {w₀ : World} (hw : Wired w₀) (hs : w₀.sessions = []) (moves : List Move) :
    Tracked w₀ moves := by
  induction moves using List.reverseRecOn with
  | nil => exact tracked_start hw hs
  | append_singleton moves m ih => exact tracked_move hw ih m

/-! ## No ghosts -/

/-- a session that has ended has left nothing behind in the hub -/
structure Gone (w₀ : World) (moves : List Move) (i : Nat) (id : ClientId) (ending : SessionEnd) : Prop where
  unsubscribed : ((w₀.run moves).hub.client? id).map (·.subscriptions) = some {}
  /-- its pumps stopped once, and its client was registered and then, if need be and if the hub had not closed its
  queue, unregistered once -/
  told : ∃ k, w₀.record (parting i) moves = [k] ∧ w₀.record (sent id) moves = .registration id ::
    if ending.needsUnregister = true ∧ k.isOpen = true then [.unregistration id] else []
  /-- if the hub closed the channel, it had put the client out or given its registration up when the pumps stopped -/
  closed : ending = .channelClosed → ∀ k ∈ w₀.record (parting i) moves, k.isGone id
  out : ending ≠ .shutdown → (w₀.run moves).hub.registrations = [] → (w₀.run moves).hub.unregistrations = [] →
    id ∉ (w₀.run moves).hub.registry
  stopped : (w₀.run moves).hub.phase = .stopped → id ∉ (w₀.run moves).hub.registry

/-- sessions that have ended stay out of the hub, and who is registered has a session -/
structure NoGhosts (w₀ : World) (moves : List Move) : Prop where
  ended : ∀ (i : Nat) s id ending sinkClosed, (w₀.run moves).sessions[i]? = some s →
    s.stage = .ended id ending sinkClosed → ∀ later, Gone w₀ (moves ++ later) i id ending
  registry : (w₀.run moves).hub.shutdown = false → (w₀.run moves).hub.registrations = [] →
    (w₀.run moves).hub.unregistrations = [] → ∀ id, id ∈ (w₀.run moves).hub.registry ↔
      w₀.record (evicting id) moves = [] ∧ ∃ (i : Nat) (s : Session), (w₀.run moves).sessions[i]? = some s ∧
        s.isServing = true ∧ s.client? = some id

theorem ended_run {w : World} (hw : Wired w) {i : Nat} {s : Session} {id : ClientId} {ending : SessionEnd}
    {sinkClosed : Bool} (hi : w.sessions[i]? = some s) (hs : s.stage = .ended id ending sinkClosed)
    (moves : List Move) :
    ∃ t, (w.run moves).sessions[i]? = some t ∧ t.stage = .ended id ending sinkClosed := by
  refine kept_run (P := fun w => ∃ t, w.sessions[i]? = some t ∧ t.stage = .ended id ending sinkClosed)
    (fun w m hw hk => ?_) hw ⟨s, hi, hs⟩ moves
  obtain ⟨t, ht, hstage⟩ := hk
  obtain ⟨t', ht', hseen⟩ := seen hw ht m
  refine ⟨t', ht', ?_⟩
  cases hseen with
  | own did => cases did <;> simp_all
  | other _ stage => exact stage.trans hstage

theorem gone_of_tracked {w₀ : World} {moves : List Move} (ht : Tracked w₀ moves) {i : Nat} {s : Session}
    {id : ClientId} {ending : SessionEnd} {sinkClosed : Bool} (hi : (w₀.run moves).sessions[i]? = some s)
    (hs : s.stage = .ended id ending sinkClosed) : Gone w₀ moves i id ending := by
  have hp := ht.standing i s hi
  simp only [Standing, hs] at hp
  obtain ⟨k, hk, hclosed, hsent⟩ := hp.parted
  refine ⟨hp.subscriptions, ⟨k, hk, hsent⟩, fun he => ?_, fun he hr hu hin => ?_, fun hstop => ?_⟩
  · simpa [hk] using hclosed he
  · have hmem := hp.leaving he (Or.inl hin)
    simp [hu] at hmem
  · have hreg := (ht.wired.sound.closed (by simp [Hub.isOpen, hstop])).1
    simp [hreg]

theorem registry_of_tracked {w₀ : World} {moves : List Move} (ht : Tracked w₀ moves) (ho : Owned (w₀.run moves))
    (hsd : (w₀.run moves).hub.shutdown = false) (hr : (w₀.run moves).hub.registrations = [])
    (hu : (w₀.run moves).hub.unregistrations = []) (id : ClientId) :
    id ∈ (w₀.run moves).hub.registry ↔ w₀.record (evicting id) moves = [] ∧
      ∃ (i : Nat) (s : Session), (w₀.run moves).sessions[i]? = some s ∧ s.isServing = true ∧ s.client? = some id := by
  constructor
  · intro hin
    obtain ⟨i, s, hi, hc⟩ := ho id (ht.wired.sound.known id (List.mem_append_left _ hin))
    have hst := ht.standing i s hi
    cases hstage : s.stage with
    | «open» j line d =>
      obtain rfl : j = id := by simpa [Session.client?, hstage] using hc
      simp only [Standing, hstage] at hst
      refine ⟨?_, i, s, hi, by simp [Session.isServing, hstage], hc⟩
      by_contra he
      exact (hst.1.gone he).2.1 hin
    | closing j ending t | ended j ending t =>
      obtain rfl : j = id := by simpa [Session.client?, hstage] using hc
      simp only [Standing, hstage] at hst
      have hending : ending ≠ .shutdown := fun he => absurd (hst.shutdown he) (by simp [hsd])
      have hmem := hst.leaving hending (Or.inl hin)
      simp [hu] at hmem
    | connecting | refused | broken => simp [Session.client?, hstage] at hc
  · rintro ⟨he, i, s, hi, hserve, hc⟩
    have hst := ht.standing i s hi
    cases hstage : s.stage with
    | «open» j line d =>
      obtain rfl : j = id := by simpa [Session.client?, hstage] using hc
      simp only [Standing, hstage] at hst
      exact (hst.1.member hsd he).resolve_right (by simp [hr])
    | _ => simp [Session.isServing, hstage] at hserve

/-- **No ghosts**, over every run of a new world. -/
theorem no_ghosts {config : HubConfig} {source : Source} {runs : Bool} {w₀ : World}
    (hw : World.create config source runs = .ok w₀) (moves : List Move) : NoGhosts w₀ moves := by
  have hwired := wired_create hw
  have htracked := tracked_run hwired (create_ok hw).2
  refine ⟨fun i s id ending sinkClosed hi hs later => ?_, fun hsd hr hu => ?_⟩
  · obtain ⟨t, ht, hstage⟩ := ended_run (htracked moves).wired hi hs later
    rw [← run_append] at ht
    exact gone_of_tracked (htracked (moves ++ later)) ht hstage
  · exact registry_of_tracked (htracked moves) (owned_run hwired (owned_create hw) moves) hsd hr hu

/-- of two sessions the one whose peer goes away ends, and only the other one stays registered -/
theorem no_ghosts_two :
    ∃ w₀, World.create {} .idle true = .ok w₀ ∧ ∃ moves,
      (w₀.run moves).sessions.map (·.stage) = [.ended 1 .disconnected true, .open 2 [] none] ∧
      (w₀.run moves).hub.registrations = [] ∧ (w₀.run moves).hub.unregistrations = [] ∧
      (w₀.run moves).hub.registry = [2] ∧ NoGhosts w₀ moves := by
  refine ⟨_, rfl, [.ask (.connect {}), .ask (.connect {}), .act .hub, .act (.connect 0), .act (.connect 1),
    .act .hub, .ask (.endInput 0), .act (.receive 0), .act .hub, .act .hub, .act (.close 0)], ?_, ?_, ?_, ?_, ?_⟩
  · rfl
  · rfl
  · rfl
  · rfl
  · exact no_ghosts (show World.create {} .idle true = .ok _ from rfl) _

end World

end ChainFeed
