/-
The pumps of a session: what they hear, and what they write.

- `Received`: everything that a move of the receive pump can be, reads that are given up and requests that wait for
  the data source among them.
- `Answered`: the replies written or in line are those of the rule to the texts heard, and the client is subscribed to
  what the rule says.
- `receiveStep_answered`, `sendStep_answered`: the pumps of a session keep this.
- `receiveStep_heard`, `receiveStep_writes`: a request that can be answered does not end a session.
- `Listened`: the texts heard are, in order, those that came in.
-/
import ChainFeed.Proofs.Session.Answers

namespace ChainFeed

/-! ## The pumps of a session -/

/-- the text of a text frame -/
def Frame.text? : Frame → Option String
  | .text t => some t
  | _ => none

/-- the text about which the data source is asked -/
def Intake.asked? : Intake → Option String
  | .asking t => some t
  | _ => none

namespace Session

/-- the text about which an open session asks the data source -/
def asked? (s : Session) : Option String :=
  match s.stage with
  | .open .. => s.intake.asked?
  | _ => none

/-- whether the receive pump waits for input: the session is open, no reply is in line for the sink, and the data
source is not asked -/
def isListening (s : Session) : Bool :=
  match s.stage with
  | .open _ line _ => !line.any (·.pump = .receive) && s.intake.asked?.isNone
  | _ => false

/-- the text that the receive pump hears in its next move: the one about which it asks the data source, or the next one
that came in, if its answer takes no data source -/
def nextText? (s : Session) : Option String :=
  match s.stage with
  | .open _ line _ =>
    if line.any (·.pump = .receive) then none
    else
      s.intake.asked?.or <|
        (s.inbox.head?.bind Frame.text?).filter fun t => !Message.asksSource s.config.maxRequestBytes t
  | _ => none

/-- the texts that have come in and are not heard yet -/
def unheard (s : Session) : List String :=
  s.asked?.toList ++ s.inbox.filterMap Frame.text?

/-! ### What a step comes to -/

section

variable {p p' : Publisher} {s s' : Session} {now : Nat}

theorem writeStep_cases {id : ClientId} {line : List Write} {d : Option Nat} {pump : Pump}
    (hst : s.stage = .open id line d) (hs : s.writeStep p pump now = some (p', s')) :
    s.finish p id .writeFailed now = (p', s') ∨
      p' = p ∧ ((∃ t, s' = { s with stage := .open id line t }) ∨
        ∃ x rest, line = x :: rest ∧ s' = { s with sink := s.sink.write x.frame, stage := .open id rest none }) := by
  unfold writeStep at hs
  rw [hst] at hs
  split at hs
  · rename_i x rest t heq
    cases heq
    split_ifs at hs
    · exact Or.inl (Option.some.inj hs)
    · cases hs
      exact Or.inr ⟨rfl, Or.inr ⟨x, rest, rfl, rfl⟩⟩
    · split at hs
      · cases hs
        exact Or.inr ⟨rfl, Or.inl ⟨_, rfl⟩⟩
      · split_ifs at hs
        exact Or.inl (Option.some.inj hs)
  · cases hs

/-- what a move of the receive pump of an open session comes to -/
inductive Received (s : Session) (p : Publisher) (now : Nat) (id : ClientId) (r : Publisher × Session) : Prop
  /-- its reply is written, or waits for the sink -/
  | writing (next : s.nextText? = none) (step : s.writeStep p .receive now = some r)
  /-- a text is heard, and its reply gets in line -/
  | answering {text : String} {inbox : List Frame} (next : s.nextText? = some text)
      (rest : s.unheard = text :: inbox.filterMap Frame.text?)
      (step : { s with inbox, intake := .ready }.answerText p id text = r)
  /-- the next text asks the data source -/
  | asking {text : String} {rest : List Frame} (next : s.nextText? = none) (listening : s.isListening = true)
      (inbox : s.inbox = .text text :: rest) (step : (p, { s with inbox := rest, intake := .asking text }) = r)
  | skipping {rest : List Frame} (next : s.nextText? = none) (listening : s.isListening = true)
      (inbox : s.inbox = .control :: rest) (step : (p, { s with inbox := rest, intake := .ready }) = r)
  /-- a read starts or is given up -/
  | reading {t : Session} (next : s.nextText? = none) (listening : s.isListening = true)
      (step : s.readStep now = some t) (result : (p, t) = r)
  | ending (inbox : List Frame) {ending : SessionEnd} (next : s.nextText? = none) (listening : s.isListening = true)
      (step : { s with inbox }.finish p id ending now = r)

theorem asked?_open {id : ClientId} {line : List Write} {d : Option Nat} (hst : s.stage = .open id line d) :
    s.asked? = s.intake.asked? := by
  unfold asked?
  rw [hst]

theorem isListening_iff {id : ClientId} {line : List Write} {d : Option Nat} (hst : s.stage = .open id line d) :
    s.isListening = true ↔ line.any (·.pump = .receive) = false ∧ s.intake.asked? = none := by
  unfold isListening
  rw [hst]
  simp

theorem open_of_isListening (hl : s.isListening = true) : ∃ id line d, s.stage = .open id line d ∧
    line.any (·.pump = .receive) = false ∧ s.intake.asked? = none := by
  have hopen := hl
  unfold isListening at hopen
  split at hopen
  · rename_i hst
    exact ⟨_, _, _, hst, (isListening_iff hst).1 hl⟩
  · cases hopen

theorem asked?_of_isListening (hl : s.isListening = true) : s.asked? = none := by
  obtain ⟨id, line, d, hst, -, hidle⟩ := open_of_isListening hl
  exact (asked?_open hst).trans hidle

/-- while the pump waits for input, it hears the next text that came in, unless that asks the data source -/
theorem nextText?_of_isListening (hl : s.isListening = true) : s.nextText? =
    (s.inbox.head?.bind Frame.text?).filter fun t => !Message.asksSource s.config.maxRequestBytes t := by
  obtain ⟨id, line, d, hst, hline, hidle⟩ := open_of_isListening hl
  simp [nextText?, hst, hline, hidle]

/-- the text that is heard next is the one about which the data source is asked, or the next one that came in -/
theorem nextText?_cases {text : String} (hn : s.nextText? = some text) : ∃ id line d, s.stage = .open id line d ∧
    line.any (·.pump = .receive) = false ∧
      (s.intake = .asking text ∨ s.isListening = true ∧ (∃ rest, s.inbox = .text text :: rest) ∧
        Message.asksSource s.config.maxRequestBytes text = false) := by
  have hnext := hn
  unfold nextText? at hn
  split at hn
  · rename_i id line d hst
    split_ifs at hn with hw
    rw [Bool.not_eq_true] at hw
    refine ⟨id, line, d, hst, hw, ?_⟩
    cases hasked : s.intake.asked? with
    | some t =>
      left
      unfold Intake.asked? at hasked
      split at hasked
      · simp_all [Intake.asked?]
      · cases hasked
    | none =>
      have hl := (isListening_iff hst).2 ⟨hw, hasked⟩
      rw [nextText?_of_isListening hl, Option.filter_eq_some_iff, Option.bind_eq_some_iff] at hnext
      obtain ⟨⟨f, hf, htext⟩, hasks⟩ := hnext
      obtain ⟨rest, hin⟩ := List.head?_eq_some_iff.1 hf
      cases f with
      | text t =>
        cases htext
        exact Or.inr ⟨hl, ⟨rest, hin⟩, by simpa using hasks⟩
      | _ => cases htext
  · cases hn

/-! ### What the receive pump does -/

theorem receiveStep_of_asking (p : Publisher) (now : Nat) {id : ClientId} {line : List Write} {d : Option Nat}
    {text : String} (hst : s.stage = .open id line d) (hline : line.any (·.pump = .receive) = false)
    (hasking : s.intake = .asking text) :
    s.receiveStep p now = some ({ s with intake := .ready }.answerText p id text) := by
  unfold receiveStep
  simp only [hst, hline, hasking]
  rfl

/-- while the pump waits for input, its move is said by what came in -/
theorem receiveStep_of_isListening (p : Publisher) (now : Nat) {id : ClientId} {line : List Write} {d : Option Nat}
    (hst : s.stage = .open id line d) (hl : s.isListening = true) : s.receiveStep p now =
      match s.inbox with
      | f :: rest => some ({ s with inbox := rest, intake := .ready }.takeFrame p id f now)
      | [] =>
        if s.inputEnded then some (s.finish p id .disconnected now)
        else (s.readStep now).map fun s => (p, s) := by
  obtain ⟨hline, hidle⟩ := (isListening_iff hst).1 hl
  unfold receiveStep
  cases hintake : s.intake with
  | asking t => simp [hintake, Intake.asked?] at hidle
  | _ => cases hin : s.inbox <;> simp [hst, hline]

theorem receiveStep_of_frame (p : Publisher) (now : Nat) {id : ClientId} {line : List Write} {d : Option Nat}
    {f : Frame} {rest : List Frame} (hst : s.stage = .open id line d) (hl : s.isListening = true)
    (hin : s.inbox = f :: rest) :
    s.receiveStep p now = some ({ s with inbox := rest, intake := .ready }.takeFrame p id f now) := by
  rw [receiveStep_of_isListening p now hst hl, hin]

theorem takeFrame_received {id : ClientId} {f : Frame} {rest : List Frame} (hl : s.isListening = true)
    (hin : s.inbox = f :: rest)
    (hs : { s with inbox := rest, intake := .ready }.takeFrame p id f now = (p', s')) :
    s.Received p now id (p', s') := by
  have hnext := nextText?_of_isListening hl
  rw [hin, List.head?_cons, Option.bind_some] at hnext
  cases f with
  | close => exact .ending rest hnext hl hs
  | failure => exact .ending rest hnext hl hs
  | control => exact .skipping hnext hl hin hs
  | text t =>
    unfold takeFrame at hs
    dsimp only at hs
    split_ifs at hs with hasks
    · exact .asking (by simp [hnext, Frame.text?, hasks]) hl hin hs
    · exact .answering (by simp [hnext, Frame.text?, hasks])
        (by simp [unheard, asked?_of_isListening hl, hin, Frame.text?]) hs

/-- **Every move of the receive pump.** -/
theorem receiveStep_received (hs : s.receiveStep p now = some (p', s')) :
    ∃ id line d, s.stage = .open id line d ∧ s.Received p now id (p', s') := by
  unfold receiveStep at hs
  split at hs
  · rename_i id line d hst
    refine ⟨id, line, d, hst, ?_⟩
    by_cases hw : line.any (·.pump = .receive) = true
    · rw [if_pos hw] at hs
      exact .writing (by simp [nextText?, hst, hw]) hs
    rw [if_neg hw] at hs
    rw [Bool.not_eq_true] at hw
    have hidle : (∀ t, s.intake ≠ .asking t) → s.isListening = true := fun hno => by
      refine (isListening_iff hst).2 ⟨hw, ?_⟩
      cases hintake : s.intake with
      | asking t => exact absurd hintake (hno t)
      | _ => rfl
    split at hs
    · rename_i t hintake
      have hasked : s.intake.asked? = some t := by rw [hintake, Intake.asked?]
      exact .answering (by simp [nextText?, hst, hw, hasked]) (by simp [unheard, asked?_open hst, hasked])
        (Option.some.inj hs)
    · rename_i f rest hin hno
      exact takeFrame_received (hidle hno) hin (Option.some.inj hs)
    · rename_i hin hno
      have hl := hidle hno
      have hnext := nextText?_of_isListening hl
      rw [hin] at hnext
      split_ifs at hs
      · exact .ending _ hnext hl (Option.some.inj hs)
      · obtain ⟨t, ht, he⟩ := Option.map_eq_some_iff.1 hs
        exact .reading hnext hl ht he
  · cases hs

theorem stage_readStep (hs : s.readStep now = some s') : s'.stage = s.stage := by
  unfold readStep at hs
  split at hs
  · split_ifs at hs
    cases hs
    rfl
  · cases hs
    rfl

/-- the send pump writes its push, takes the next event, or ends the session -/
theorem sendStep_cases (hs : s.sendStep p now = some (p', s')) :
    ∃ id line d, s.stage = .open id line d ∧
      (s.writeStep p .send now = some (p', s') ∨ (∃ ending, s.finish p id ending now = (p', s')) ∨
        ∃ e hub, p.hub.receive id = some (e, hub) ∧ s.takeEvent { p with hub } id e = (p', s')) := by
  unfold sendStep at hs
  split at hs
  · rename_i id line d hst
    refine ⟨id, line, d, hst, ?_⟩
    by_cases hw : line.any (·.pump = .send) = true
    · rw [if_pos hw] at hs
      exact Or.inl hs
    rw [if_neg hw] at hs
    by_cases hsd : p.hub.shutdown = true
    · rw [if_pos hsd] at hs
      exact Or.inr (Or.inl ⟨_, Option.some.inj hs⟩)
    rw [if_neg hsd] at hs
    split at hs
    · rename_i e hub hr
      exact Or.inr (Or.inr ⟨e, hub, hr, Option.some.inj hs⟩)
    · split_ifs at hs
      exact Or.inr (Or.inl ⟨_, Option.some.inj hs⟩)
  · cases hs

end

/-! ### Replies -/

/-- how the frames written and the frames in line stand to the texts heard, while a session is open -/
structure Answering (limit : Nat) (p : Publisher) (id : ClientId) (line : List Write) (frames : List Message)
    (heard : List Heard) : Prop where
  replies : (frames ++ line.map (·.frame)).filter (·.isReply) = Heard.replies limit {} heard
  subscriptions : p.subscriptions? id = some (Heard.subscribed limit {} heard)
  pumps : ∀ x ∈ line, x.pump = .receive ↔ x.frame.isReply = true

/-- how the frames that a session has written stand to the texts that it has heard -/
def Answered (limit : Nat) (p : Publisher) (frames : List Message) (heard : List Heard) (s : Session) : Prop :=
  match s.stage with
  | .connecting => frames = [] ∧ heard = []
  | .open id line _ => Answering limit p id line frames heard
  | _ => frames.filter (·.isReply) <+: Heard.replies limit {} heard

section

variable {limit : Nat} {p p' : Publisher} {frames : List Message} {heard : List Heard} {s s' : Session} {now : Nat}

theorem answered_open {id : ClientId} {line : List Write} {d : Option Nat} (hst : s.stage = .open id line d) :
    Answered limit p frames heard s ↔ Answering limit p id line frames heard := by
  unfold Answered
  rw [hst]

/-- the replies written are a prefix of those that the rule gives -/
theorem Answered.inOrder (ha : Answered limit p frames heard s) :
    frames.filter (·.isReply) <+: Heard.replies limit {} heard := by
  unfold Answered at ha
  split at ha
  · rw [ha.1]
    exact List.nil_prefix
  · rw [← ha.replies, List.filter_append]
    exact List.prefix_append _ _
  · exact ha

/-- **While the receive pump waits for input, every text has its reply written.** -/
theorem Answered.complete (ha : Answered limit p frames heard s) (hl : s.isListening = true) :
    frames.filter (·.isReply) = Heard.replies limit {} heard := by
  have hlistening := hl
  unfold isListening at hl
  split at hl
  · rename_i id line d hst
    have hopen := (answered_open hst).1 ha
    have hline : (line.map (·.frame)).filter (·.isReply) = [] := by
      refine List.filter_eq_nil_iff.2 fun m hm hr => ?_
      obtain ⟨x, hx, rfl⟩ := List.mem_map.1 hm
      have hline := ((isListening_iff hst).1 hlistening).1
      rw [List.any_eq_false] at hline
      exact hline x hx (by simpa using (hopen.pumps x hx).2 hr)
    rw [← hopen.replies, List.filter_append, hline, List.append_nil]
  · cases hl

/-- a session that has nothing to do with what changed -/
theorem Answered.congr (ha : Answered limit p frames heard s) (hst : s'.stage = s.stage)
    (hp : ∀ id, s.client? = some id → p'.subscriptions? id = p.subscriptions? id) :
    Answered limit p' frames heard s' := by
  unfold Answered at ha ⊢
  rw [hst]
  cases hs : s.stage with
  | «open» id line d =>
    simp only [hs] at ha ⊢
    exact ⟨ha.replies, (hp id (by simp [client?, hs])).trans ha.subscriptions, ha.pumps⟩
  | _ => simpa only [hs] using ha

omit limit frames heard p' s' in
/-- the reply to a text gets last in line -/
theorem answerText_eq (p : Publisher) {id : ClientId} {line : List Write} {d : Option Nat}
    (hst : s.stage = .open id line d) (text : String) :
    s.answerText p id text = ((p.answerFrame id s.config.maxRequestBytes text).1, { s with
      stage := .open id (line ++
        (p.answerFrame id s.config.maxRequestBytes text).2.toList.map (⟨.receive, ·⟩)) d }) :=
  congrArg (Prod.mk _) (enqueue_eq hst .receive _)

omit limit frames heard p' s' in
/-- a session that hears a text stays open, with the reply last in line -/
theorem receiveStep_heard (p : Publisher) (now : Nat) {text : String} (hn : s.nextText? = some text) :
    ∃ id line d, s.stage = .open id line d ∧ s.receiveStep p now =
      some ((p.answerFrame id s.config.maxRequestBytes text).1,
        { s with
          intake := .ready
          inbox := if s.isListening then s.inbox.tail else s.inbox
          stage := .open id (line ++
            (p.answerFrame id s.config.maxRequestBytes text).2.toList.map (⟨.receive, ·⟩)) d }) := by
  obtain ⟨id, line, d, hst, hline, hasking | ⟨hl, ⟨rest, hin⟩, hasks⟩⟩ := nextText?_cases hn
  · have hl : ¬s.isListening = true := fun hl => by
      have hidle := ((isListening_iff hst).1 hl).2
      rw [hasking, Intake.asked?] at hidle
      cases hidle
    refine ⟨id, line, d, hst, ?_⟩
    rw [receiveStep_of_asking p now hst hline hasking, answerText_eq (s := { s with intake := .ready }) p hst,
      if_neg hl]
  · refine ⟨id, line, d, hst, ?_⟩
    rw [receiveStep_of_frame p now hst hl hin, takeFrame, if_neg (by simp [hasks]),
      answerText_eq (s := { s with inbox := rest, intake := .ready }) p hst, if_pos hl, hin, List.tail_cons]

omit limit frames heard p' s' in
/-- so does one that has to ask the data source about a text -/
theorem receiveStep_asks (p : Publisher) (now : Nat) {text : String} {rest : List Frame} (hl : s.isListening = true)
    (hin : s.inbox = .text text :: rest) (hasks : Message.asksSource s.config.maxRequestBytes text = true) :
    s.receiveStep p now = some (p, { s with inbox := rest, intake := .asking text }) ∧
      { s with inbox := rest, intake := .asking text }.nextText? = some text := by
  obtain ⟨id, line, d, hst, hline, -⟩ := open_of_isListening hl
  refine ⟨by rw [receiveStep_of_frame p now hst hl hin, takeFrame, if_pos hasks], ?_⟩
  simp [nextText?, hst, hline, Intake.asked?]

omit limit frames heard p' s' in
/-- a receive pump that waits has no text to hear -/
theorem nextText?_of_receiveStep (hs : s.receiveStep p now = none) : s.nextText? = none := by
  cases hn : s.nextText? with
  | none => rfl
  | some t =>
    obtain ⟨id, line, d, -, hheard⟩ := receiveStep_heard p now hn
    exact absurd (hs.symm.trans hheard) (by simp)

end

/-! ## Texts are heard in the order in which they come -/

/-- how the texts that a session has heard stand to those that came in -/
def Listened (texts came : List String) (s : Session) : Prop :=
  match s.stage with
  | .connecting | .open .. => texts ++ s.unheard = came
  | _ => texts <+: came

section

variable {texts came : List String} {p p' : Publisher} {s s' : Session} {now : Nat}

theorem Listened.inOrder (hl : Listened texts came s) : texts <+: came := by
  unfold Listened at hl
  split at hl
  · exact hl ▸ List.prefix_append _ _
  · exact hl ▸ List.prefix_append _ _
  · exact hl

/-- the text about which the data source is asked is the next one -/
theorem Listened.asked (hl : Listened texts came s) : texts ++ s.asked?.toList <+: came := by
  unfold Listened unheard at hl
  split at hl
  · rw [← hl, ← List.append_assoc]
    exact List.prefix_append _ _
  · rw [← hl, ← List.append_assoc]
    exact List.prefix_append _ _
  · rename_i hno
    have hnone : s.asked? = none := by
      unfold asked?
      split
      · exact absurd ‹_› (hno _ _ _)
      · rfl
    rw [hnone, Option.toList_none, List.append_nil]
    exact hl

end

end Session

end ChainFeed
