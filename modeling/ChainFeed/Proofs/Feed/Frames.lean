/-
What the frames of one connection say about its subscriptions, as a peer reads them.

A reply `<s> subscribe ok` opens the target that `<s>` names, a reply `<s> unsubscribe ok` closes it, and a push is
for one target: its kind, or the address in its payload. `Consistent` reads frames in order and asks that each push
is for a target that is open at that place. Main statements:
- `opened?_subscribed`, `closed?_unsubscribed`: what the replies to granted requests say.
- `neutral_reply`: all other replies say nothing.
- `pushed?_push`, `pushed?_address`: what pushes are for.
- `consistent_concat`: the last frame is judged by what is open after the others.
-/
import ChainFeed.Proofs.Feed.Targets
import ChainFeed.Proofs.Node.Payloads
import ChainFeed.Feed.Message

namespace ChainFeed

namespace Message

/-! ## Reading frames -/

/-- what stands before an ending -/
def before? (ending s : String) : Option String :=
  if ending.toList.isSuffixOf s.toList then
    some (String.ofList (s.toList.take (s.toList.length - ending.toList.length)))
  else none

/-- the target that a text names before an ending -/
def named? (ending s : String) : Option Target :=
  (before? ending s).bind fun name => (SubscriptionRequest.parse name).toOption.map (·.target)

/-- the target that the frame opens -/
def opened? (m : Message) : Option Target :=
  if m.eventId = "subscribeResp" then named? " subscribe ok" m.message else none

/-- the target that the frame closes -/
def closed? (m : Message) : Option Target :=
  if m.eventId = "unsubscribeResp" then named? " unsubscribe ok" m.message else none

/-- whether the frame is a push: its id is that of a kind that clients can subscribe to -/
def isPush (m : Message) : Bool :=
  (EventKind.ofName? m.eventId).any EventKind.isSubscribable

/-- the target that a push is for: the address in its payload, or else its kind -/
def pushed? (m : Message) : Option Target :=
  match EventKind.ofName? m.eventId with
  | some .address => (AddressActivity.codec.parse m.message).toOption.map (.address ·.address)
  | some kind => some (.kind kind)
  | none => none

/-- the open targets after a frame -/
def track (targets : List Target) (m : Message) : List Target :=
  match m.opened?, m.closed? with
  | some t, _ => t :: targets
  | none, some t => targets.filter (· ≠ t)
  | none, none => targets

/-- each push is for a target that is open at its place -/
def Consistent : List Target → List Message → Prop
  | _, [] => True
  | targets, m :: ms => (m.isPush = true → ∃ t ∈ targets, m.pushed? = some t) ∧ Consistent (track targets m) ms

/-- the frame neither opens nor closes a target and is no push -/
structure Neutral (m : Message) : Prop where
  opened : m.opened? = none
  closed : m.closed? = none
  push : m.isPush = false

theorem consistent_append {targets : List Target} {a b : List Message} :
    Consistent targets (a ++ b) ↔ Consistent targets a ∧ Consistent (a.foldl track targets) b := by
  induction a generalizing targets with
  | nil => simp [Consistent]
  | cons m a ih => simp [Consistent, ih, and_assoc]

/-- the last frame is judged by what is open after the others -/
theorem consistent_concat {targets : List Target} {a : List Message} {m : Message} :
    Consistent targets (a ++ [m]) ↔
      Consistent targets a ∧ (m.isPush = true → ∃ t ∈ a.foldl track targets, m.pushed? = some t) := by
  simp [consistent_append, Consistent]

theorem Neutral.track {m : Message} (hm : m.Neutral) (targets : List Target) : track targets m = targets := by
  simp [Message.track, hm.opened, hm.closed]

/-! ## Replies -/

theorem before?_append (s ending : String) : before? ending (s ++ ending) = some s := by
  have hs : ending.toList.isSuffixOf (s ++ ending).toList = true := by
    simp [String.toList_append]
  unfold before?
  rw [if_pos hs]
  simp [String.toList_append]

theorem opened?_subscribed {text : String} {r : SubscriptionRequest} (hr : SubscriptionRequest.parse text = .ok r) :
    opened? ⟨"subscribeResp", text ++ " subscribe ok"⟩ = some r.target := by
  simp [opened?, named?, before?_append, hr, Except.toOption]

theorem closed?_unsubscribed {text : String} {r : SubscriptionRequest}
    (hr : SubscriptionRequest.parse text = .ok r) :
    closed? ⟨"unsubscribeResp", text ++ " unsubscribe ok"⟩ = some r.target := by
  simp [closed?, named?, before?_append, hr, Except.toOption]

theorem track_subscribed {text : String} {r : SubscriptionRequest} (hr : SubscriptionRequest.parse text = .ok r)
    (targets : List Target) :
    track targets ⟨"subscribeResp", text ++ " subscribe ok"⟩ = r.target :: targets := by
  simp [track, opened?_subscribed hr]

theorem track_unsubscribed {text : String} {r : SubscriptionRequest}
    (hr : SubscriptionRequest.parse text = .ok r) (targets : List Target) :
    track targets ⟨"unsubscribeResp", text ++ " unsubscribe ok"⟩ = targets.filter (· ≠ r.target) := by
  have ho : opened? ⟨"unsubscribeResp", text ++ " unsubscribe ok"⟩ = none := rfl
  simp [track, ho, closed?_unsubscribed hr]

/-- no kind of event has a name like that of a reply -/
theorem ofName?_append_Resp (s : String) : EventKind.ofName? (s ++ "Resp") = none := by
  have hk : ∀ k : EventKind, k.name ≠ s ++ "Resp" := fun k hk => by
    have hs : "Resp".toList.isSuffixOf k.name.toList = true := by simp [hk, String.toList_append]
    revert hs
    cases k <;> decide
  unfold EventKind.ofName?
  simp [hk]

theorem isPush_reply (m : Message) (s : String) : (m.reply s).isPush = false := by
  simp [isPush, reply, ofName?_append_Resp]

theorem eventId_of_append_Resp {s t : String} (h : s ++ "Resp" = t ++ "Resp") : s = t := by
  have hl := congrArg String.toList h
  simp only [String.toList_append] at hl
  exact String.toList_inj.1 (List.append_cancel_right hl)

/-- a reply that does not grant a subscription or its withdrawal says nothing -/
theorem neutral_reply {m : Message} {s : String}
    (hs : m.eventId = "subscribe" → before? " subscribe ok" s = none)
    (hu : m.eventId = "unsubscribe" → before? " unsubscribe ok" s = none) : (m.reply s).Neutral := by
  refine ⟨?_, ?_, isPush_reply m s⟩
  · unfold opened?
    split_ifs with he
    · have hm : m.eventId = "subscribe" := eventId_of_append_Resp he
      simp [named?, reply, hs hm]
    · rfl
  · unfold closed?
    split_ifs with he
    · have hm : m.eventId = "unsubscribe" := eventId_of_append_Resp he
      simp [named?, reply, hu hm]
    · rfl

theorem neutral_unreadable (e : FeedError) : (unreadable e).Neutral := ⟨rfl, rfl, rfl⟩

/-! ## Pushes -/

theorem pushed?_address (activity : AddressActivity) :
    (push .address (AddressActivity.codec.text activity)).pushed? = some (.address activity.address) := by
  simp [pushed?, push, EventKind.ofName?_name, activity.codec_restores.parse_text, Except.toOption]

theorem pushed?_push {kind : EventKind} (hk : kind ≠ .address) (s : String) :
    (push kind s).pushed? = some (.kind kind) := by
  unfold pushed? push
  rw [EventKind.ofName?_name]
  cases kind <;> simp at hk ⊢

/-- a push neither opens nor closes a target -/
theorem track_push (kind : EventKind) (s : String) (targets : List Target) :
    track targets (push kind s) = targets := by
  have ho : (push kind s).opened? = none := by
    unfold opened? push
    cases kind <;> rfl
  have hc : (push kind s).closed? = none := by
    unfold closed? push
    cases kind <;> rfl
  simp [track, ho, hc]

end Message

end ChainFeed
