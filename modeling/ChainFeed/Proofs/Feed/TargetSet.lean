/-
The subscriptions of a client as one plain set of targets.

`Subscriptions` keeps two lists, the kinds and the watched addresses; a `TargetSet` is a finite set, and a call inserts
one target, erases one, or empties it. Main statements:
- `Proper`: what holds of the two lists after any calls.
- `subscribe_agrees`, `unsubscribe_agrees`: a request comes to the same on the lists and on the set.
- `count_eq_card`: the lists count the targets of the set.
- `represents_calls`: the lists and the set go on together.
- `subscriptions_refine`: after every list of calls the two lists are the plain set, in what they answer to any
  further call, in which events they let through and in how many subscriptions they count.
-/
import Mathlib.Data.Finset.Card
import ChainFeed.Proofs.Feed.Targets

namespace ChainFeed

/-- what can be asked of the subscriptions of a client -/
inductive SubscriptionCall where
  | subscribe (request : SubscriptionRequest)
  | unsubscribe (request : SubscriptionRequest)
  | clear

/-- the target that a request names, if it names one: a kind that takes a filter needs a usable one -/
def SubscriptionRequest.named (r : SubscriptionRequest) : Except FeedError Target :=
  if r.kind.requiresFilter && !r.filter.any isAddress then .error (.malformedFilter r.kind.name) else .ok r.target

/-- whether the target is an address -/
def Target.isAddress : Target → Bool
  | .kind _ => false
  | .address _ => true

/-! ## The plain set -/

/-- a set of targets -/
abbrev TargetSet := Finset Target

namespace TargetSet

/-- the addresses in a set -/
def watched (T : TargetSet) : TargetSet :=
  T.filter (·.isAddress)

/-- adds the target that a request names; only a new address can be one too many -/
def subscribe (T : TargetSet) (r : SubscriptionRequest) : Except FeedError TargetSet :=
  if !r.kind.isSubscribable then .error (.invalidSubscription r.kind.name)
  else
    match r.named with
    | .error e => .error e
    | .ok t =>
      if t ∉ T ∧ t.isAddress ∧ Subscriptions.addressLimit ≤ T.watched.card then
        .error (.subscriptionLimit Subscriptions.addressLimit)
      else .ok (insert t T)

/-- takes the target that a request names away, whether it is there or not -/
def unsubscribe (T : TargetSet) (r : SubscriptionRequest) : Except FeedError TargetSet :=
  r.named.map T.erase

/-- what a request comes to; clearing is no request -/
def ask (T : TargetSet) : SubscriptionCall → Option (Except FeedError TargetSet)
  | .subscribe r => some (T.subscribe r)
  | .unsubscribe r => some (T.unsubscribe r)
  | .clear => none

/-- the set after a call; one that is refused changes nothing -/
def call (T : TargetSet) (c : SubscriptionCall) : TargetSet :=
  match T.ask c with
  | some result => result.toOption.getD T
  | none => ∅

/-- what is answered to a request: whether the set is another one afterwards, or why the request is refused -/
def answer (T : TargetSet) (c : SubscriptionCall) : Option (Except FeedError Bool) :=
  (T.ask c).map fun result => result.map fun T' => decide (T' ≠ T)

/-- the set after a list of calls -/
def calls (T : TargetSet) (cs : List SubscriptionCall) : TargetSet :=
  cs.foldl call T

variable {T : TargetSet} {c : SubscriptionCall}

theorem ask_of_answer {x : Except FeedError Bool} (h : T.answer c = some x) :
    ∃ result : Except FeedError TargetSet, T.ask c = some result ∧ result.map (fun T' => decide (T' ≠ T)) = x :=
  Option.map_eq_some_iff.1 h

theorem call_of_refused {e : FeedError} (h : T.answer c = some (.error e)) : T.call c = T := by
  obtain ⟨result, hr, hx⟩ := ask_of_answer h
  cases result with
  | error e => rw [call, hr]; rfl
  | ok T' => cases hx

theorem changed_of_answer {b : Bool} (h : T.answer c = some (.ok b)) : b = true ↔ T.call c ≠ T := by
  obtain ⟨result, hr, hx⟩ := ask_of_answer h
  cases result with
  | error e => cases hx
  | ok T' =>
    have hcall : T.call c = T' := by rw [call, hr]; rfl
    cases hx
    rw [hcall, decide_eq_true_iff]

end TargetSet

namespace Subscriptions

/-- what a request comes to; clearing is no request -/
def ask (s : Subscriptions) : SubscriptionCall → Option (Except FeedError (Subscriptions × Bool))
  | .subscribe r => some (s.subscribe r)
  | .unsubscribe r => some (s.unsubscribe r)
  | .clear => none

/-- the subscriptions after a call; one that is refused changes nothing -/
def call (s : Subscriptions) (c : SubscriptionCall) : Subscriptions :=
  match s.ask c with
  | some result => (result.map Prod.fst).toOption.getD s
  | none => s.unsubscribeAll

/-- what is answered to a request: whether anything changed, or why it is refused -/
def answer (s : Subscriptions) (c : SubscriptionCall) : Option (Except FeedError Bool) :=
  (s.ask c).map fun result => result.map Prod.snd

/-- the subscriptions after a list of calls -/
def calls (s : Subscriptions) (cs : List SubscriptionCall) : Subscriptions :=
  cs.foldl call s

theorem call_of_refused {s : Subscriptions} {c : SubscriptionCall} {e : FeedError}
    (h : s.answer c = some (.error e)) : s.call c = s := by
  obtain ⟨result, hr, hx⟩ := Option.map_eq_some_iff.1 h
  cases result with
  | error e => rw [call, hr]; rfl
  | ok granted => cases hx

/-! ## What a call comes to -/

/-- a usable filter names the target of its request, and any other filter names nothing -/
theorem named_ofAddress {r : SubscriptionRequest} (hk : r.kind.requiresFilter = true) :
    (∃ e, filterAddress r.kind r.filter = .error e ∧ r.named = .error e) ∨
      ∃ a, filterAddress r.kind r.filter = .ok a ∧ r.named = .ok (.address a) ∧ r.target = .address a ∧
        isAddress a = true := by
  have hkind : r.kind = .address := by simpa [EventKind.requiresFilter] using hk
  cases hf : r.filter with
  | none => exact Or.inl ⟨_, rfl, by simp [SubscriptionRequest.named, hk, hf]⟩
  | some a =>
    have ht : r.target = .address a := target_ofAddress hkind hf
    by_cases ha : isAddress a = true
    · exact Or.inr ⟨a, if_pos ha, by simp [SubscriptionRequest.named, hf, ha, ht], ht, ha⟩
    · exact Or.inl ⟨_, if_neg ha, by simp [SubscriptionRequest.named, hk, hf, ha]⟩

theorem named_ofKind {r : SubscriptionRequest} (hk : r.kind.requiresFilter = false) :
    r.named = .ok (.kind r.kind) := by
  simp [SubscriptionRequest.named, hk, target_ofKind hk]

/-- everything that a subscription can come to -/
inductive Subscribed (s : Subscriptions) (r : SubscriptionRequest) : Except FeedError (Subscriptions × Bool) → Prop
  | unknown (closed : r.kind.isSubscribable = false) : Subscribed s r (.error (.invalidSubscription r.kind.name))
  | malformed {e : FeedError} (subscribable : r.kind.isSubscribable = true) (named : r.named = .error e) :
      Subscribed s r (.error e)
  | ofKind (subscribable : r.kind.isSubscribable = true) (plain : r.kind.requiresFilter = false) :
      Subscribed s r (.ok ({ s with kinds := insertNew r.kind s.kinds }, !s.kinds.contains r.kind))
  | known {a : String} (subscribable : r.kind.isSubscribable = true) (named : r.named = .ok (.address a))
      (target : r.target = .address a) (mem : a ∈ s.addresses) : Subscribed s r (.ok (s, false))
  | full {a : String} (subscribable : r.kind.isSubscribable = true) (named : r.named = .ok (.address a))
      (fresh : a ∉ s.addresses) (full : addressLimit ≤ s.addresses.length) :
      Subscribed s r (.error (.subscriptionLimit addressLimit))
  | new {a : String} (subscribable : r.kind.isSubscribable = true) (named : r.named = .ok (.address a))
      (target : r.target = .address a) (valid : isAddress a = true) (fresh : a ∉ s.addresses)
      (room : s.addresses.length < addressLimit) :
      Subscribed s r (.ok (⟨insertNew r.kind s.kinds, s.addresses ++ [a]⟩, true))

theorem subscribed (s : Subscriptions) (r : SubscriptionRequest) : Subscribed s r (s.subscribe r) := by
  unfold subscribe
  by_cases hsub : r.kind.isSubscribable = true
  · rw [if_neg (by simp [hsub])]
    by_cases hk : r.kind.requiresFilter = true
    · rw [if_neg (by simp [hk])]
      rcases named_ofAddress hk with ⟨e, he, hn⟩ | ⟨a, ha, hn, ht, hv⟩
      · rw [he]
        exact .malformed hsub hn
      · rw [ha]
        dsimp only
        split_ifs with hm hl
        · exact .known hsub hn ht hm
        · exact .full hsub hn hm hl
        · exact .new hsub hn ht hv hm (Nat.lt_of_not_le hl)
    · rw [if_pos (by simp [hk])]
      exact .ofKind hsub (by simpa using hk)
  · rw [if_pos (by simp [hsub])]
    exact .unknown (by simpa using hsub)

/-- everything that an unsubscription can come to -/
inductive Unsubscribed (s : Subscriptions) (r : SubscriptionRequest) :
    Except FeedError (Subscriptions × Bool) → Prop
  | malformed {e : FeedError} (named : r.named = .error e) : Unsubscribed s r (.error e)
  | ofKind (plain : r.kind.requiresFilter = false) :
      Unsubscribed s r (.ok ({ s with kinds := s.kinds.erase r.kind }, s.kinds.contains r.kind))
  | ofAddress {a : String} {kinds : List EventKind} (named : r.named = .ok (.address a))
      (target : r.target = .address a) (sublist : kinds.Sublist s.kinds) :
      Unsubscribed s r (.ok (⟨kinds, s.addresses.erase a⟩, s.addresses.contains a))

theorem unsubscribed (s : Subscriptions) (r : SubscriptionRequest) : Unsubscribed s r (s.unsubscribe r) := by
  unfold unsubscribe
  by_cases hk : r.kind.requiresFilter = true
  · rw [if_neg (by simp [hk])]
    rcases named_ofAddress hk with ⟨e, he, hn⟩ | ⟨a, ha, hn, ht, -⟩
    · rw [he]
      exact .malformed hn
    · rw [ha]
      refine .ofAddress hn ht ?_
      split_ifs
      · exact List.erase_sublist
      · exact List.Sublist.refl _
  · rw [if_pos (by simp [hk])]
    exact .ofKind (by simpa using hk)

/-! ## The two lists at every moment -/

/-- what holds of the two lists at every moment -/
structure Proper (s : Subscriptions) : Prop extends s.Coherent where
  subscribable : ∀ k ∈ s.kinds, k.isSubscribable = true
  addressed : ∀ a ∈ s.addresses, isAddress a = true
  limited : s.addresses.length ≤ addressLimit

theorem proper_nil : Proper {} where
  toCoherent := coherent_nil
  subscribable := by simp
  addressed := by simp
  limited := Nat.zero_le _

section

variable {s s' : Subscriptions} {r : SubscriptionRequest} {b : Bool} (hs : s.Proper)
include hs

theorem proper_subscribe (h : s.subscribe r = .ok (s', b)) : s'.Proper := by
  have hc := coherent_subscribe hs.toCoherent h
  have hkinds : r.kind.isSubscribable = true → ∀ k ∈ insertNew r.kind s.kinds, k.isSubscribable = true := by
    intro hsub k hk
    rcases mem_insertNew.1 hk with rfl | hk
    · exact hsub
    · exact hs.subscribable k hk
  have hcall := subscribed s r
  rw [h] at hcall
  cases hcall with
  | ofKind hsub => exact ⟨hc, hkinds hsub, hs.addressed, hs.limited⟩
  | known => exact hs
  | @new a hsub _ _ hv _ hroom =>
    refine ⟨hc, hkinds hsub, ?_, ?_⟩
    · intro x hx
      rcases List.mem_append.1 hx with hx | hx
      · exact hs.addressed x hx
      · rw [List.mem_singleton.1 hx]
        exact hv
    · rw [List.length_append, List.length_singleton]
      omega

theorem proper_unsubscribe (h : s.unsubscribe r = .ok (s', b)) : s'.Proper := by
  have hc := coherent_unsubscribe hs.toCoherent h
  have hcall := unsubscribed s r
  rw [h] at hcall
  cases hcall with
  | ofKind => exact ⟨hc, fun k hk => hs.subscribable k (List.mem_of_mem_erase hk), hs.addressed, hs.limited⟩
  | ofAddress _ _ hsub =>
    exact ⟨hc, fun k hk => hs.subscribable k (hsub.subset hk), fun x hx => hs.addressed x (List.mem_of_mem_erase hx),
      Nat.le_trans List.length_erase_le hs.limited⟩

end

/-! ## The lists and the set -/

/-- the lists hold exactly the targets of the set -/
structure Represents (s : Subscriptions) (T : TargetSet) : Prop where
  proper : s.Proper
  mem : ∀ t, t ∈ T ↔ s.has t = true

theorem represents_nil : Represents {} ∅ where
  proper := proper_nil
  mem t := by cases t <;> simp [has, hasKind]

/-- the lists and the set come to the same: the same refusal, or the same targets and an answer that tells whether
the set is another one than before -/
inductive Agree (T : TargetSet) : Except FeedError (Subscriptions × Bool) → Except FeedError TargetSet → Prop
  | refused (e : FeedError) : Agree T (.error e) (.error e)
  | granted {s' : Subscriptions} {T' : TargetSet} {b : Bool} (represents : s'.Represents T')
      (changed : b = true ↔ T' ≠ T) : Agree T (.ok (s', b)) (.ok T')

section

variable {s : Subscriptions} {T : TargetSet} (h : s.Represents T)
include h

theorem watched_eq : T.watched = (s.addresses.map Target.address).toFinset := by
  ext t
  rw [TargetSet.watched, Finset.mem_filter, h.mem, List.mem_toFinset, List.mem_map]
  cases t with
  | kind k => simp [Target.isAddress]
  | address a => simp [Target.isAddress, has]

/-- the watched addresses of the set are as many as those in the list -/
theorem card_watched : T.watched.card = s.addresses.length := by
  have hn : (s.addresses.map Target.address).Nodup :=
    h.proper.addresses_nodup.map fun a b hab => Target.address.inj hab
  rw [watched_eq h, List.toFinset_card_of_nodup hn, List.length_map]

/-- **The lists count the targets of the set.** -/
theorem count_eq_card : s.count = T.card := by
  have hkinds : ((s.kinds.filter fun k => !k.requiresFilter).map Target.kind).Nodup :=
    (h.proper.kinds_nodup.filter _).map fun a b hab => Target.kind.inj hab
  have haddresses : (s.addresses.map Target.address).Nodup :=
    h.proper.addresses_nodup.map fun a b hab => Target.address.inj hab
  have hn : ((s.kinds.filter fun k => !k.requiresFilter).map Target.kind ++
      s.addresses.map Target.address).Nodup := by
    refine List.nodup_append.2 ⟨hkinds, haddresses, ?_⟩
    intro x hx y hy hxy
    obtain ⟨k, -, rfl⟩ := List.mem_map.1 hx
    obtain ⟨a, -, rfl⟩ := List.mem_map.1 hy
    cases hxy
  have hT : T = ((s.kinds.filter fun k => !k.requiresFilter).map Target.kind ++
      s.addresses.map Target.address).toFinset := by
    ext t
    rw [h.mem, List.mem_toFinset, List.mem_append, List.mem_map, List.mem_map]
    cases t with
    | kind k => simp [has, hasKind, and_comm]
    | address a => simp [has]
  rw [hT, List.toFinset_card_of_nodup hn, List.length_append, List.length_map, List.length_map, count]

/-- **A subscription comes to the same on the lists and on the set.** -/
theorem subscribe_agrees (r : SubscriptionRequest) : Agree T (s.subscribe r) (T.subscribe r) := by
  have hcall := subscribed s r
  have hgranted : ∀ s' b, s.subscribe r = .ok (s', b) → s'.Represents (insert r.target T) := by
    intro s' b hok
    refine ⟨proper_subscribe h.proper hok, fun t => ?_⟩
    rw [Finset.mem_insert, h.mem, subscribe_has hok]
  generalize s.subscribe r = result at hcall hgranted
  have hmem : ∀ a, .address a ∈ T ↔ a ∈ s.addresses := fun a => by simp [h.mem, has]
  unfold TargetSet.subscribe
  cases hcall with
  | unknown hclosed =>
    rw [if_pos (by simp [hclosed])]
    exact .refused _
  | malformed hsub hn =>
    rw [if_neg (by simp [hsub]), hn]
    exact .refused _
  | ofKind hsub hp =>
    rw [if_neg (by simp [hsub]), named_ofKind hp]
    dsimp only
    rw [if_neg (by simp [Target.isAddress])]
    have hr := hgranted _ _ rfl
    rw [target_ofKind hp] at hr
    refine .granted hr ?_
    simp [h.mem, has, hp, hasKind]
  | @known a hsub hn ht hm =>
    rw [if_neg (by simp [hsub]), hn]
    dsimp only
    rw [if_neg fun hx => hx.1 ((hmem a).2 hm)]
    have hr := hgranted _ _ rfl
    rw [ht] at hr
    refine .granted hr ?_
    simp [hmem, hm]
  | @full a hsub hn hm hl =>
    rw [if_neg (by simp [hsub]), hn]
    dsimp only
    rw [if_pos ⟨fun hx => hm ((hmem a).1 hx), rfl, by rw [card_watched h]; exact hl⟩]
    exact .refused _
  | @new a hsub hn ht _ hm hroom =>
    rw [if_neg (by simp [hsub]), hn]
    dsimp only
    rw [if_neg fun hx => Nat.not_le.2 hroom (card_watched h ▸ hx.2.2)]
    have hr := hgranted _ _ rfl
    rw [ht] at hr
    refine .granted hr ?_
    simp [hmem, hm]

/-- **So does an unsubscription.** -/
theorem unsubscribe_agrees (r : SubscriptionRequest) : Agree T (s.unsubscribe r) (T.unsubscribe r) := by
  have hcall := unsubscribed s r
  have hgranted : ∀ s' b, s.unsubscribe r = .ok (s', b) → s'.Represents (T.erase r.target) := by
    intro s' b hok
    refine ⟨proper_unsubscribe h.proper hok, fun t => ?_⟩
    rw [Finset.mem_erase, h.mem, unsubscribe_has h.proper.toCoherent hok]
  have hchanged : ∀ t, T.erase t ≠ T ↔ t ∈ T := fun t => by simp
  generalize s.unsubscribe r = result at hcall hgranted
  unfold TargetSet.unsubscribe
  cases hcall with
  | malformed hn =>
    rw [hn]
    exact .refused _
  | ofKind hp =>
    rw [named_ofKind hp]
    have hr := hgranted _ _ rfl
    rw [target_ofKind hp] at hr
    refine .granted hr ?_
    rw [hchanged, h.mem]
    simp [has, hp, hasKind]
  | @ofAddress a _ hn ht =>
    rw [hn]
    have hr := hgranted _ _ rfl
    rw [ht] at hr
    refine .granted hr ?_
    rw [hchanged, h.mem]
    simp [has]

theorem ask_agrees (c : SubscriptionCall) :
    (s.ask c = none ∧ T.ask c = none) ∨ ∃ x y, s.ask c = some x ∧ T.ask c = some y ∧ Agree T x y := by
  cases c with
  | subscribe r => exact Or.inr ⟨_, _, rfl, rfl, subscribe_agrees h r⟩
  | unsubscribe r => exact Or.inr ⟨_, _, rfl, rfl, unsubscribe_agrees h r⟩
  | clear => exact Or.inl ⟨rfl, rfl⟩

/-- **Every call is answered alike, and the lists and the set go on together.** -/
theorem represents_call (c : SubscriptionCall) : (s.call c).Represents (T.call c) ∧ s.answer c = T.answer c := by
  unfold call answer TargetSet.call TargetSet.answer
  rcases ask_agrees h c with ⟨hs, hT⟩ | ⟨x, y, hs, hT, hxy⟩
  · rw [hs, hT]
    exact ⟨represents_nil, rfl⟩
  · rw [hs, hT]
    cases hxy with
    | refused e => exact ⟨h, rfl⟩
    | @granted s' T' b hr hb =>
      have he : b = decide (T' ≠ T) := by rw [Bool.eq_iff_iff, hb, decide_eq_true_iff]
      exact ⟨hr, by rw [he]; rfl⟩

theorem represents_calls (cs : List SubscriptionCall) : (s.calls cs).Represents (T.calls cs) := by
  induction cs generalizing s T with
  | nil => exact h
  | cons c cs ih => exact ih (represents_call h c).1

theorem isSubscribed_iff (e : Event) : s.isSubscribed e = true ↔ .kind e.kind ∈ T ∨
    ∃ activity, e = .address activity ∧ activity.isValid = true ∧ .address activity.address ∈ T := by
  cases e with
  | address activity =>
    -- the kind `address` is there whenever the address is
    have hkind : s.addresses.contains activity.address = true → s.hasKind .address = true := by
      intro hm
      refine h.proper.address.2 fun hn => ?_
      simp [hn] at hm
    rw [h.mem, show s.has (.kind (Event.address activity).kind) = false from rfl]
    constructor
    · intro hs
      simp only [isSubscribed, Bool.and_eq_true] at hs
      exact Or.inr ⟨activity, rfl, hs.2.1, (h.mem _).2 hs.2.2⟩
    · rintro (hf | ⟨_, he, hv, hm⟩)
      · cases hf
      · cases he
        have hm : s.addresses.contains activity.address = true := (h.mem _).1 hm
        simp only [isSubscribed, Event.kind, hkind hm, hv, hm, Bool.and_self]
  | _ => simp [isSubscribed, Event.kind, h.mem, has, EventKind.requiresFilter]

/-- only a new address that can be one is refused for the limit, and only when there is no place for it -/
theorem limit_of_answer {c : SubscriptionCall} {n : Nat} (hc : s.answer c = some (.error (.subscriptionLimit n))) :
    n = addressLimit ∧ ∃ r a, c = .subscribe r ∧ r.kind = .address ∧ r.filter = some a ∧ isAddress a = true ∧
      .address a ∉ T ∧ T.watched.card = addressLimit := by
  have hnamed : ∀ r : SubscriptionRequest, r.named ≠ .error (.subscriptionLimit n) := by
    intro r hr
    unfold SubscriptionRequest.named at hr
    split_ifs at hr
    cases hr
  cases c with
  | subscribe r =>
    have hcall := subscribed s r
    replace hc := Option.some.inj hc
    generalize s.subscribe r = x at hcall hc
    cases hcall with
    | malformed _ hn =>
      cases hc
      exact absurd hn (hnamed r)
    | @full a _ hn hm hl =>
      cases hc
      have hle := h.proper.limited
      have hfilter : r.kind = .address ∧ r.filter = some a ∧ isAddress a = true := by
        cases hp : r.kind.requiresFilter with
        | false => rw [named_ofKind hp] at hn; cases hn
        | true =>
          rcases named_ofAddress hp with ⟨e, -, he⟩ | ⟨a', ha', hn', -, -⟩
          · rw [he] at hn
            cases hn
          · rw [hn'] at hn
            cases hn
            exact ⟨by simpa [EventKind.requiresFilter] using hp, filterAddress_ok ha'⟩
      refine ⟨rfl, r, a, rfl, hfilter.1, hfilter.2.1, hfilter.2.2, ?_, ?_⟩
      · rw [h.mem]
        simpa [has] using hm
      · rw [card_watched h]
        omega
    | unknown => cases hc
    | ofKind => cases hc
    | known => cases hc
    | new => cases hc
  | unsubscribe r =>
    have hcall := unsubscribed s r
    replace hc := Option.some.inj hc
    generalize s.unsubscribe r = x at hcall hc
    cases hcall with
    | malformed hn =>
      cases hc
      exact absurd hn (hnamed r)
    | ofKind => cases hc
    | ofAddress => cases hc
  | clear => cases hc

end

/-! ## Every list of calls -/

/-- how the two lists stand for the set of targets `T` -/
structure Refined (s : Subscriptions) (T : TargetSet) : Prop where
  /-- the kinds in the set are the listed ones that take no filter -/
  kinds : ∀ k, .kind k ∈ T ↔ k ∈ s.kinds ∧ k.requiresFilter = false
  /-- the addresses in the set are the listed ones -/
  addresses : ∀ a, .address a ∈ T ↔ a ∈ s.addresses
  address : .address ∈ s.kinds ↔ ∃ a, .address a ∈ T
  limited : T.watched.card ≤ 100
  wellFormed : ∀ a, .address a ∈ T → a ≠ "" ∧ ∀ c ∈ a.toList, isBlank c = false
  closed : .subscribe ∉ s.kinds ∧ .unsubscribe ∉ s.kinds ∧ .newTx ∉ s.kinds
  /-- a further call is answered as on the set -/
  answers : ∀ c, s.answer c = T.answer c
  changed : ∀ c b, s.answer c = some (.ok b) → (b = true ↔ T.call c ≠ T)
  refused : ∀ c e, s.answer c = some (.error e) → s.call c = s ∧ T.call c = T
  limit : ∀ c n, s.answer c = some (.error (.subscriptionLimit n)) → n = 100 ∧ ∃ r a, c = .subscribe r ∧
    r.kind = .address ∧ r.filter = some a ∧ isAddress a = true ∧ .address a ∉ T ∧ T.watched.card = 100
  absent : ∀ r t, r.named = .ok t → t ∉ T → s.answer (.unsubscribe r) = some (.ok false)
  delivered : ∀ e, s.isSubscribed e = true ↔ .kind e.kind ∈ T ∨
    ∃ activity, e = .address activity ∧ activity.isValid = true ∧ .address activity.address ∈ T
  count : s.count = T.card

theorem refined {s : Subscriptions} {T : TargetSet} (h : s.Represents T) : s.Refined T where
  kinds k := by rw [h.mem]; simp [has, hasKind, and_comm]
  addresses a := by rw [h.mem]; simp [has]
  address := by
    have hkind : .address ∈ s.kinds ↔ s.addresses ≠ [] := by simpa [hasKind] using h.proper.address
    rw [hkind]
    constructor
    · intro hne
      obtain ⟨a, ha⟩ := List.exists_mem_of_ne_nil _ hne
      exact ⟨a, (h.mem _).2 (by simpa [has] using ha)⟩
    · rintro ⟨a, ha⟩
      exact List.ne_nil_of_mem (by simpa [has] using (h.mem _).1 ha)
  limited := card_watched h ▸ h.proper.limited
  wellFormed a ha := by
    have ha : isAddress a = true := h.proper.addressed a (by simpa [has] using (h.mem _).1 ha)
    simpa [isAddress] using ha
  closed := by
    refine ⟨?_, ?_, ?_⟩
    all_goals
      intro hk
      cases h.proper.subscribable _ hk
  answers c := (represents_call h c).2
  changed c b hc := by
    rw [(represents_call h c).2] at hc
    exact TargetSet.changed_of_answer hc
  refused c e hc := by
    have hT : T.answer c = some (.error e) := (represents_call h c).2 ▸ hc
    exact ⟨call_of_refused hc, TargetSet.call_of_refused hT⟩
  limit c n hc := limit_of_answer h hc
  absent r t hr ht := by
    have hsame : T.unsubscribe r = .ok T := by
      rw [TargetSet.unsubscribe, hr]
      exact congrArg Except.ok (Finset.erase_eq_of_notMem ht)
    rw [(represents_call h _).2, TargetSet.answer, TargetSet.ask, hsame]
    simp [Except.map]
  delivered e := isSubscribed_iff h e
  count := count_eq_card h

/-- **The two lists are one plain set of targets.** After every list of calls, whatever kinds and filters they name:
the lists hold the targets of the set that the calls make, `address` is among the kinds as long as an address is
watched, and there are at most a hundred addresses, all of which can be one. Every further call is answered as on the
set: with whether the set changes, or with a refusal that changes nothing. Events go through by their target, and the
count is the size of the set. -/
theorem subscriptions_refine (cs : List SubscriptionCall) : Refined (calls {} cs) (TargetSet.calls ∅ cs) :=
  refined (represents_calls represents_nil cs)

end Subscriptions

end ChainFeed
