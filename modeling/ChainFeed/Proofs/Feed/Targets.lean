/-
What a client is subscribed to, one target at a time.

A target is a kind of event or one address; the kind `address` as a whole is none. Requests name targets, and each
event is for one target. Main statements:
- `subscribe_has`, `unsubscribe_has`: a request that is granted changes the target that it names and no other.
- `isSubscribed_eq`: a well-formed event is for the client if and only if its target is subscribed to.
-/
import Mathlib.Data.List.Basic
import ChainFeed.Feed.Subscriptions

namespace ChainFeed

/-- what a subscription is about -/
inductive Target where
  | kind (kind : EventKind)
  | address (address : String)
deriving DecidableEq, Repr

/-- the target that a request names -/
def SubscriptionRequest.target (r : SubscriptionRequest) : Target :=
  if r.kind.requiresFilter then .address (r.filter.getD "") else .kind r.kind

theorem target_ofKind {r : SubscriptionRequest} (hp : r.kind.requiresFilter = false) :
    r.target = .kind r.kind := by
  simp [SubscriptionRequest.target, hp]

theorem target_ofAddress {r : SubscriptionRequest} {a : String} (hk : r.kind = .address)
    (hf : r.filter = some a) : r.target = .address a := by
  simp [SubscriptionRequest.target, hk, hf, EventKind.requiresFilter]

/-- the target that an event is for -/
def Event.target : Event → Target
  | .address activity => .address activity.address
  | e => .kind e.kind

namespace Subscriptions

/-- whether a target is subscribed to -/
def has (s : Subscriptions) : Target → Bool
  | .kind k => !k.requiresFilter && s.hasKind k
  | .address a => s.addresses.contains a

/-- the two sets fit together -/
structure Coherent (s : Subscriptions) : Prop where
  kinds_nodup : s.kinds.Nodup
  addresses_nodup : s.addresses.Nodup
  address : s.hasKind .address = true ↔ s.addresses ≠ []

/-- `s'` is what a granted request or the end of a session makes of `s` -/
inductive Change (s : Subscriptions) : Subscriptions → Prop
  | added {s' : Subscriptions} {r : SubscriptionRequest} {b : Bool} (granted : s.subscribe r = .ok (s', b)) :
      Change s s'
  | removed {s' : Subscriptions} {r : SubscriptionRequest} {b : Bool}
      (granted : s.unsubscribe r = .ok (s', b)) : Change s s'
  | cleared : Change s s.unsubscribeAll

/-! ## Sets kept as lists -/

section

variable {α : Type} [DecidableEq α] {a b : α} {as : List α}

theorem mem_insertNew : b ∈ insertNew a as ↔ b = a ∨ b ∈ as := by
  unfold insertNew
  split_ifs with h
  · exact ⟨Or.inr, fun hb => hb.elim (fun he => he ▸ h) (fun hb => hb)⟩
  · simp [or_comm]

theorem nodup_insertNew (hn : as.Nodup) : (insertNew a as).Nodup := by
  unfold insertNew
  split_ifs with h
  · exact hn
  · refine List.nodup_append.2 ⟨hn, by simp, fun x hx y hy hxy => ?_⟩
    rw [List.mem_singleton] at hy
    exact h (hy ▸ hxy ▸ hx)

end

/-! ## Requests -/

theorem filterAddress_ok {kind : EventKind} {filter : Option String} {a : String}
    (h : filterAddress kind filter = .ok a) : filter = some a ∧ isAddress a = true := by
  unfold filterAddress at h
  split at h
  · split_ifs at h with ha
    cases h
    exact ⟨rfl, ha⟩
  · cases h

/-- what a granted subscription is: one of a kind, one to an address that is watched already, or one to a new
address -/
inductive Added (s : Subscriptions) (r : SubscriptionRequest) : Subscriptions → Prop
  | ofKind (plain : r.kind.requiresFilter = false) : Added s r { s with kinds := insertNew r.kind s.kinds }
  | known {a : String} (kind : r.kind = .address) (filter : r.filter = some a) (mem : a ∈ s.addresses) :
      Added s r s
  | new {a : String} (kind : r.kind = .address) (filter : r.filter = some a) (fresh : a ∉ s.addresses) :
      Added s r ⟨insertNew .address s.kinds, s.addresses ++ [a]⟩

theorem added {s s' : Subscriptions} {r : SubscriptionRequest} {b : Bool} (h : s.subscribe r = .ok (s', b)) :
    Added s r s' := by
  unfold subscribe at h
  by_cases hk : (!r.kind.isSubscribable) = true
  · simp [hk] at h
  rw [if_neg hk] at h
  by_cases hf : (!r.kind.requiresFilter) = true
  · rw [if_pos hf] at h
    cases h
    exact .ofKind (by simpa using hf)
  · have hkind : r.kind = .address := by simpa [EventKind.requiresFilter] using hf
    rw [if_neg hf] at h
    split at h
    · cases h
    · rename_i a ha
      split_ifs at h with hm
      · cases h
        exact .known hkind (filterAddress_ok ha).1 hm
      · cases h
        rw [hkind]
        exact .new hkind (filterAddress_ok ha).1 hm

/-- what a granted unsubscription is -/
inductive Removed (s : Subscriptions) (r : SubscriptionRequest) : Subscriptions → Prop
  | ofKind (plain : r.kind.requiresFilter = false) : Removed s r { s with kinds := s.kinds.erase r.kind }
  | ofAddress {a : String} (kind : r.kind = .address) (filter : r.filter = some a) :
      Removed s r ⟨if (s.addresses.erase a).isEmpty then s.kinds.erase .address else s.kinds,
        s.addresses.erase a⟩

theorem removed {s s' : Subscriptions} {r : SubscriptionRequest} {b : Bool}
    (h : s.unsubscribe r = .ok (s', b)) : Removed s r s' := by
  unfold unsubscribe at h
  split_ifs at h with hf
  · cases h
    exact .ofKind (by simpa using hf)
  · have hkind : r.kind = .address := by simpa [EventKind.requiresFilter] using hf
    split at h
    · cases h
    · rename_i a ha
      cases h
      rw [hkind]
      exact .ofAddress hkind (filterAddress_ok ha).1

theorem coherent_nil : Coherent {} := ⟨List.nodup_nil, List.nodup_nil, by simp [hasKind]⟩

section

variable {s s' : Subscriptions} {r : SubscriptionRequest} {b : Bool} (hs : s.Coherent)
include hs

theorem coherent_subscribe (h : s.subscribe r = .ok (s', b)) : s'.Coherent := by
  cases added h with
  | ofKind hp =>
    refine ⟨nodup_insertNew hs.kinds_nodup, hs.addresses_nodup, ?_⟩
    have hne : EventKind.address ≠ r.kind := fun he => by simp [← he, EventKind.requiresFilter] at hp
    rw [← hs.address]
    simp [hasKind, mem_insertNew, hne]
  | known => exact hs
  | @new a _ _ hm =>
    refine ⟨nodup_insertNew hs.kinds_nodup, ?_, by simp [hasKind, mem_insertNew]⟩
    refine List.nodup_append.2 ⟨hs.addresses_nodup, by simp, fun x hx y hy hxy => ?_⟩
    rw [List.mem_singleton] at hy
    exact hm (hy ▸ hxy ▸ hx)

theorem coherent_unsubscribe (h : s.unsubscribe r = .ok (s', b)) : s'.Coherent := by
  cases removed h with
  | ofKind hp =>
    refine ⟨hs.kinds_nodup.erase _, hs.addresses_nodup, ?_⟩
    have hne : EventKind.address ≠ r.kind := fun he => by simp [← he, EventKind.requiresFilter] at hp
    rw [← hs.address]
    simp [hasKind, List.mem_erase_of_ne hne]
  | @ofAddress a =>
    refine ⟨?_, hs.addresses_nodup.erase _, ?_⟩
    · split_ifs
      · exact hs.kinds_nodup.erase _
      · exact hs.kinds_nodup
    · by_cases he : s.addresses.erase a = []
      · simp [he, hasKind, hs.kinds_nodup.not_mem_erase]
      · have hne : s.addresses ≠ [] := fun hn => he (by simp [hn])
        simpa [he, hasKind, hne] using hs.address

theorem coherent_change (h : Change s s') : s'.Coherent := by
  cases h with
  | added h => exact coherent_subscribe hs h
  | removed h => exact coherent_unsubscribe hs h
  | cleared => exact coherent_nil

omit hs in
/-- **A granted subscription adds the target that it names.** -/
theorem subscribe_has (h : s.subscribe r = .ok (s', b)) (t : Target) :
    s'.has t = true ↔ t = r.target ∨ s.has t = true := by
  cases added h with
  | ofKind hp =>
    rw [target_ofKind hp]
    cases t with
    | kind k =>
      by_cases hk : k = r.kind
      · simp [has, hasKind, mem_insertNew, hk, hp]
      · simp [has, hasKind, mem_insertNew, hk]
    | address a => simp [has]
  | @known a hk hf hm =>
    rw [target_ofAddress hk hf]
    refine ⟨Or.inr, fun ht => ht.elim (fun he => ?_) fun hb => hb⟩
    simp [he, has, hm]
  | @new a hk hf hm =>
    rw [target_ofAddress hk hf]
    cases t with
    | kind k =>
      by_cases hka : k = .address
      · simp [has, EventKind.requiresFilter, hka]
      · simp [has, EventKind.requiresFilter, hka, hasKind, mem_insertNew]
    | address a' => simp [has, or_comm]

/-- **A granted unsubscription takes away the target that it names.** -/
theorem unsubscribe_has (h : s.unsubscribe r = .ok (s', b)) (t : Target) :
    s'.has t = true ↔ t ≠ r.target ∧ s.has t = true := by
  cases removed h with
  | ofKind hp =>
    rw [target_ofKind hp]
    cases t with
    | kind k =>
      by_cases hk : k = r.kind
      · simp [has, hasKind, hk, hs.kinds_nodup.not_mem_erase]
      · simp [has, hasKind, List.mem_erase_of_ne hk, hk]
    | address a => simp [has]
  | @ofAddress a hk hf =>
    rw [target_ofAddress hk hf]
    cases t with
    | kind k =>
      by_cases hka : k = .address
      · simp [has, EventKind.requiresFilter, hka]
      · simp only [has]
        split_ifs
        · simp [EventKind.requiresFilter, hka, hasKind, List.mem_erase_of_ne hka]
        · simp [EventKind.requiresFilter, hka, hasKind]
    | address a' =>
      by_cases ha : a' = a
      · simp [has, ha, hs.addresses_nodup.not_mem_erase]
      · simp [has, ha, List.mem_erase_of_ne ha]

/-- **Which events are for a client.** A well-formed event is for the client if and only if its target is
subscribed to: its address for an event about an address, its kind for any other. -/
theorem isSubscribed_eq {e : Event} (hv : e.isValid = true) : s.isSubscribed e = s.has e.target := by
  cases e with
  | address activity =>
    have ha : activity.isValid = true := by
      simp only [Event.isValid, Bool.and_eq_true] at hv
      exact hv.1
    rw [Bool.eq_iff_iff]
    simp only [isSubscribed, Event.kind, ha, Bool.true_and, Bool.and_eq_true, Event.target, has]
    refine ⟨fun h => h.2, fun h => ⟨hs.address.2 fun hn => ?_, h⟩⟩
    simp [hn] at h
  | _ => simp [isSubscribed, Event.kind, Event.target, has, EventKind.requiresFilter]

end

end Subscriptions

end ChainFeed
