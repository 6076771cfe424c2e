/-
The texts that ask for a subscription.

A kind as a whole is asked for by its name, one address by `address:` and the address. Main statements:
- `parse_ofAddress`, `parse_ofKind`: what is read from either form, and `parse_text` for both.
- `Read`, `read`: what reading a text comes to.
- `subscribe_of_isValid`: a valid request is granted unless it is one address too many.
- `grammar_exact`: which texts are read, what the requests read from them are like, that writing and reading are inverse
  to each other, and why each other text is refused.
-/
import ChainFeed.Proofs.Feed.TargetSet

namespace ChainFeed

theorem isAddress_iff {a : String} : isAddress a = true ↔ a ≠ "" ∧ ∀ c ∈ a.toList, isBlank c = false := by
  simp [isAddress]

theorem EventKind.ofName?_eq_some_iff {s : String} {k : EventKind} : ofName? s = some k ↔ k.name = s := by
  constructor
  · intro h
    simpa using List.find?_some h
  · rintro rfl
    exact ofName?_name k

namespace SubscriptionRequest

variable {s : String} {r : SubscriptionRequest}

/-! ## Reading the two forms -/

theorem text_ofAddress (a : String) : (ofAddress a).text = "address:" ++ a := by
  have htext : (ofAddress a).text = String.ofList (addressPrefix ++ a.toList) := rfl
  rw [htext, ← String.toList_inj, String.toList_ofList, String.toList_append]
  rfl

theorem isPrefixOf_iff : addressPrefix.isPrefixOf s.toList = true ↔ ∃ a, s = "address:" ++ a := by
  rw [List.isPrefixOf_iff_prefix]
  constructor
  · rintro ⟨cs, hcs⟩
    refine ⟨String.ofList cs, ?_⟩
    calc s = String.ofList s.toList := String.ofList_toList.symm
      _ = String.ofList (addressPrefix ++ cs) := by rw [hcs]
      _ = "address:" ++ String.ofList cs := String.ofList_append
  · rintro ⟨a, rfl⟩
    exact ⟨a.toList, (String.toList_append ..).symm⟩

theorem parse_ofAddress (a : String) : parse ("address:" ++ a) =
    if isAddress a then .ok (ofAddress a) else .error (.malformedFilter "address") := by
  have hrest : String.ofList (("address:" ++ a).toList.drop addressPrefix.length) = a := by
    rw [String.toList_append]
    exact String.ofList_toList
  have hvalid : (ofAddress a).isValid = isAddress a := by
    simp [isValid, ofAddress, EventKind.isSubscribable, EventKind.requiresFilter]
  unfold parse
  rw [if_pos (isPrefixOf_iff.2 ⟨a, rfl⟩)]
  simp only [hrest, hvalid]
  rfl

/-- what is read from a text without the start of a request for an address -/
theorem parse_of_ne (hs : ∀ a, s ≠ "address:" ++ a) : parse s =
    ((EventKind.ofName? s).filter EventKind.isSubscribable).elim (.error (.invalidSubscription s)) fun kind =>
      if kind.requiresFilter then .error (.malformedFilter kind.name) else .ok (ofKind kind) := by
  have hp : ¬addressPrefix.isPrefixOf s.toList = true := by
    rw [isPrefixOf_iff]
    exact not_exists.2 hs
  unfold parse
  rw [if_neg hp]
  cases (EventKind.ofName? s).filter EventKind.isSubscribable with
  | none => rfl
  | some kind => rfl

/-- no kind is called as a request for an address begins -/
theorem name_ne (k : EventKind) (a : String) : k.name ≠ "address:" ++ a := by
  intro h
  have hp : addressPrefix.isPrefixOf k.name.toList = true := isPrefixOf_iff.2 ⟨a, h⟩
  cases k <;> revert hp <;> decide

theorem parse_ofKind (k : EventKind) : parse k.name =
    if !k.isSubscribable then .error (.invalidSubscription k.name)
    else if k.requiresFilter then .error (.malformedFilter k.name) else .ok (ofKind k) := by
  rw [parse_of_ne (name_ne k), EventKind.ofName?_name]
  cases hk : k.isSubscribable <;> simp [hk, Option.filter_some]

/-- **A request that is valid is read back from its text**, if it is for a kind as a whole or for one address. -/
theorem parse_text (hr : r = ofKind r.kind ∨ ∃ a, r = ofAddress a) (hv : r.isValid = true) :
    parse r.text = .ok r := by
  rcases hr with hr | ⟨a, rfl⟩
  · rw [hr] at hv ⊢
    obtain ⟨hsub, hplain⟩ : r.kind.isSubscribable = true ∧ r.kind.requiresFilter = false := by
      simpa [isValid, ofKind] using hv
    have htext : (ofKind r.kind).text = r.kind.name := rfl
    rw [htext, parse_ofKind]
    simp [hsub, hplain]
  · have ha : isAddress a = true := by
      simpa [isValid, ofAddress, EventKind.isSubscribable, EventKind.requiresFilter] using hv
    rw [text_ofAddress, parse_ofAddress, if_pos ha]

/-! ## What was read -/

/-- the request that a text asks for: a kind without a filter by its name, or an address -/
inductive Read : String → SubscriptionRequest → Prop
  | ofKind {k : EventKind} (subscribable : k.isSubscribable = true) (plain : k.requiresFilter = false) :
      Read k.name (ofKind k)
  | ofAddress {a : String} (address : isAddress a = true) : Read ("address:" ++ a) (ofAddress a)

/-- what reading a text comes to -/
theorem read (s : String) : (∃ r, parse s = .ok r ∧ Read s r) ∨
    parse s = .error (.malformedFilter "address") ∧ (s = "address" ∨ ∃ a, s = "address:" ++ a) ∨
    parse s = .error (.invalidSubscription s) ∧ s ≠ "address" ∧ ∀ a, s ≠ "address:" ++ a := by
  by_cases hp : ∃ a, s = "address:" ++ a
  · obtain ⟨a, rfl⟩ := hp
    rw [parse_ofAddress]
    by_cases ha : isAddress a = true
    · rw [if_pos ha]
      exact Or.inl ⟨_, rfl, .ofAddress ha⟩
    · rw [if_neg ha]
      exact Or.inr (Or.inl ⟨rfl, Or.inr ⟨a, rfl⟩⟩)
  have hne : ∀ a, s ≠ "address:" ++ a := not_exists.1 hp
  by_cases hname : ∃ k : EventKind, k.name = s
  · obtain ⟨k, rfl⟩ := hname
    rw [parse_ofKind]
    cases hsub : k.isSubscribable with
    | false =>
      refine Or.inr (Or.inr ⟨rfl, ?_, hne⟩)
      cases k <;> revert hsub <;> decide
    | true =>
      cases hplain : k.requiresFilter with
      | false => exact Or.inl ⟨_, rfl, .ofKind hsub hplain⟩
      | true =>
        have hk : k = .address := by simpa [EventKind.requiresFilter] using hplain
        subst hk
        exact Or.inr (Or.inl ⟨rfl, Or.inl rfl⟩)
  · have hnone : EventKind.ofName? s = none := by
      cases ho : EventKind.ofName? s with
      | none => rfl
      | some k => exact absurd ⟨k, EventKind.ofName?_eq_some_iff.1 ho⟩ hname
    refine Or.inr (Or.inr ⟨?_, ?_, hne⟩)
    · rw [parse_of_ne hne, hnone]
      rfl
    · rintro rfl
      exact hname ⟨.address, rfl⟩

theorem read_of_parse (h : parse s = .ok r) : Read s r := by
  rcases read s with ⟨r', hr', hread⟩ | ⟨herror, -⟩ | ⟨herror, -⟩
  · rw [hr'] at h
    cases h
    exact hread
  · rw [herror] at h
    cases h
  · rw [herror] at h
    cases h

theorem Read.valid (h : Read s r) : r.isValid = true := by
  cases h with
  | ofKind subscribable plain => simp [isValid, SubscriptionRequest.ofKind, subscribable, plain]
  | ofAddress address =>
    simp [isValid, SubscriptionRequest.ofAddress, EventKind.isSubscribable, address]

theorem Read.text_eq (h : Read s r) : r.text = s := by
  cases h with
  | ofKind => rfl
  | @ofAddress a => exact text_ofAddress a

/-- a valid request names a target -/
theorem named_of_isValid (hv : r.isValid = true) : r.kind.isSubscribable = true ∧ ∃ t, r.named = .ok t := by
  obtain ⟨hsub, hfilter⟩ : r.kind.isSubscribable = true ∧
      (!r.kind.requiresFilter || r.filter.any isAddress) = true := by
    simpa only [isValid, Bool.and_eq_true] using hv
  refine ⟨hsub, r.target, ?_⟩
  unfold named
  rw [if_neg]
  rw [Bool.or_eq_true, Bool.not_eq_true'] at hfilter
  rcases hfilter with hplain | hany
  · simp [hplain]
  · simp [hany]

/-- a valid subscription is granted, unless it is one address too many -/
theorem subscribe_of_isValid (hv : r.isValid = true) (subscriptions : Subscriptions) :
    (∃ granted, subscriptions.subscribe r = .ok granted) ∨
      subscriptions.subscribe r = .error (.subscriptionLimit Subscriptions.addressLimit) := by
  obtain ⟨hsub, t, ht⟩ := named_of_isValid hv
  have hs := Subscriptions.subscribed subscriptions r
  generalize subscriptions.subscribe r = result at hs
  cases hs with
  | unknown closed => cases hsub.symm.trans closed
  | malformed _ named => cases ht.symm.trans named
  | full => exact Or.inr rfl
  | ofKind | known | new => exact Or.inl ⟨_, rfl⟩

/-- a valid unsubscription is granted -/
theorem unsubscribe_of_isValid (hv : r.isValid = true) (subscriptions : Subscriptions) :
    ∃ granted, subscriptions.unsubscribe r = .ok granted := by
  obtain ⟨-, t, ht⟩ := named_of_isValid hv
  have hs := Subscriptions.unsubscribed subscriptions r
  generalize subscriptions.unsubscribe r = result at hs
  cases hs with
  | malformed named => cases ht.symm.trans named
  | ofKind | ofAddress => exact ⟨_, rfl⟩

/-! ## The grammar -/

/-- the texts of the grammar: five names, and `address:` before a text that is not empty and has nothing blank in it,
whatever else it holds -/
def Asks (s : String) : Prop :=
  s ∈ ["newblock", "newtxs", "mempool", "ping", "syncstatus"] ∨
    ∃ a, s = "address:" ++ a ∧ a ≠ "" ∧ ∀ c ∈ a.toList, isBlank c = false

theorem Read.asks (h : Read s r) : Asks s := by
  cases h with
  | @ofKind k subscribable plain =>
    refine Or.inl ?_
    cases k <;> revert subscribable plain <;> decide
  | @ofAddress a address => exact Or.inr ⟨a, rfl, isAddress_iff.1 address⟩

theorem read_of_asks (h : Asks s) : ∃ r, parse s = .ok r := by
  have hkind : ∀ k : EventKind, k.isSubscribable = true → k.requiresFilter = false → ∃ r, parse k.name = .ok r := by
    intro k hsub hplain
    exact ⟨ofKind k, parse_text (Or.inl rfl) (Read.ofKind hsub hplain).valid⟩
  rcases h with hs | ⟨a, rfl, ha⟩
  · simp only [List.mem_cons, List.not_mem_nil, or_false] at hs
    rcases hs with rfl | rfl | rfl | rfl | rfl
    · exact hkind .newBlock rfl rfl
    · exact hkind .newTxs rfl rfl
    · exact hkind .mempool rfl rfl
    · exact hkind .ping rfl rfl
    · exact hkind .syncStatus rfl rfl
  · exact ⟨ofAddress a, by rw [parse_ofAddress, if_pos (isAddress_iff.2 ha)]⟩

/-- what is known of the requests that a text can stand for -/
structure Exact (s : String) : Prop where
  /-- a text is read if and only if it is one of the grammar -/
  accepted : (∃ r, parse s = .ok r) ↔ Asks s
  valid : ∀ r, parse s = .ok r → r.isValid = true
  /-- the text of a request that was read is the one that it was read from -/
  written : ∀ r, parse s = .ok r → r.text = s
  /-- nothing but the limit of watched addresses stands in the way of a request that was read -/
  subscribed : ∀ r, parse s = .ok r → ∀ subscriptions : Subscriptions,
    (∃ granted, subscriptions.subscribe r = .ok granted) ∨
      subscriptions.subscribe r = .error (.subscriptionLimit Subscriptions.addressLimit)
  unsubscribed : ∀ r, parse s = .ok r → ∀ subscriptions : Subscriptions,
    ∃ granted, subscriptions.unsubscribe r = .ok granted
  /-- and a valid request for a kind or an address is read from its text -/
  reread : ∀ r : SubscriptionRequest, ((∃ k, r = ofKind k) ∨ ∃ a, r = ofAddress a) → r.isValid = true → r.text = s →
    parse s = .ok r
  /-- a text is refused for its filter if it begins like a request for an address, or names that kind alone -/
  malformed : ∀ e, parse s = .error e →
    ((∃ kind, e = .malformedFilter kind) ↔ s = "address" ∨ ∃ rest, s = "address:" ++ rest)
  /-- and for itself if not -/
  invalid : ∀ e, parse s = .error e → (∀ kind, e ≠ .malformedFilter kind) → e = .invalidSubscription s

/-- **Texts and requests for subscriptions.** The texts that are read are those of the grammar; each is the text of the
request that is read from it, and every valid request is read from its text. Such a request is granted unless it is one
address too many. A text that is not read is refused for its filter, or for itself. -/
theorem grammar_exact (s : String) : Exact s where
  accepted := ⟨fun ⟨_, hr⟩ => (read_of_parse hr).asks, read_of_asks⟩
  valid _ hr := (read_of_parse hr).valid
  written _ hr := (read_of_parse hr).text_eq
  subscribed _ hr := subscribe_of_isValid (read_of_parse hr).valid
  unsubscribed _ hr := unsubscribe_of_isValid (read_of_parse hr).valid
  reread r hr hv hs := by
    rw [← hs]
    refine parse_text (hr.imp_left ?_) hv
    rintro ⟨k, rfl⟩
    rfl
  malformed e he := by
    rcases read s with ⟨r, hr, -⟩ | ⟨herror, hs⟩ | ⟨herror, hname, hne⟩
    · cases hr.symm.trans he
    · cases herror.symm.trans he
      exact iff_of_true ⟨_, rfl⟩ hs
    · cases herror.symm.trans he
      exact iff_of_false (by simp) (by simp [hname, hne])
  invalid e he hnot := by
    rcases read s with ⟨r, hr, -⟩ | ⟨herror, -⟩ | ⟨herror, -⟩
    · cases hr.symm.trans he
    · cases herror.symm.trans he
      exact absurd rfl (hnot _)
    · exact (Except.error.inj (herror.symm.trans he)).symm

/-- what follows the first `address:` is the address, even if it looks like a request itself -/
example : parse "address:address:a" = .ok (ofAddress "address:a") := by decide

end SubscriptionRequest

end ChainFeed
