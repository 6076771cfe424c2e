/-
Looking up the clients of a hub after some of them were changed.

- `client?_modifyClient`, `client?_modifyClients`: a change shows at the changed clients and nowhere else.
- `modifyClient_frame`, `modifyClients_frame`: nothing but the clients changes.
- `view_modifyClient`, `view_modifyClients`: what a change respects stays as it is for every client.
- `eq_of_client?`: a hub is told by its clients' lookups and its other fields.
-/
import Mathlib.Data.List.Basic
import ChainFeed.Hub.Loop

namespace ChainFeed.Hub

theorem client?_isSome_iff (h : Hub) (id : Nat) :
    (h.client? id).isSome ↔ 0 < id ∧ id ≤ h.clients.length := by
  unfold client?
  split_ifs with h0
  · simp [h0]
  · rw [isSome_getElem?]
    have h0 : id ≠ 0 := h0
    omega

theorem client?_eq_none_of_lt (h : Hub) {id : Nat} (hid : h.clients.length < id) :
    h.client? id = none := by
  unfold client?
  split_ifs
  · rfl
  · exact List.getElem?_eq_none (by omega)

/-- a hub is told by what its clients are and by its other fields -/
theorem eq_of_client? {h k : Hub} (hc : ∀ id, h.client? id = k.client? id)
    (hf : h = { k with clients := h.clients }) : h = k := by
  have hl : h.clients = k.clients := by
    apply List.ext_getElem?
    intro i
    simpa [client?] using hc (i + 1)
  rw [hf, hl]

/-! ## One client -/

theorem client?_modifyClient (h : Hub) (id : Nat) (f : Client → Client) (j : Nat) :
    (h.modifyClient id f).client? j = if j = id then (h.client? j).map f else h.client? j := by
  by_cases h0 : id = 0
  · subst h0
    by_cases hj : j = 0
    · simp [hj, client?]
    · simp [hj, modifyClient]
  · by_cases hj : j = 0
    · simp [hj, client?, Ne.symm h0]
    · simp only [modifyClient, h0, if_false, client?, hj, List.getElem?_modify]
      by_cases hji : j = id
      · simp [hji]
      · have hne : id - 1 ≠ j - 1 := fun he => hji (by omega)
        simp [hji, hne]

@[simp] theorem modifyClient_frame (h : Hub) (id : ClientId) (f : Client → Client) :
    (h.modifyClient id f).config = h.config ∧ (h.modifyClient id f).phase = h.phase ∧
    (h.modifyClient id f).shutdown = h.shutdown ∧ (h.modifyClient id f).ready = h.ready ∧
    (h.modifyClient id f).held = h.held ∧ (h.modifyClient id f).clients.length = h.clients.length ∧
    (h.modifyClient id f).registry = h.registry ∧ (h.modifyClient id f).connections = h.connections ∧
    (h.modifyClient id f).registrations = h.registrations ∧
    (h.modifyClient id f).unregistrations = h.unregistrations ∧
    (h.modifyClient id f).relay = h.relay ∧ (h.modifyClient id f).ticker = h.ticker ∧
    (h.modifyClient id f).heartbeat = h.heartbeat ∧ (h.modifyClient id f).producers = h.producers ∧
    (h.modifyClient id f).totals = h.totals := by
  unfold modifyClient
  split_ifs <;> simp

@[simp] theorem isOpen_modifyClient (h : Hub) (id : ClientId) (f : Client → Client) :
    (h.modifyClient id f).isOpen = h.isOpen := by
  simp [isOpen]

theorem modifyClient_eq (h : Hub) (id : ClientId) (f : Client → Client) :
    h.modifyClient id f = { h with clients := (h.modifyClient id f).clients } := by
  unfold modifyClient
  split_ifs <;> rfl

/-- what a change does to other clients than the one it is about does not matter -/
theorem modifyClient_congr {h : Hub} {id : ClientId} {f g : Client → Client}
    (hfg : ∀ c, h.client? id = some c → f c = g c) : h.modifyClient id f = h.modifyClient id g := by
  apply eq_of_client?
  · intro j
    rw [client?_modifyClient, client?_modifyClient]
    split_ifs with hj
    · subst hj
      cases hc : h.client? j with
      | none => rfl
      | some c => simp [hfg c hc]
    · rfl
  · rw [modifyClient_eq h id f, modifyClient_eq h id g]

theorem modifyClient_self {h : Hub} {id : ClientId} {f : Client → Client}
    (hf : ∀ c, h.client? id = some c → f c = c) : h.modifyClient id f = h := by
  apply eq_of_client?
  · intro j
    rw [client?_modifyClient]
    split_ifs with hj
    · subst hj
      cases hc : h.client? j with
      | none => rfl
      | some c => simp [hf c hc]
    · rfl
  · exact modifyClient_eq h id f

/-- a change shows in no view of the clients that it respects -/
theorem view_modifyClient {α : Type} (view : Client → α) (h : Hub) (j : ClientId) {f : Client → Client}
    (hf : ∀ c, view (f c) = view c) (id : ClientId) :
    ((h.modifyClient j f).client? id).map view = (h.client? id).map view := by
  rw [client?_modifyClient]
  split_ifs <;> simp [Function.comp_def, hf]

/-! ## Several clients -/

/-- changes several clients in the same way -/
def modifyClients (h : Hub) (ids : List ClientId) (f : Client → Client) : Hub :=
  ids.foldl (fun h id => h.modifyClient id f) h

@[simp] theorem modifyClients_nil (h : Hub) (f : Client → Client) : h.modifyClients [] f = h := rfl

@[simp] theorem modifyClients_cons (h : Hub) (id : ClientId) (ids : List ClientId) (f : Client → Client) :
    h.modifyClients (id :: ids) f = (h.modifyClient id f).modifyClients ids f := rfl

theorem client?_modifyClients (h : Hub) {ids : List ClientId} (hn : ids.Nodup) (f : Client → Client)
    (j : ClientId) :
    (h.modifyClients ids f).client? j = if j ∈ ids then (h.client? j).map f else h.client? j := by
  induction ids generalizing h with
  | nil => simp
  | cons id ids ih =>
    obtain ⟨hid, hn⟩ := List.nodup_cons.1 hn
    rw [modifyClients_cons, ih _ hn, client?_modifyClient]
    by_cases hj : j = id
    · subst hj
      simp [hid]
    · simp [hj]

theorem view_modifyClients {α : Type} {view : Client → α} (h : Hub) (ids : List ClientId) {f : Client → Client}
    (hf : ∀ c, view (f c) = view c) (id : ClientId) :
    ((h.modifyClients ids f).client? id).map view = (h.client? id).map view := by
  induction ids generalizing h with
  | nil => rfl
  | cons j ids ih => rw [modifyClients_cons, ih, view_modifyClient view h j hf]

@[simp] theorem modifyClients_frame (h : Hub) (ids : List ClientId) (f : Client → Client) :
    (h.modifyClients ids f).config = h.config ∧ (h.modifyClients ids f).phase = h.phase ∧
    (h.modifyClients ids f).shutdown = h.shutdown ∧ (h.modifyClients ids f).ready = h.ready ∧
    (h.modifyClients ids f).held = h.held ∧ (h.modifyClients ids f).clients.length = h.clients.length ∧
    (h.modifyClients ids f).registry = h.registry ∧
    (h.modifyClients ids f).connections = h.connections ∧
    (h.modifyClients ids f).registrations = h.registrations ∧
    (h.modifyClients ids f).unregistrations = h.unregistrations ∧
    (h.modifyClients ids f).relay = h.relay ∧ (h.modifyClients ids f).ticker = h.ticker ∧
    (h.modifyClients ids f).heartbeat = h.heartbeat ∧
    (h.modifyClients ids f).producers = h.producers ∧ (h.modifyClients ids f).totals = h.totals := by
  induction ids generalizing h with
  | nil => simp
  | cons id ids ih => simpa using ih (h.modifyClient id f)

theorem modifyClients_eq (h : Hub) (ids : List ClientId) (f : Client → Client) :
    h.modifyClients ids f = { h with clients := (h.modifyClients ids f).clients } := by
  induction ids generalizing h with
  | nil => rfl
  | cons id ids ih =>
    rw [modifyClients_cons, ih (h.modifyClient id f), modifyClient_eq h id f]

/-- the order in which clients are changed does not matter -/
theorem modifyClients_perm (h : Hub) {ids ids' : List ClientId} (hp : ids.Perm ids') (hn : ids.Nodup)
    (f : Client → Client) : h.modifyClients ids f = h.modifyClients ids' f := by
  apply eq_of_client?
  · intro j
    rw [client?_modifyClients h hn, client?_modifyClients h (hp.nodup_iff.1 hn)]
    simp [hp.mem_iff]
  · rw [modifyClients_eq h ids f, modifyClients_eq h ids' f]

end ChainFeed.Hub
