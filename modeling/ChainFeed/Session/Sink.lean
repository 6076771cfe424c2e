/-
The writing end of a connection.
-/
import ChainFeed.Feed.Message

namespace ChainFeed

/-- what closing a sink does -/
inductive SinkClosing where
  | completes
  | fails
  | hangs
deriving DecidableEq, Repr

/-- the writing end of a connection, with the frames that its peer has not read yet -/
structure Sink where
  /-- the unread frames at which it blocks, if there is a limit -/
  capacity : Option Nat := none
  /-- oldest first -/
  unread : List Message := []
  /-- whether every write fails -/
  failing : Bool := false
  closing : SinkClosing := .completes
deriving DecidableEq

namespace Sink

/-- whether a frame can be written now -/
def hasRoom (s : Sink) : Bool :=
  s.capacity.all fun n => s.unread.length < n

/-- writes a frame -/
def write (s : Sink) (m : Message) : Sink :=
  { s with unread := s.unread ++ [m] }

/-- the peer reads frames, all or some number of them at most -/
def read (s : Sink) (most : Option Nat) : List Message × Sink :=
  let n := most.getD s.unread.length
  (s.unread.take n, { s with unread := s.unread.drop n })

end Sink

end ChainFeed
