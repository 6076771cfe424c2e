/-
The transactions that wait to be pushed to one client.
-/
import ChainFeed.Chain.Mempool

namespace ChainFeed

/-- waiting transactions, oldest first; the buffer is due once it holds `capacity` of them -/
structure TxBuffer where
  capacity : Nat
  txs : List Transaction := []
deriving DecidableEq

namespace TxBuffer

/-- the capacity when none is given -/
def defaultCapacity : Nat := 5

/-- the greatest capacity: at 88 bytes for a transaction, more of them take `2 ^ 63` bytes or more -/
def maxCapacity : Nat := 104811045873349725

/-- an empty buffer; a capacity of zero counts as one -/
def create (capacity : Nat) : Except Overflow TxBuffer :=
  if maxCapacity < capacity then .error .buffer else .ok { capacity := max capacity 1 }

/-- whether enough transactions wait -/
def isDue (b : TxBuffer) : Bool :=
  b.capacity ≤ b.txs.length

/-- adds a transaction -/
def append (b : TxBuffer) (tx : Transaction) : TxBuffer :=
  { b with txs := b.txs ++ [tx] }

/-- takes all transactions out -/
def drain (b : TxBuffer) : List Transaction × TxBuffer :=
  (b.txs, { b with txs := [] })

end TxBuffer

end ChainFeed
