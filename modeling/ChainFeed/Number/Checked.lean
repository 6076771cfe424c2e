/-
Whole-number arithmetic that stops when a result leaves its fixed-width range, and sizes of queues and
buffers, which are limited as well.
-/
namespace ChainFeed

/-- what left its range: the result of an operation, or a size that is asked for -/
inductive Overflow where
  | add
  | multiply
  /-- a buffer that no memory can hold -/
  | buffer
  /-- a queue with too many places -/
  | places
  /-- a queue without places -/
  | noPlace
  /-- a time after the last one that can be told -/
  | time
deriving DecidableEq, Repr

/-- what is reported of an overflow -/
def Overflow.message : Overflow → String
  | .add => "attempt to add with overflow"
  | .multiply => "attempt to multiply with overflow"
  | .buffer => "capacity overflow"
  | .places => "a semaphore may not have more than MAX_PERMITS permits (2305843009213693951)"
  | .noPlace => "mpsc bounded channel requires buffer > 0"
  | .time => "overflow when adding duration to instant"

/-- the sum of two 32-bit numbers -/
def addUInt32 (a b : UInt32) : Except Overflow UInt32 :=
  if a.toNat + b.toNat < UInt32.size then .ok (a + b) else .error .add

/-- the sum of two 64-bit numbers -/
def addUInt64 (a b : UInt64) : Except Overflow UInt64 :=
  if a.toNat + b.toNat < UInt64.size then .ok (a + b) else .error .add

/-- the product of two 64-bit numbers -/
def mulUInt64 (a b : UInt64) : Except Overflow UInt64 :=
  if a.toNat * b.toNat < UInt64.size then .ok (a * b) else .error .multiply

/-- whether a whole number is a signed 64-bit number -/
def fitsInt64 (i : Int) : Bool :=
  Int64.minValue.toInt ≤ i && i ≤ Int64.maxValue.toInt

/-- the sum of two signed 64-bit numbers -/
def addInt64 (a b : Int64) : Except Overflow Int64 :=
  if fitsInt64 (a.toInt + b.toInt) then .ok (a + b) else .error .add

/-- the number of places of a queue, if a queue can have that many -/
def queuePlaces (n : Nat) : Except Overflow Nat :=
  if n = 0 then .error .noPlace
  else if 2305843009213693951 < n then .error .places
  else .ok n

theorem addUInt64_ok_iff {a b c : UInt64} :
    addUInt64 a b = .ok c ↔ a.toNat + b.toNat = c.toNat := by
  unfold addUInt64
  split
  · rename_i h
    constructor
    · intro e
      cases e
      rw [UInt64.toNat_add]
      exact (Nat.mod_eq_of_lt h).symm
    · intro e
      congr 1
      apply UInt64.toNat_inj.1
      simp [UInt64.toNat_add, e]
  · rename_i h
    constructor
    · simp
    · intro e
      exact absurd c.toNat_lt_size (by omega)

end ChainFeed
