/-!
# Link counters

Every counter of a link only grows, and stays at its largest value when it
gets there.
-/

namespace ServoLink

/-- A count that stops at `2^64 - 1`. -/
structure Counter where
  /-- The count. -/
  val : Nat
  /-- The count has 64 bits. -/
  val_le : val ≤ 0xFFFFFFFFFFFFFFFF := by decide
  deriving DecidableEq

namespace Counter

/-- The largest count. -/
def limit : Nat := 0xFFFFFFFFFFFFFFFF

instance : OfNat Counter 0 := ⟨{ val := 0 }⟩

instance : Inhabited Counter := ⟨0⟩

/-- Count `more` more, up to the limit. -/
def bump (c : Counter) (more : Nat) : Counter where
  val := min (c.val + more) limit
  val_le := Nat.min_le_right _ _

@[simp] theorem val_zero : (0 : Counter).val = 0 := rfl

theorem val_bump (c : Counter) (n : Nat) : (c.bump n).val = min (c.val + n) limit := rfl

/-- Below the limit counting is addition. -/
theorem val_bump_of_le {c : Counter} {n : Nat} (h : c.val + n ≤ limit) :
    (c.bump n).val = c.val + n :=
  Nat.min_eq_left h

/-- Below the limit the count is what was counted. -/
theorem val_bump_zero {n : Nat} (h : n ≤ limit) : (bump 0 n).val = n := by
  rw [val_bump_of_le (by rwa [val_zero, Nat.zero_add]), val_zero, Nat.zero_add]

theorem ext_val {c d : Counter} (h : c.val = d.val) : c = d := by
  cases c
  cases d
  congr

/-- Counting nothing changes nothing. -/
@[simp] theorem bump_zero (c : Counter) : c.bump 0 = c :=
  ext_val (val_bump_of_le c.val_le)

/-- Counting in two steps is counting at once. -/
theorem bump_bump (c : Counter) (a b : Nat) : (c.bump a).bump b = c.bump (a + b) := by
  refine ext_val ?_
  show min (min (c.val + a) limit + b) limit = min (c.val + (a + b)) limit
  omega

/-- A counter never falls. -/
theorem val_le_val_bump (c : Counter) (n : Nat) : c.val ≤ (c.bump n).val :=
  Nat.le_min.2 ⟨Nat.le_add_right _ _, c.val_le⟩

end Counter

/-- The counters of a link. -/
structure Counters where
  /-- Frames delivered, read requests included. -/
  success : Counter := 0
  /-- Runs of bytes that belong to no frame. -/
  transportErrors : Counter := 0
  /-- Intact frames that could not be delivered. -/
  decodeErrors : Counter := 0
  /-- Sequence numbers skipped between frames received. -/
  sequenceGaps : Counter := 0
  /-- Bytes taken into the receive buffer. -/
  bytesReceived : Counter := 0
  /-- Bytes handed out for sending. -/
  bytesDrained : Counter := 0
  /-- Frames taken into the send queue. -/
  framesEnqueued : Counter := 0
  /-- Frames refused by the send queue or the payload limit. -/
  enqueueRejected : Counter := 0
  /-- Pushes refused by the receive buffer. -/
  receiveOverflow : Counter := 0
  deriving DecidableEq, Inhabited

/-- All errors seen on the receive side. -/
def Counters.totalErrors (s : Counters) : Counter :=
  (s.transportErrors.bump s.decodeErrors.val).bump s.receiveOverflow.val

end ServoLink
