import Mathlib.Algebra.GroupWithZero.Nat
import ServoLink.Proofs.Frame.Canonical
import ServoLink.Proofs.Receive.Reading

/-!
# Where the bytes of a buffer go

Every byte that leaves the receive buffer is reported: it was a byte of a frame
that was taken, or it was dropped. So the bytes of the buffer are those that some
polls take and those that they leave, and none is reported twice
(`Synchronizer.Yields`). A run of garbage ends with a frame, so there can be at
most one run more than there are frames.
-/

namespace ServoLink

namespace Synchronizer

variable {s s' s'' : Synchronizer} {front back : List SyncEvent}

/-- The number of bytes that the reports take from the buffer. -/
def consumed (events : List SyncEvent) : Nat :=
  ((frames events).map Frame.wireSize).sum + dropped events

theorem dropped_append (front back : List SyncEvent) :
    dropped (front ++ back) = dropped front + dropped back := by
  induction front with
  | nil => exact (Nat.zero_add _).symm
  | cons event front ih =>
    show event.dropped + dropped (front ++ back) = event.dropped + dropped front + dropped back
    rw [ih, Nat.add_assoc]

theorem consumed_append (front back : List SyncEvent) :
    consumed (front ++ back) = consumed front + consumed back := by
  unfold consumed
  rw [frames_append, dropped_append, List.map_append, List.sum_append]
  omega

/-- Every frame has a header. -/
theorem headerSize_mul_le (events : List SyncEvent) :
    headerSize * (frames events).length ≤ ((frames events).map Frame.wireSize).sum := by
  induction frames events with
  | nil => exact Nat.le_refl 0
  | cons f frames ih =>
    rw [List.length_cons, List.map_cons, List.sum_cons, Nat.mul_succ, Nat.add_comm]
    exact Nat.add_le_add (Nat.le_add_right _ _) ih

/-- The number of runs of garbage that can begin before the next frame ends. -/
def closedRuns (s : Synchronizer) : Nat :=
  if s.inGarbage then 0 else 1

/-- **What some polls make of a buffer**: its bytes are those that were taken and
those that are left, and each run of garbage begun is the first or has a frame in
front of it. -/
structure Yields (s : Synchronizer) (events : List SyncEvent) (s' : Synchronizer) : Prop where
  aligned : s'.Aligned
  buffered : s.buffered = consumed events + s'.buffered
  runs : newRuns events + s'.closedRuns ≤ (frames events).length + s.closedRuns

/-- Reports that follow each other. -/
theorem Yields.append (h : Yields s front s') (h' : Yields s' back s'') :
    Yields s (front ++ back) s'' := by
  obtain ⟨-, hbuffered, hruns⟩ := h
  obtain ⟨haligned, hbuffered', hruns'⟩ := h'
  refine ⟨haligned, ?_, ?_⟩
  · rw [consumed_append]
    omega
  · rw [newRuns_append, frames_append, List.length_append]
    omega

/-- Bytes none of which starts a frame are bytes of the buffer. -/
theorem le_buffered_of_errors {k : Nat} (hk : 0 < k)
    (hd : ∀ i < k, ∃ e, Frame.decode (s.buffer.drop i) s.config = .error e) :
    k ≤ s.buffered := by
  obtain ⟨e, hlast⟩ := hd (k - 1) (by omega)
  have hleft := List.length_pos_iff.2 (Frame.ne_nil_of_decode_error hlast)
  rw [List.length_drop] at hleft
  unfold buffered
  omega

/-- **A step reports the bytes it takes.** -/
theorem Step.yields {e : Option SyncEvent} (h : Step s e s') : Yields s e.toList s' := by
  refine ⟨h.aligned, ?_, ?_⟩
  · cases h with
    | wait state hd ha => exact (Nat.zero_add _).symm
    | @take f n hd =>
      obtain ⟨hn, hle, -⟩ := Frame.extent_of_decode hd
      show s.buffer.length = f.wireSize + 0 + 0 + (s.buffer.drop n).length
      rw [List.length_drop]
      unfold Frame.wireSize
      omega
    | @drop k reason next hk hd ha =>
      have hle := le_buffered_of_errors hk hd
      show s.buffered = 0 + (k + 0) + (s.buffer.drop k).length
      rw [List.length_drop]
      unfold buffered at *
      omega
  · cases h with
    | wait state hd ha => exact Nat.le_refl _
    | take hd => exact Nat.le_add_right _ _
    | drop hk hd ha =>
      unfold closedRuns newRuns discard
      cases hgarbage : s.inGarbage
      · exact Nat.le_refl 1
      · exact Nat.le_refl 0

/-- **Polling to the end reports every byte it takes.** -/
theorem Aligned.yields_pollAll (h : s.Aligned) : Yields s s.pollAll.1 s.pollAll.2 := by
  induction s using pollAll.induct with
  | case1 s s' hp =>
    have hstep := (poll_step h).yields
    rw [hp] at hstep
    rw [pollAll_of_none hp]
    exact hstep
  | case2 s e s' hp _ _ _ ih =>
    have hstep := (poll_step h).yields
    rw [hp] at hstep
    rw [pollAll_of_some hp]
    exact hstep.append (ih hstep.aligned)

end Synchronizer

end ServoLink
