import ServoLink.Proofs.Frame.Decode
import ServoLink.Receive.Scan

/-!
# Scanning a stream in two parts

A scan of a whole stream can be had in parts: scan what is there, put what
comes next behind the bytes left over, and go on (`Scan.run_append`). That rests
on `Frame.decode_append` alone – whatever was found before the cut is found
again with more bytes behind it.

Runs of garbage are counted across the cut as well: a run that is open at the
end of the first part goes on in the second (`Scan.countRuns_append`).
-/

namespace ServoLink

namespace Scan

variable {c : FrameConfig} {stream : Bytes}

/-- A scan with items in front of what it found. -/
def precededBy (s : Scan) (items : List ScanItem) : Scan :=
  { s with items := items ++ s.items }

@[simp] theorem precededBy_nil (s : Scan) : s.precededBy [] = s := rfl

theorem precededBy_precededBy (s : Scan) (front back : List ScanItem) :
    (s.precededBy back).precededBy front = s.precededBy (front ++ back) := by
  unfold precededBy
  rw [List.append_assoc]

@[simp] theorem items_precededBy (s : Scan) (items : List ScanItem) :
    (s.precededBy items).items = items ++ s.items := rfl

@[simp] theorem rest_precededBy (s : Scan) (items : List ScanItem) :
    (s.precededBy items).rest = s.rest := rfl

/-- The frame taken, if one was. -/
def frameOf? : ScanItem → Option Frame
  | .frame f => some f
  | .dropped => none

theorem frames_eq (s : Scan) : s.frames = s.items.filterMap frameOf? := rfl

/-! ## One step of a scan -/

/-- A scan stops where bytes are missing. -/
theorem run_of_none (hd : Frame.decode stream c = .ok none) :
    run c stream = { rest := stream } := by
  rw [run]
  split
  · rfl
  · rename_i hd'
    simp [hd] at hd'
  · rename_i hd'
    simp [hd] at hd'

/-- A scan takes the frame that starts here. -/
theorem run_of_frame {f : Frame} {n : Nat} (hd : Frame.decode stream c = .ok (some (f, n))) :
    run c stream = (run c (stream.drop n)).precededBy [.frame f] := by
  rw [run]
  split
  · rename_i hd'
    simp [hd] at hd'
  · rename_i g m hd'
    obtain ⟨rfl, rfl⟩ : f = g ∧ n = m := by simpa [hd] using hd'
    rfl
  · rename_i hd'
    simp [hd] at hd'

/-- A scan drops a byte where no frame starts. -/
theorem run_of_error {e : FrameError} (hd : Frame.decode stream c = .error e) :
    run c stream = (run c (stream.drop 1)).precededBy [.dropped] := by
  rw [run]
  split
  · rename_i hd'
    simp [hd] at hd'
  · rename_i hd'
    simp [hd] at hd'
  · rfl

/-- **Several bytes none of which starts a frame** are dropped one by one. -/
theorem run_of_errors {k : Nat}
    (hd : ∀ i < k, ∃ e, Frame.decode (stream.drop i) c = .error e) :
    run c stream = (run c (stream.drop k)).precededBy (List.replicate k .dropped) := by
  induction k with
  | zero => rfl
  | succ k ih =>
    obtain ⟨e, he⟩ := hd k (Nat.lt_succ_self k)
    rw [ih fun i hi => hd i (Nat.lt_succ_of_lt hi), run_of_error he, List.drop_drop,
      precededBy_precededBy, List.replicate_succ']

/-- **A stream may be scanned in parts.** The second part is put behind the
bytes that the first one left. -/
theorem run_append (c : FrameConfig) (front back : Bytes) :
    run c (front ++ back)
      = (run c ((run c front).rest ++ back)).precededBy (run c front).items := by
  -- on the scan of the first part: each of its steps is one of the whole scan
  induction front using run.induct c with
  | case1 front hd => rw [run_of_none hd]; rfl
  | case2 front f n hd ih =>
    have hle := (Frame.length_of_decode hd).2
    rw [run_of_frame hd, run_of_frame (Frame.decode_append_of_frame back hd),
      List.drop_append_of_le_length hle, ih, precededBy_precededBy]
    rfl
  | case3 front e hd ih =>
    have hle := List.length_pos_iff.2 (Frame.ne_nil_of_decode_error hd)
    rw [run_of_error hd, run_of_error (Frame.decode_append_of_error back hd),
      List.drop_append_of_le_length hle, ih, precededBy_precededBy]
    rfl

/-! ## Runs of garbage -/

/-- Whether a run of garbage is open behind a list of items. -/
def endsInGarbage : (inGarbage : Bool) → List ScanItem → Bool
  | inGarbage, [] => inGarbage
  | _, .frame _ :: items => endsInGarbage false items
  | _, .dropped :: items => endsInGarbage true items

theorem endsInGarbage_append (b : Bool) (front back : List ScanItem) :
    endsInGarbage b (front ++ back) = endsInGarbage (endsInGarbage b front) back := by
  induction front generalizing b with
  | nil => rfl
  | cons item front ih => cases item <;> exact ih _

/-- **Runs are counted across a cut**: one that is open there goes on. -/
theorem countRuns_append (b : Bool) (front back : List ScanItem) :
    countRuns b (front ++ back)
      = countRuns b front + countRuns (endsInGarbage b front) back := by
  induction front generalizing b with
  | nil => exact (Nat.zero_add _).symm
  | cons item front ih =>
    cases item with
    | frame f => cases b <;> exact ih false
    | dropped =>
      cases b with
      | true => exact ih true
      | false =>
        show countRuns true (front ++ back) + 1 = countRuns true front + 1 + _
        rw [ih, Nat.add_right_comm]
        rfl

/-- Dropped bytes in a row open at most one run. -/
theorem countRuns_replicate (b : Bool) {k : Nat} (hk : 0 < k) :
    countRuns b (List.replicate k .dropped) = if b then 0 else 1 := by
  have hopen : ∀ k, countRuns true (List.replicate k .dropped) = 0 := fun k => by
    induction k with
    | zero => rfl
    | succ k ih => exact ih
  obtain ⟨k, rfl⟩ := Nat.exists_eq_succ_of_ne_zero (Nat.ne_of_gt hk)
  cases b with
  | true => exact hopen (k + 1)
  | false =>
    show countRuns true (List.replicate k .dropped) + 1 = 1
    rw [hopen]

/-- Behind dropped bytes a run is open. -/
theorem endsInGarbage_replicate (b : Bool) {k : Nat} (hk : 0 < k) :
    endsInGarbage b (List.replicate k .dropped) = true := by
  obtain ⟨k, rfl⟩ := Nat.exists_eq_succ_of_ne_zero (Nat.ne_of_gt hk)
  show endsInGarbage true (List.replicate k .dropped) = true
  induction k with
  | zero => rfl
  | succ k ih => exact ih (Nat.succ_pos k)

end Scan

end ServoLink
