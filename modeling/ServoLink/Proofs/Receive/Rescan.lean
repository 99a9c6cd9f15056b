import ServoLink.Proofs.Receive.Chunking
import ServoLink.Proofs.Receive.Noise
import ServoLink.StreamCodec

/-!
# A reader that starts anew

The stream codec remembers nothing of its buffer from one call to the next: it
looks for a sync byte, tries to read a frame there, and looks again one byte
later where that fails. The synchronizer remembers what it has seen and looks at
limits and lengths in steps of its own. Both nevertheless find what a scan finds
(`StreamCodec.decodeAll_eq`, `Intake.run_eq`), so the two agree on every stream,
each cut in its own way: on the frames, on the number of bytes dropped and on
the bytes left over (`Intake.agrees_with_synchronizer`).
-/

namespace ServoLink

namespace Scan

theorem frames_precededBy (s : Scan) (items : List ScanItem) :
    (s.precededBy items).frames = items.filterMap frameOf? ++ s.frames :=
  List.filterMap_append

theorem dropped_precededBy (s : Scan) (items : List ScanItem) :
    (s.precededBy items).dropped = items.count .dropped + s.dropped :=
  List.count_append

end Scan

namespace StreamCodec

variable {codec next : StreamCodec} {buffer rest : Bytes} {f : Frame}

/-- Dropping bytes in two steps counts them all. -/
theorem skip_skip (codec : StreamCodec) (a b : Nat) :
    (codec.skip a).skip b = codec.skip (a + b) := by
  unfold skip
  rw [Counter.bump_bump]

/-- Dropping nothing counts nothing. -/
theorem skip_zero (codec : StreamCodec) : codec.skip 0 = codec := by
  unfold skip
  rw [Counter.bump_zero]

/-- A scan drops what stands before the first sync byte. -/
theorem run_fromSync (c : FrameConfig) (buffer : Bytes) :
    Scan.run c buffer
      = (Scan.run c (fromSync buffer)).precededBy
          (List.replicate (buffer.length - (fromSync buffer).length) .dropped) := by
  obtain ⟨front, hfront⟩ : ∃ front, buffer.takeWhile (· != syncByte) = front := ⟨_, rfl⟩
  have hsplit : front ++ fromSync buffer = buffer := by
    rw [← hfront]
    exact List.takeWhile_append_dropWhile
  have hlength : buffer.length - (fromSync buffer).length = front.length := by
    rw [← congrArg List.length hsplit, List.length_append, Nat.add_sub_cancel]
  have hfree : syncByte ∉ front := by
    intro hmem
    rw [← hfront] at hmem
    exact absurd (List.all_eq_true.1 List.all_takeWhile _ hmem) (by decide)
  have hscan := Scan.run_of_errors (Noisy.refused_of_sync_free (c := c) (fromSync buffer) hfree)
  rw [List.drop_left, hsplit] at hscan
  rw [hlength, hscan]

/-! ## One call -/

/-- **What a call can do**: give the frame that a scan finds first, behind the
bytes that it drops, or wait where the scan stops. -/
inductive Step (codec : StreamCodec) (buffer : Bytes) :
    Except FrameError (Option Frame) × StreamCodec × Bytes → Prop
  /-- A frame was read. -/
  | frame {k : Nat} {f : Frame} {rest : Bytes}
      (hscan : Scan.run codec.config buffer
        = (Scan.run codec.config rest).precededBy (List.replicate k .dropped ++ [.frame f])) :
      Step codec buffer (.ok (some f), codec.skip k, rest)
  /-- Bytes are missing. -/
  | wait {k : Nat} {rest : Bytes}
      (hscan : Scan.run codec.config buffer
        = { items := List.replicate k .dropped, rest }) :
      Step codec buffer (.ok none, codec.skip k, rest)

/-- What was dropped before a step is dropped in the same scan. -/
theorem Step.skip {k : Nat} {answer : Except FrameError (Option Frame) × StreamCodec × Bytes}
    (h : Step (codec.skip k) rest answer)
    (hscan : Scan.run codec.config buffer
      = (Scan.run codec.config rest).precededBy (List.replicate k .dropped)) :
    Step codec buffer answer := by
  cases h with
  | frame hrest =>
    rw [show (codec.skip k).config = codec.config from rfl] at hrest
    rw [skip_skip]
    refine .frame ?_
    rw [hscan, hrest, Scan.precededBy_precededBy, ← List.append_assoc,
      List.replicate_append_replicate]
  | wait hrest =>
    rw [show (codec.skip k).config = codec.config from rfl] at hrest
    rw [skip_skip]
    refine .wait ?_
    rw [hscan, hrest, Scan.precededBy, List.replicate_append_replicate]

/-- **Every call is a step**, and none fails. -/
theorem decode_step (codec : StreamCodec) (buffer : Bytes) :
    Step codec buffer (codec.decode buffer) := by
  fun_induction codec.decode buffer with
  | case1 codec buffer synced f n hd =>
    refine .frame ?_
    rw [run_fromSync, Scan.run_of_frame hd, Scan.precededBy_precededBy]
  | case2 codec buffer synced hd =>
    refine .wait ?_
    rw [run_fromSync, Scan.run_of_none hd, Scan.precededBy, List.append_nil]
  | case3 codec buffer synced e hd hresync ih =>
    -- the sync byte is dropped behind the bytes before it, and the search goes on
    have hdrop : Scan.run codec.config (fromSync buffer)
        = (Scan.run codec.config ((fromSync buffer).drop 1)).precededBy
            (List.replicate 1 .dropped) :=
      Scan.run_of_error hd
    exact (ih.skip hdrop).skip (run_fromSync codec.config buffer)
  | case4 codec buffer synced e hd hresync =>
    exact absurd (Frame.isResync_of_decode_error hd) hresync

/-! ## Calls until bytes are missing -/

theorem decodeAll_of_frame (hd : codec.decode buffer = (.ok (some f), next, rest)) :
    codec.decodeAll buffer = (f :: (next.decodeAll rest).1, (next.decodeAll rest).2) := by
  rw [decodeAll]
  split
  · rename_i f' next' rest' hd'
    obtain ⟨rfl, rfl, rfl⟩ : f = f' ∧ next = next' ∧ rest = rest' := by simpa [hd] using hd'
    rfl
  · rename_i hno
    exact absurd hd (hno f next rest)

theorem decodeAll_of_none (hd : codec.decode buffer = (.ok none, next, rest)) :
    codec.decodeAll buffer = ([], .ok none, next, rest) := by
  rw [decodeAll]
  split
  · rename_i hd'
    simp [hd] at hd'
  · rw [hd]

/-- **Calls until bytes are missing find what a scan finds**: its frames, as many
bytes dropped, and its rest. -/
theorem decodeAll_eq (codec : StreamCodec) (buffer : Bytes) :
    codec.decodeAll buffer
      = ((Scan.run codec.config buffer).frames, .ok none,
          codec.skip (Scan.run codec.config buffer).dropped,
          (Scan.run codec.config buffer).rest) := by
  induction codec, buffer using decodeAll.induct with
  | case1 codec buffer f next rest hd frames answer hrest ih =>
    have hstep := decode_step codec buffer
    rw [hd] at hstep
    rw [decodeAll_of_frame hd, ih]
    cases hstep with
    | @frame k _ _ hscan =>
      rw [hscan, Scan.frames_precededBy, Scan.dropped_precededBy, Scan.rest_precededBy,
        List.filterMap_append, List.filterMap_replicate_of_none rfl, List.count_append,
        List.count_replicate_self, ← skip_skip]
      rfl
  | case2 codec buffer hno =>
    have hstep := decode_step codec buffer
    generalize hd : codec.decode buffer = answer at hstep
    cases hstep with
    | frame hscan => exact absurd hd (hno _ _ _)
    | @wait k rest hscan =>
      rw [decodeAll_of_none hd, hscan, Scan.frames_eq, List.filterMap_replicate_of_none rfl,
        Scan.dropped, List.count_replicate_self]

end StreamCodec

/-! ## A stream in pieces -/

/-- A codec, the buffer its owner fills, and the frames read so far. -/
structure Intake where
  /-- The codec as it is now. -/
  codec : StreamCodec
  /-- The bytes that wait to become a frame. -/
  buffer : Bytes := []
  /-- The frames read, in order. -/
  frames : List Frame := []

namespace Intake

/-- Append bytes to the buffer, and read until bytes are missing. -/
def append (t : Intake) (data : Bytes) : Intake :=
  let (frames, _, codec, buffer) := t.codec.decodeAll (t.buffer ++ data)
  { codec, buffer, frames := t.frames ++ frames }

/-- A stream that comes in pieces, with a fresh codec. -/
def run (c : FrameConfig) (pieces : List Bytes) : Intake :=
  pieces.foldl append { codec := { config := c } }

/-- What a scan leaves a codec with. -/
def ofScan (codec : StreamCodec) (scan : Scan) : Intake where
  codec := codec.skip scan.dropped
  buffer := scan.rest
  frames := scan.frames

/-- Bytes appended go on where the scan stopped. -/
theorem append_ofScan (codec : StreamCodec) (stream data : Bytes) :
    (ofScan codec (Scan.run codec.config stream)).append data
      = ofScan codec (Scan.run codec.config (stream ++ data)) := by
  unfold append ofScan
  dsimp only
  rw [StreamCodec.decodeAll_eq, Scan.run_append codec.config stream data,
    Scan.frames_precededBy, Scan.dropped_precededBy, StreamCodec.skip_skip]
  rfl

/-- **A stream in pieces is read as one**: the codec has read the frames that a
scan finds in the whole of it, dropped as many bytes, and left the same rest. -/
theorem run_eq (c : FrameConfig) (pieces : List Bytes) :
    run c pieces = ofScan { config := c } (Scan.run c pieces.flatten) := by
  let codec : StreamCodec := { config := c }
  -- on the pieces, behind any stream read so far
  have hfold : ∀ stream, pieces.foldl append (ofScan codec (Scan.run c stream))
      = ofScan codec (Scan.run c (stream ++ pieces.flatten)) := by
    induction pieces with
    | nil =>
      intro stream
      rw [List.flatten_nil, List.append_nil]
      rfl
    | cons data pieces ih =>
      intro stream
      rw [List.foldl_cons, append_ofScan codec stream data, ih, List.flatten_cons,
        List.append_assoc]
  have hnew : ofScan codec (Scan.run c []) = { codec } := by
    rw [Scan.run_of_none rfl]
    show ({ codec := codec.skip 0 } : Intake) = { codec }
    rw [StreamCodec.skip_zero]
  have hrun := hfold []
  rw [hnew] at hrun
  exact hrun

/-- **Two readers of one stream agree.** Let a stream come to a fresh codec in
some pieces, each followed by calls until bytes are missing, and to a fresh
synchronizer in pieces of its own, with polls anywhere in between and until
nothing is reported in the end. Both have read the same frames in the same
order, dropped as many bytes – the codec counts them up to the limit of its
counter – and left the same bytes. No call of a codec fails. -/
theorem agrees_with_synchronizer (c : FrameConfig) (pieces : List Bytes) (maxBuffered : Nat)
    (moves : List Synchronizer.Move)
    (hstream : (Synchronizer.Session.run c maxBuffered moves).accepted = pieces.flatten) :
    let t := run c pieces
    let s := Synchronizer.Session.run c maxBuffered moves
    let events := s.events ++ s.sync.pollAll.1
    t.frames = Synchronizer.frames events ∧
      t.codec.discarded.val = min (Synchronizer.dropped events) Counter.limit ∧
      t.buffer = s.sync.pollAll.2.buffer ∧
      ∀ (codec : StreamCodec) (buffer : Bytes) (e : FrameError),
        (codec.decode buffer).1 ≠ .error e := by
  intro t s events
  have hreads : s.sync.Reads c s.accepted s.events :=
    Synchronizer.Session.foldl_step_reads (Synchronizer.reads_new c maxBuffered) moves
  have hscan := hreads.scan_pollAll
  rw [hstream] at hscan
  have ht : t = ofScan { config := c } (Scan.run c pieces.flatten) := run_eq c pieces
  rw [ht, hscan]
  refine ⟨?_, ?_, rfl, ?_⟩
  · exact Synchronizer.frames_items events
  · show (Counter.bump 0 ((Synchronizer.items events).count .dropped)).val = _
    rw [Synchronizer.dropped_items, Counter.val_bump, Counter.val_zero, Nat.zero_add]
  · intro codec buffer e he
    have hstep := StreamCodec.decode_step codec buffer
    generalize codec.decode buffer = answer at hstep he
    cases hstep <;> cases he

/-- A stream cut in two ways: noise, a sync byte whose header asks for too much, a
frame, and the start of another. -/
theorem agrees_with_synchronizer_cut :
    let c : FrameConfig := { maxPayload := 4, integrity := .unchecked }
    let f : Frame := { component := 1, data := 2, flags := 9, payload := [0xA0, 3] }
    let front : Bytes := [7, 0xA0, 0, 0, 0, 0, 0x10, 0]
    let moves : List Synchronizer.Move :=
      [.push front, .poll, .push (f.wire c), .poll, .poll, .push [0xA0, 1]]
    let pieces : List Bytes := [front ++ (f.wire c).take 3, (f.wire c).drop 3 ++ [0xA0, 1]]
    let t := run c pieces
    let s := Synchronizer.Session.run c 64 moves
    s.accepted = pieces.flatten ∧ t.frames = [f] ∧ t.codec.discarded.val = 8 ∧
      t.buffer = [0xA0, 1] ∧ Synchronizer.frames (s.events ++ s.sync.pollAll.1) = [f] ∧
      Synchronizer.dropped (s.events ++ s.sync.pollAll.1) = 8 ∧
      s.sync.pollAll.2.buffer = [0xA0, 1] := by
  intro c f front moves pieces t s
  have hstream : s.accepted = pieces.flatten := by decide +kernel
  obtain ⟨hframes, hdropped, hrest, -⟩ := agrees_with_synchronizer c pieces 64 moves hstream
  have hf : t.frames = [f] := by decide +kernel
  have hd : t.codec.discarded.val = 8 := by decide +kernel
  have hr : t.buffer = [0xA0, 1] := by decide +kernel
  have hdropped : Synchronizer.dropped (s.events ++ s.sync.pollAll.1) = 8 := by
    have hlimit : Counter.limit = 0xFFFFFFFFFFFFFFFF := rfl
    have hmin : min (Synchronizer.dropped (s.events ++ s.sync.pollAll.1)) Counter.limit = 8 :=
      hdropped.symm.trans hd
    omega
  exact ⟨hstream, hf, hd, hr, hframes.symm.trans hf, hdropped, hrest.symm.trans hr⟩

end Intake

end ServoLink
