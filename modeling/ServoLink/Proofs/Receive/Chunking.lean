import ServoLink.Proofs.Receive.Reading

/-!
# The cut of a stream does not matter

Bytes come in pieces, and a receiver may poll as often as it likes between one
piece and the next. A `Session` is any such history: pushes, some of which may
be refused, and polls, in any order. What it finds in the end – the frames, the
bytes dropped, the runs of garbage and the bytes left – is what one scan finds
over the bytes that were taken in (`Session.chunking_irrelevant`), so it is the
same for every way of cutting the stream.
-/

namespace ServoLink

namespace Synchronizer

/-- What is done to a synchronizer. -/
inductive Move where
  /-- Received bytes are pushed. -/
  | push (data : Bytes)
  /-- It is polled once. -/
  | poll

/-- A history of pushes and polls. -/
structure Session where
  /-- The synchronizer as it is now. -/
  sync : Synchronizer
  /-- The bytes of all pushes that were taken, in order. -/
  accepted : Bytes := []
  /-- Everything reported, in order. -/
  events : List SyncEvent := []

namespace Session

/-- One move. A push that is refused leaves the session as it was. -/
def step (t : Session) : Move → Session
  | .push data =>
    match t.sync.push data with
    | (.ok (), sync) => { t with sync, accepted := t.accepted ++ data }
    | (.error _, _) => t
  | .poll => { t with sync := t.sync.poll.2, events := t.events ++ t.sync.poll.1.toList }

/-- A history of moves with a fresh synchronizer. -/
def run (c : FrameConfig) (maxBuffered : Nat) (moves : List Move) : Session :=
  moves.foldl step { sync := .new c maxBuffered }

/-- One move keeps the reports in agreement with a scan. -/
theorem step_reads {t : Session} {c : FrameConfig} (h : t.sync.Reads c t.accepted t.events)
    (move : Move) :
    (t.step move).sync.Reads c (t.step move).accepted (t.step move).events := by
  cases move with
  | poll => exact h.poll
  | push data =>
    unfold step
    dsimp only
    split
    · rename_i hp
      exact h.push hp
    · exact h

/-- **Every history agrees with a scan** of the bytes it took in. -/
theorem foldl_step_reads {t : Session} {c : FrameConfig} (h : t.sync.Reads c t.accepted t.events)
    (moves : List Move) :
    (moves.foldl step t).sync.Reads c (moves.foldl step t).accepted
      (moves.foldl step t).events := by
  induction moves generalizing t with
  | nil => exact h
  | cons move moves ih => exact ih (step_reads h move)

/-- **The cut of a stream does not matter.** However the bytes were pushed and
however often the synchronizer was polled in between, once it is polled until
nothing is reported it has found what one scan finds over all bytes taken in:
the same frames in the same order, as many bytes dropped, as many runs of
garbage, and the same bytes left over. -/
theorem chunking_irrelevant (c : FrameConfig) (maxBuffered : Nat) (moves : List Move) :
    let t := run c maxBuffered moves
    let events := t.events ++ t.sync.pollAll.1
    let scan := Scan.run c t.accepted
    frames events = scan.frames ∧ dropped events = scan.dropped ∧
      newRuns events = scan.garbageRuns ∧ t.sync.pollAll.2.buffer = scan.rest := by
  intro t events scan
  have hrun : t.sync.Reads c t.accepted t.events :=
    foldl_step_reads (reads_new c maxBuffered) moves
  have hend := hrun.pollAll
  have hrest := hrun.aligned.decode_pollAll
  rw [hend.config] at hrest
  have hscan : scan = { items := items events, rest := t.sync.pollAll.2.buffer } :=
    hend.scan_of_none hrest
  refine ⟨?_, ?_, ?_, ?_⟩
  · rw [hscan, Scan.frames_eq, frames_items]
  · rw [hscan, Scan.dropped, dropped_items]
  · rw [hscan, Scan.garbageRuns, hend.runs]
  · rw [hscan]

end Session

end Synchronizer

end ServoLink
