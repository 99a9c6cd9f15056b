import ServoLink.Frame.Codec

/-!
# Scanning a whole stream at once

What a receiver should find in a byte stream is said here without buffers or
states: walk the stream from the front, take a frame where one starts, drop a
byte where none does, and stop where the bytes left may still become a frame.
-/

namespace ServoLink

/-- One step of a scan. -/
inductive ScanItem where
  /-- A frame was taken. -/
  | frame (f : Frame)
  /-- One byte was dropped. -/
  | dropped
  deriving DecidableEq

/-- What a scan finds. -/
structure Scan where
  /-- Frames taken and bytes dropped, in stream order. -/
  items : List ScanItem := []
  /-- The bytes left, which may still become a frame. -/
  rest : Bytes := []
  deriving DecidableEq

namespace Scan

/-- Scan a byte stream. -/
def run (c : FrameConfig) (stream : Bytes) : Scan :=
  match _h : Frame.decode stream c with
  | .ok none => { rest := stream }
  | .ok (some (f, n)) =>
    let tail := run c (stream.drop n)
    { tail with items := .frame f :: tail.items }
  | .error _ =>
    let tail := run c (stream.drop 1)
    { tail with items := .dropped :: tail.items }
termination_by stream.length
decreasing_by
  · have := Frame.length_of_decode _h
    simp only [List.length_drop, headerSize] at *
    omega
  · have := List.length_pos_iff.2 (Frame.ne_nil_of_decode_error _h)
    simp only [List.length_drop]
    omega

/-- The frames of a scan, in order. -/
def frames (s : Scan) : List Frame :=
  s.items.filterMap fun
    | .frame f => some f
    | .dropped => none

/-- The number of bytes dropped. -/
def dropped (s : Scan) : Nat :=
  s.items.count .dropped

/-- The number of maximal runs of dropped bytes in a list of items;
`inGarbage` says that a run is already open. -/
def countRuns : (inGarbage : Bool) → List ScanItem → Nat
  | _, [] => 0
  | _, .frame _ :: items => countRuns false items
  | true, .dropped :: items => countRuns true items
  | false, .dropped :: items => countRuns true items + 1

/-- The number of maximal runs of dropped bytes. -/
def garbageRuns (s : Scan) : Nat :=
  countRuns false s.items

end Scan

end ServoLink
