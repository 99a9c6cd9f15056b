import ServoLink.Failure
import ServoLink.Bytes

/-!
# Streams

A stream answers every call of its user: a read with bytes or a failure, a
write with the number of bytes taken or a failure, a flush with success or a
failure. A stream is given here by the answers it has in store, so that any
finite dealing with any stream is one of these. With no answers left it is at
its end: reads find nothing, and writes and flushes succeed.
-/

namespace ServoLink

/-- The answer a stream has in store for a read. -/
inductive ReadAnswer where
  /-- These bytes; what the reader has no room for waits for the next read. -/
  | data (bytes : Bytes)
  /-- A failure. -/
  | failure (f : IoFailure)
  deriving DecidableEq

/-- The answer a stream has in store for a write. -/
inductive WriteAnswer where
  /-- Take at most this many bytes. -/
  | accept (limit : Nat)
  /-- A failure. -/
  | failure (f : IoFailure)
  deriving DecidableEq

/-- A stream, by the answers it has in store, and the bytes it has taken. -/
structure Stream where
  /-- Answers to reads. -/
  reads : List ReadAnswer := []
  /-- Answers to writes. -/
  writes : List WriteAnswer := []
  /-- Answers to flushes; `none` is success. -/
  flushes : List (Option IoFailure) := []
  /-- Every byte taken so far. -/
  written : Bytes := []
  /-- How many of these had been taken when a flush last succeeded. -/
  flushed : Nat := 0
  deriving DecidableEq, Inhabited

namespace Stream

/-- Read at most `room` bytes. No bytes mean the end of the stream. -/
def read (s : Stream) (room : Nat) : Except IoFailure Bytes × Stream :=
  match s.reads with
  | [] => (.ok [], s)
  | .failure f :: reads => (.error f, { s with reads })
  | .data bytes :: reads =>
    (.ok (bytes.take room),
      { s with
        reads := if bytes.length ≤ room then reads else .data (bytes.drop room) :: reads })

/-- Offer bytes; the answer is how many of them were taken. -/
def write (s : Stream) (offered : Bytes) : Except IoFailure Nat × Stream :=
  match s.writes with
  | [] => (.ok offered.length, { s with written := s.written ++ offered })
  | .failure f :: writes => (.error f, { s with writes })
  | .accept limit :: writes =>
    (.ok (min limit offered.length),
      { s with writes, written := s.written ++ offered.take limit })

/-- Ask for the bytes taken to be passed on. -/
def flush (s : Stream) : Except IoFailure Unit × Stream :=
  match s.flushes with
  | [] => (.ok (), { s with flushed := s.written.length })
  | none :: flushes => (.ok (), { s with flushes, flushed := s.written.length })
  | some f :: flushes => (.error f, { s with flushes })

end Stream

end ServoLink
