import ServoLink.Frame.Codec
import ServoLink.Link.Counters

/-!
# The stream codec

The codec reads frames from a buffer that its owner fills, and writes frames
under a sequence number of its own. It keeps no state of the search: every
call starts at the front of the buffer, drops what cannot start a frame, and
counts the bytes dropped.
-/

namespace ServoLink

/-- A frame codec for one direction of a stream each way. -/
structure StreamCodec where
  /-- The frame format. -/
  config : FrameConfig := {}
  /-- The sequence number of the next frame written. -/
  nextSeq : UInt8 := 0
  /-- The bytes dropped so far. -/
  discarded : Counter := 0

namespace StreamCodec

/-- Count bytes as dropped. -/
def skip (codec : StreamCodec) (count : Nat) : StreamCodec :=
  { codec with discarded := codec.discarded.bump count }

/-- The part of a buffer from its first sync byte on. -/
def fromSync (buffer : Bytes) : Bytes :=
  buffer.dropWhile (· != syncByte)

theorem length_fromSync_le (buffer : Bytes) : (fromSync buffer).length ≤ buffer.length :=
  (List.dropWhile_suffix _).length_le

/-- Read the next frame of a buffer, dropping what stands before it. The
answer is the frame, if a whole one was found, and the bytes left. -/
def decode (codec : StreamCodec) (buffer : Bytes) :
    Except FrameError (Option Frame) × StreamCodec × Bytes :=
  let synced := codec.skip (buffer.length - (fromSync buffer).length)
  match _h : Frame.decode (fromSync buffer) codec.config with
  | .ok (some (f, n)) => (.ok (some f), synced, (fromSync buffer).drop n)
  | .ok none => (.ok none, synced, fromSync buffer)
  | .error e =>
    if e.isResync then (synced.skip 1).decode ((fromSync buffer).drop 1)
    else (.error e, synced, fromSync buffer)
termination_by buffer.length
decreasing_by
  have := List.length_pos_iff.2 (Frame.ne_nil_of_decode_error _h)
  have := length_fromSync_le buffer
  simp only [List.length_drop]
  omega

/-- Reading a frame takes bytes from the buffer. -/
theorem length_decode_lt {codec next : StreamCodec} {buffer rest : Bytes} {f : Frame}
    (h : codec.decode buffer = (.ok (some f), next, rest)) : rest.length < buffer.length := by
  fun_induction codec.decode buffer with
  | case1 _ buffer _ g n hd =>
    have := Frame.length_of_decode hd
    have := length_fromSync_le buffer
    simp only [Prod.mk.injEq] at h
    rw [← h.2.2]
    simp only [List.length_drop, headerSize] at *
    omega
  | case2 => simp at h
  | case3 _ buffer _ _ _ _ ih =>
    have := ih h
    have := length_fromSync_le buffer
    simp only [List.length_drop] at *
    omega
  | case4 => simp at h

/-- Read frames until one is incomplete or reading fails. The last answer,
which is no frame, follows the frames. -/
def decodeAll (codec : StreamCodec) (buffer : Bytes) :
    List Frame × Except FrameError (Option Frame) × StreamCodec × Bytes :=
  match _h : codec.decode buffer with
  | (.ok (some f), codec, rest) =>
    let (frames, answer) := codec.decodeAll rest
    (f :: frames, answer)
  | answer => ([], answer)
termination_by buffer.length
decreasing_by exact length_decode_lt _h

/-- As `decode`, at the end of the stream: bytes left over are an error. -/
def decodeEnd (codec : StreamCodec) (buffer : Bytes) :
    Except FrameError (Option Frame) × StreamCodec × Bytes :=
  match codec.decode buffer with
  | (.ok none, codec, b :: rest) =>
    (.error (.io ⟨.other, "bytes remaining on stream"⟩), codec, b :: rest)
  | answer => answer

/-- Write a frame behind what a buffer holds, under the next sequence number.
A frame that is refused leaves codec and buffer as they were. -/
def encode (codec : StreamCodec) (f : Frame) (buffer : Bytes) :
    Except FrameError Unit × StreamCodec × Bytes :=
  match Frame.encodeOnto { f with seq := codec.nextSeq } codec.config buffer with
  | (.ok (), buffer) => (.ok (), { codec with nextSeq := codec.nextSeq + 1 }, buffer)
  | (.error e, buffer) => (.error e, codec, buffer)

end StreamCodec

end ServoLink
