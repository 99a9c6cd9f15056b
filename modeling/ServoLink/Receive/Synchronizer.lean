import ServoLink.Frame.Codec
import ServoLink.Link.Error

/-!
# The receive synchronizer

A receiver sees an endless byte stream in pieces of any size. The
synchronizer collects the bytes and finds the frames among them: it looks for
a sync byte, waits for a header, waits for the whole frame, and drops what is
none of these. Each step that reports something takes bytes from the buffer,
so polling comes to rest (`Synchronizer.poll_shrinks`).
-/

namespace ServoLink

/-- What the synchronizer is waiting for. -/
inductive SyncState where
  /-- A sync byte. -/
  | seekSync
  /-- The rest of a header whose sync byte is at the front. -/
  | awaitHeader
  /-- The rest of a frame of the given length. -/
  | awaitPayload (frameLength : Nat)
  deriving DecidableEq, Inhabited

/-- Why bytes were dropped. -/
inductive DiscardReason where
  /-- They stood before the next sync byte. -/
  | noise
  /-- A sync byte whose header declared a payload over the limit. -/
  | oversized
  /-- A sync byte whose frame failed its checksum. -/
  | checksum
  deriving DecidableEq

/-- One report of the synchronizer. -/
inductive SyncEvent where
  /-- A whole frame was found. -/
  | frame (f : Frame)
  /-- Bytes were dropped; `newRun` marks the first drop after a frame or
  after the start. -/
  | discarded (bytes : Nat) (reason : DiscardReason) (newRun : Bool)
  deriving DecidableEq

/-- The bytes received and not yet accounted for, and how far they have been
looked through. -/
structure Synchronizer where
  /-- The frame format. -/
  config : FrameConfig
  /-- The most bytes held at a time. -/
  capacity : Nat
  /-- The bytes held. -/
  buffer : Bytes := []
  /-- What is waited for. -/
  state : SyncState := .seekSync
  /-- Whether the last report was a drop. -/
  inGarbage : Bool := false
  deriving Inhabited

namespace Synchronizer

/-- A synchronizer that holds at least one frame of the largest size. -/
def new (config : FrameConfig) (maxBuffered : Nat) : Synchronizer :=
  { config, capacity := max maxBuffered config.maxFrameLength }

/-- The bytes held. -/
def buffered (s : Synchronizer) : Nat :=
  s.buffer.length

/-- The bytes that can still be pushed. -/
def room (s : Synchronizer) : Nat :=
  s.capacity - s.buffer.length

/-- Append received bytes. Bytes that do not all fit are refused whole. -/
def push (s : Synchronizer) (data : Bytes) : Except LinkError Unit × Synchronizer :=
  if data.length > s.room then (.error (.receiveOverflow data.length s.room), s)
  else (.ok (), { s with buffer := s.buffer ++ data })

/-- Drop bytes from the front, and report it. -/
def discard (s : Synchronizer) (count : Nat) (reason : DiscardReason) (next : SyncState) :
    SyncEvent × Synchronizer :=
  (.discarded count reason (!s.inGarbage),
    { s with buffer := s.buffer.drop count, state := next, inGarbage := true })

/-- With a frame of the given length announced: take it, drop its sync byte,
or wait. -/
def pollPayload (s : Synchronizer) (frameLength : Nat) : Option SyncEvent × Synchronizer :=
  if s.buffer.length < frameLength then (none, { s with state := .awaitPayload frameLength })
  else match Frame.decode (s.buffer.take frameLength) s.config with
    | .ok (some (f, n)) =>
      (some (.frame f),
        { s with buffer := s.buffer.drop n, state := .seekSync, inGarbage := false })
    | .ok none => (none, { s with state := .seekSync })
    | .error _ =>
      let (event, s) := s.discard 1 .checksum .seekSync
      (some event, s)

/-- With a sync byte at the front: read the header, drop the sync byte, or
wait. -/
def pollHeader (s : Synchronizer) : Option SyncEvent × Synchronizer :=
  match Header.parse s.buffer with
  | .ok none => (none, { s with state := .awaitHeader })
  | .ok (some h) =>
    if h.payloadLength > s.config.payloadLimit then
      let (event, s) := s.discard 1 .oversized .seekSync
      (some event, s)
    else s.pollPayload h.frameLength
  | .error _ =>
    let (event, s) := s.discard 1 .noise .seekSync
    (some event, s)

/-- Look for a sync byte, and drop what stands before it. -/
def pollSync (s : Synchronizer) : Option SyncEvent × Synchronizer :=
  if s.buffer.isEmpty then (none, s)
  else match s.buffer.findIdx? (· == syncByte) with
    | some 0 => s.pollHeader
    | some (offset + 1) =>
      let (event, s) := s.discard (offset + 1) .noise .awaitHeader
      (some event, s)
    | none =>
      let (event, s) := s.discard s.buffer.length .noise .seekSync
      (some event, s)

/-- Go on until there is something to report or more bytes are needed. -/
def poll (s : Synchronizer) : Option SyncEvent × Synchronizer :=
  match s.state with
  | .seekSync => s.pollSync
  | .awaitHeader => s.pollHeader
  | .awaitPayload frameLength => s.pollPayload frameLength

/-- Dropping at least one byte of a buffer that holds any makes it shorter. -/
theorem discard_shrinks {s : Synchronizer} {count : Nat} (reason : DiscardReason)
    (next : SyncState) (hs : s.buffer ≠ []) (hc : 0 < count) :
    (s.discard count reason next).2.buffer.length < s.buffer.length := by
  have := List.length_pos_iff.2 hs
  simp only [discard, List.length_drop]
  omega

theorem pollPayload_shrinks {s s' : Synchronizer} {n : Nat} {e : SyncEvent}
    (h : s.pollPayload n = (some e, s')) : s'.buffer.length < s.buffer.length := by
  unfold pollPayload at h
  split at h
  · simp at h
  · split at h
    · rename_i f m hdec
      simp only [Prod.mk.injEq] at h
      obtain ⟨_, rfl⟩ := h
      have := Frame.length_of_decode hdec
      simp only [List.length_take, headerSize, List.length_drop] at this ⊢
      omega
    · simp at h
    · rename_i hdec
      have hne : s.buffer ≠ [] := by
        rintro hnil
        exact Frame.ne_nil_of_decode_error hdec (by simp [hnil])
      simp only [Prod.mk.injEq] at h
      exact h.2 ▸ discard_shrinks .checksum .seekSync hne Nat.one_pos

theorem pollHeader_shrinks {s s' : Synchronizer} {e : SyncEvent}
    (h : s.pollHeader = (some e, s')) : s'.buffer.length < s.buffer.length := by
  have hne : s.buffer ≠ [] := by
    rintro hnil
    simp [pollHeader, hnil, Header.parse] at h
  unfold pollHeader at h
  split at h
  · simp at h
  · split at h
    · simp only [Prod.mk.injEq] at h
      exact h.2 ▸ discard_shrinks .oversized .seekSync hne Nat.one_pos
    · exact pollPayload_shrinks h
  · simp only [Prod.mk.injEq] at h
    exact h.2 ▸ discard_shrinks .noise .seekSync hne Nat.one_pos

theorem pollSync_shrinks {s s' : Synchronizer} {e : SyncEvent}
    (h : s.pollSync = (some e, s')) : s'.buffer.length < s.buffer.length := by
  unfold pollSync at h
  split at h
  · simp at h
  · rename_i hempty
    have hne : s.buffer ≠ [] := by simpa using hempty
    split at h
    · exact pollHeader_shrinks h
    · simp only [Prod.mk.injEq] at h
      exact h.2 ▸ discard_shrinks .noise .awaitHeader hne (Nat.succ_pos _)
    · simp only [Prod.mk.injEq] at h
      exact h.2 ▸ discard_shrinks .noise .seekSync hne (List.length_pos_iff.2 hne)

/-- **Every report takes bytes.** So polling until nothing is reported ends. -/
theorem poll_shrinks {s s' : Synchronizer} {e : SyncEvent}
    (h : s.poll = (some e, s')) : s'.buffer.length < s.buffer.length := by
  unfold poll at h
  split at h
  · exact pollSync_shrinks h
  · exact pollHeader_shrinks h
  · exact pollPayload_shrinks h

/-- Poll until nothing more is reported. -/
def pollAll (s : Synchronizer) : List SyncEvent × Synchronizer :=
  match _h : s.poll with
  | (none, s') => ([], s')
  | (some e, s') =>
    let (events, last) := s'.pollAll
    (e :: events, last)
termination_by s.buffer.length
decreasing_by exact poll_shrinks _h

end Synchronizer

end ServoLink
