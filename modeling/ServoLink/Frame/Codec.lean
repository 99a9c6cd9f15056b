import ServoLink.Crc
import ServoLink.Frame.Header

/-!
# Writing and reading frames

`Frame.encode` writes a frame and `Frame.decode` reads one from the front of a
byte string. Reading never consumes anything by itself: it answers that the
bytes are still too short, that no frame starts here, or with the frame and
its length on the wire.
-/

namespace ServoLink

namespace Frame

/-- The length word of a frame: payload length below, three flag bits above. -/
def lengthWord (f : Frame) : UInt16 :=
  UInt16.ofNat (f.flags.toNat % 8 * 8192 + f.payload.length % 8192)

/-- The six header bytes that a checksum covers. -/
def checkedHeader (f : Frame) : Bytes :=
  syncByte :: f.seq :: f.component :: f.data :: LittleEndian.bytes16 f.lengthWord

/-- The two bytes of the check word. -/
def checkBytes (f : Frame) : Integrity → Bytes
  | .crc16 => LittleEndian.bytes16 (Crc.update (Crc.checksum f.checkedHeader) f.payload)
  | .unchecked => [f.flags, 0]

/-- The bytes of a frame on the wire. -/
def wire (f : Frame) (c : FrameConfig) : Bytes :=
  f.checkedHeader ++ f.checkBytes c.integrity ++ f.payload

/-- Write a frame. A payload over the limit is refused. -/
def encode (f : Frame) (c : FrameConfig) : Except FrameError Bytes :=
  if f.payload.length > c.payloadLimit then
    .error (.payloadTooLarge f.payload.length c.payloadLimit)
  else .ok (f.wire c)

/-- Write a frame behind what a buffer holds already. A frame that is refused
leaves the buffer as it was. -/
def encodeOnto (f : Frame) (c : FrameConfig) (buffer : Bytes) : Except FrameError Unit × Bytes :=
  match f.encode c with
  | .ok bytes => (.ok (), buffer ++ bytes)
  | .error e => (.error e, buffer)

/-- A frame is as long on the wire as `wireSize` says. -/
theorem length_wire (f : Frame) (c : FrameConfig) : (f.wire c).length = f.wireSize := by
  cases h : c.integrity <;>
    simp [wire, checkedHeader, checkBytes, h, wireSize, headerSize] <;> omega

end Frame

/-- Whether the check word of a header is the one its frame should carry. -/
def verify (h : Header) (covered payload : Bytes) : Integrity → Except FrameError Unit
  | .crc16 =>
    let computed := Crc.update (Crc.checksum covered) payload
    if h.checkWord = computed then .ok ()
    else .error (.checksumMismatch h.checkWord computed)
  | .unchecked => .ok ()

/-- Read one frame from the front of a byte string, with the number of bytes
it takes: `none` while bytes are missing, an error when no frame starts
here. -/
def Frame.decode (window : Bytes) (c : FrameConfig) : Except FrameError (Option (Frame × Nat)) :=
  match Header.parse window with
  | .error e => .error e
  | .ok none => .ok none
  | .ok (some h) =>
    if h.payloadLength > c.payloadLimit then
      .error (.payloadTooLarge h.payloadLength c.payloadLimit)
    else if window.length < h.frameLength then .ok none
    else
      let payload := (window.take h.frameLength).drop headerSize
      match verify h (window.take 6) payload c.integrity with
      | .error e => .error e
      | .ok () =>
        .ok (some
          ({ seq := h.seq, component := h.component, data := h.data,
             flags := h.flags c.integrity, payload }, h.frameLength))

/-- A frame that is read lies within the bytes it is read from, and takes at
least a header. -/
theorem Frame.length_of_decode {window : Bytes} {c : FrameConfig} {f : Frame} {n : Nat}
    (h : Frame.decode window c = .ok (some (f, n))) : headerSize ≤ n ∧ n ≤ window.length := by
  unfold Frame.decode at h
  split at h
  · simp at h
  · simp at h
  · rename_i hd _
    split at h
    · simp at h
    · split at h
      · simp at h
      · rename_i hlen
        dsimp only at h
        split at h
        · simp at h
        · simp only [Except.ok.injEq, Option.some.injEq, Prod.mk.injEq] at h
          obtain ⟨_, rfl⟩ := h
          exact ⟨Nat.le_add_right _ _, Nat.not_lt.1 hlen⟩

/-- Where reading fails there is something to drop. -/
theorem Frame.ne_nil_of_decode_error {window : Bytes} {c : FrameConfig} {e : FrameError}
    (h : Frame.decode window c = .error e) : window ≠ [] := by
  rintro rfl
  simp [Frame.decode, Header.parse] at h

/-- What repeated reading of one byte string gives. -/
structure Decoded where
  /-- The frames read, in order. -/
  frames : List Frame := []
  /-- The error that ended the reading, if one did. -/
  error : Option FrameError := none
  /-- The bytes left unread. -/
  rest : Bytes := []

/-- Read frames from the front of a byte string until one is incomplete or
the bytes left start with none. -/
def Frame.decodeAll (c : FrameConfig) (window : Bytes) : Decoded :=
  match _h : Frame.decode window c with
  | .error e => { error := some e, rest := window }
  | .ok none => { rest := window }
  | .ok (some (f, n)) =>
    let tail := Frame.decodeAll c (window.drop n)
    { tail with frames := f :: tail.frames }
termination_by window.length
decreasing_by
  have := Frame.length_of_decode _h
  simp only [List.length_drop, headerSize] at *
  omega

end ServoLink
