import ServoLink.Proofs.Frame.Decode

/-!
# A frame written is a frame read

What `Frame.encode` writes, `Frame.decode` reads, whatever stands behind it
(`Frame.decode_wire_append`). The frame read is not always the frame written:
beside a checksum the wire has room for three flag bits, so `Frame.received`
says what arrives. All else travels whole, and every flag does where nothing is
checked.
-/

namespace ServoLink

namespace Frame

/-- **The frame that arrives** where a frame was written. Beside a checksum
only the low three flag bits travel. -/
def received (f : Frame) (c : FrameConfig) : Frame :=
  match c.integrity with
  | .crc16 => { f with flags := f.flags &&& 7 }
  | .unchecked => f

@[simp] theorem seq_received (f : Frame) (c : FrameConfig) : (f.received c).seq = f.seq := by
  unfold received
  split <;> rfl

@[simp] theorem payload_received (f : Frame) (c : FrameConfig) :
    (f.received c).payload = f.payload := by
  unfold received
  split <;> rfl

@[simp] theorem key_received (f : Frame) (c : FrameConfig) : (f.received c).key = f.key := by
  unfold received
  split <;> rfl

/-! ## The header written -/

variable (f : Frame) (c : FrameConfig)

/-- The header that is written for a frame. -/
def header (i : Integrity) : Header where
  seq := f.seq
  component := f.component
  data := f.data
  lengthWord := f.lengthWord
  check0 :=
    match i with
    | .crc16 => (Crc.update (Crc.checksum f.checkedHeader) f.payload).toUInt8
    | .unchecked => f.flags
  check1 :=
    match i with
    | .crc16 => (Crc.update (Crc.checksum f.checkedHeader) f.payload >>> 8).toUInt8
    | .unchecked => 0

/-- The header read is the header written. -/
theorem parse_wire_append (rest : Bytes) :
    Header.parse (f.wire c ++ rest) = .ok (some (f.header c.integrity)) := by
  have hword := LittleEndian.word16_bytes16 f.lengthWord
  cases hi : c.integrity with
  | crc16 =>
    simp only [wire, checkedHeader, checkBytes, hi, LittleEndian.bytes16, List.cons_append,
      List.nil_append, Header.parse]
    rw [if_neg (by decide), hword]
    rfl
  | unchecked =>
    simp only [wire, checkedHeader, checkBytes, hi, LittleEndian.bytes16, List.cons_append,
      List.nil_append, Header.parse]
    rw [if_neg (by decide), hword]
    rfl

theorem toNat_lengthWord :
    f.lengthWord.toNat = f.flags.toNat % 8 * 8192 + f.payload.length % 8192 := by
  rw [lengthWord, UInt16.toNat_ofNat']
  omega

/-- A payload that fits the length field is declared with its length. -/
theorem payloadLength_header (i : Integrity) (h : f.payload.length ≤ c.payloadLimit) :
    (f.header i).payloadLength = f.payload.length := by
  have hfit := Nat.le_trans h c.payloadLimit_le
  show f.lengthWord.toNat % 8192 = f.payload.length
  rw [toNat_lengthWord]
  omega

/-- The upper three bits of the length word are the low three flag bits. -/
theorem ofNat_lengthWord_div : UInt8.ofNat (f.lengthWord.toNat / 8192) = f.flags &&& 7 := by
  have hflags := f.flags.toNat_lt
  have hand : f.flags.toNat &&& 7 = f.flags.toNat % 8 := Nat.and_two_pow_sub_one_eq_mod _ 3
  apply UInt8.toNat_inj.1
  rw [UInt8.toNat_and, UInt8.toNat_ofNat', toNat_lengthWord]
  show _ = f.flags.toNat &&& 7
  rw [hand]
  omega

/-! ## Reading it back -/

/-- The check word written passes the check. -/
theorem verify_header (i : Integrity) :
    verify (f.header i) f.checkedHeader f.payload i = .ok () := by
  cases i with
  | crc16 => exact verify_crc16_eq_ok_iff.2 (LittleEndian.word16_bytes16 _)
  | unchecked => rfl

/-- The first six bytes are those that the checksum covers. -/
theorem take_six_wire_append (rest : Bytes) : (f.wire c ++ rest).take 6 = f.checkedHeader := by
  cases hi : c.integrity <;>
    simp [wire, checkedHeader, checkBytes, hi, LittleEndian.bytes16]

/-- Behind the header stands the payload, and nothing else. -/
theorem drop_header_wire :
    (f.wire c).drop headerSize = f.payload := by
  cases hi : c.integrity <;>
    simp [wire, checkedHeader, checkBytes, hi, LittleEndian.bytes16, headerSize]

/-- **A frame written is the frame read**, whatever stands behind it, and
reading takes its own bytes and no others. -/
theorem decode_wire_append (rest : Bytes) (h : f.payload.length ≤ c.payloadLimit) :
    decode (f.wire c ++ rest) c = .ok (some (f.received c, f.wireSize)) := by
  have hlen := f.payloadLength_header c c.integrity h
  have hsize : (f.header c.integrity).frameLength = f.wireSize := by
    rw [Header.frameLength, hlen, wireSize]
  have hfront : (f.wire c ++ rest).take f.wireSize = f.wire c := by
    rw [← f.length_wire c, List.take_left']
    rfl
  rw [decode_of_header (f.parse_wire_append c rest), hlen, hsize, if_neg (Nat.not_lt.2 h),
    if_neg (by rw [List.length_append, f.length_wire c]; omega), f.take_six_wire_append c,
    hfront, f.drop_header_wire c, verify_header]
  -- the flags are where the check word leaves room for them
  cases hi : c.integrity with
  | crc16 =>
    simp only [Header.flags, received, hi]
    rw [show (f.header .crc16).lengthWord = f.lengthWord from rfl, f.ofNat_lengthWord_div]
    rfl
  | unchecked =>
    simp only [received, hi]
    rfl

/-- A frame is written if its payload is within the limit, -/
theorem encode_of_length_le {f : Frame} {c : FrameConfig}
    (h : f.payload.length ≤ c.payloadLimit) : f.encode c = .ok (f.wire c) :=
  if_neg (Nat.not_lt.2 h)

/-- and only then. -/
theorem encode_eq_ok {f : Frame} {c : FrameConfig} {bytes : Bytes}
    (h : f.encode c = .ok bytes) : f.payload.length ≤ c.payloadLimit ∧ bytes = f.wire c := by
  unfold encode at h
  split at h
  · simp at h
  · rename_i hlimit
    exact ⟨Nat.not_lt.1 hlimit, (Except.ok.inj h).symm⟩

/-! ## Frames in a row -/

/-- The bytes of frames written one after the other. -/
def wires (c : FrameConfig) (frames : List Frame) : Bytes :=
  frames.flatMap (·.wire c)

theorem wires_append (c : FrameConfig) (front back : List Frame) :
    wires c (front ++ back) = wires c front ++ wires c back :=
  List.flatMap_append

end Frame

end ServoLink
