import ServoLink.Proofs.Checksum.Detection
import ServoLink.Proofs.Frame.Canonical

/-!
# Frames that were altered on the way

A frame that carries a checksum is sealed: its check word is the checksum of all
its other bytes (`Frame.Sealed`). Whoever reads a frame accepts no other, so an
altered frame is refused exactly where the alteration broke the seal. As long as
the reader still looks at the same bytes, which it does if the sync byte and the
length are intact, three kinds of alteration always break it: bits within
sixteen in a row of the covered bytes, the check word alone, and an odd number of
bits wherever they lie (`Frame.decode_of_altered`).
-/

namespace ServoLink

namespace Header

/-- A header that stands at the front is read. -/
theorem parse_bytes_append (h : Header) (rest : Bytes) :
    parse (h.bytes ++ rest) = .ok (some h) := by
  have hword := LittleEndian.word16_bytes16 h.lengthWord
  simp only [bytes, LittleEndian.bytes16, List.cons_append, List.nil_append, parse]
  rw [if_neg (by decide), hword]

/-- A sync byte with seven bytes behind it is a header. -/
theorem exists_parse {window : Bytes} (hlen : headerSize ≤ window.length)
    (hsync : window.head? = some syncByte) : ∃ h, parse window = .ok (some h) := by
  rcases hp : parse window with e | _ | h
  · exact absurd hp (parse_ne_error hsync)
  · exact absurd hp (parse_ne_none hlen)
  · exact ⟨h, rfl⟩

/-- The thirteen bits of length in the two bytes of the length word. -/
theorem payloadLength_eq (h : Header) :
    h.payloadLength = h.lengthWord.toUInt8.toNat
      + 256 * ((h.lengthWord >>> 8).toUInt8 &&& (0x1F : UInt8)).toNat := by
  have hword := h.lengthWord.toNat_lt
  have hand : ∀ n : Nat, n &&& 31 = n % 32 := fun n => Nat.and_two_pow_sub_one_eq_mod n 5
  unfold payloadLength
  simp [hand, Nat.shiftRight_eq_div_pow]
  omega

end Header

namespace Frame

variable {c : FrameConfig} {f : Frame} {h : Header} {window payload : Bytes}

/-! ## The seal of a frame -/

/-- The bytes of a frame that its checksum covers: the header in front of the
check word, and the payload. -/
def covered (window : Bytes) : Bytes :=
  window.take 6 ++ window.drop headerSize

/-- The check word of a frame. -/
def checkField (window : Bytes) : Bytes :=
  (window.drop 6).take 2

/-- **The check word is the checksum** of the bytes that it covers. -/
def Sealed (window : Bytes) : Prop :=
  checkField window = LittleEndian.bytes16 (Crc.checksum (covered window))

/-- The covered bytes and the check word are all there is. -/
theorem eq_of_covered {a b : Bytes} (hlen : a.length = b.length)
    (hcovered : covered a = covered b) (hcheck : checkField a = checkField b) : a = b := by
  have hsplit (l : Bytes) : l = l.take 6 ++ (checkField l ++ l.drop headerSize) := by
    unfold checkField
    rw [show headerSize = 6 + 2 from rfl, ← List.drop_drop, List.take_append_drop,
      List.take_append_drop]
  obtain ⟨hhead, htail⟩ := List.append_inj hcovered <| by
    rw [List.length_take, List.length_take, hlen]
  rw [hsplit a, hsplit b, hhead, hcheck, htail]

/-- A header with a payload behind it is sealed if its check word passes. -/
theorem sealed_iff_verify :
    Sealed (h.bytes ++ payload) ↔ verify h (h.bytes.take 6) payload .crc16 = .ok () := by
  have hfield : checkField (h.bytes ++ payload) = LittleEndian.bytes16 h.checkWord :=
    (LittleEndian.bytes16_word16 h.check0 h.check1).symm
  have hsum : Crc.checksum (covered (h.bytes ++ payload))
      = Crc.update (Crc.checksum (h.bytes.take 6)) payload :=
    Crc.update_append _ (h.bytes.take 6) payload
  unfold Sealed
  rw [hfield, hsum, verify_crc16_eq_ok_iff]
  exact ⟨LittleEndian.bytes16_inj, congrArg LittleEndian.bytes16⟩

/-- **What is written is sealed.** -/
theorem sealed_wire (f : Frame) (hi : c.integrity = .crc16) : Sealed (f.wire c) := by
  rw [wire_eq_bytes_append, hi, sealed_iff_verify]
  exact f.verify_header .crc16

/-- **What is not sealed is refused**, as soon as it is there as a whole. -/
theorem decode_of_not_sealed (hi : c.integrity = .crc16)
    (hlength : h.payloadLength = payload.length) (hfit : payload.length ≤ c.payloadLimit)
    (hbroken : ¬ Sealed (h.bytes ++ payload)) :
    ∃ stored computed,
      decode (h.bytes ++ payload) c = .error (.checksumMismatch stored computed) := by
  have hwhole : (h.bytes ++ payload).length = h.frameLength := by
    rw [List.length_append, Header.length_bytes, Header.frameLength, hlength]
  have hpayload : (h.bytes ++ payload).drop headerSize = payload := rfl
  have hcovered : (h.bytes ++ payload).take 6 = h.bytes.take 6 := rfl
  rw [sealed_iff_verify, verify_crc16_eq_ok_iff] at hbroken
  refine ⟨h.checkWord, Crc.update (Crc.checksum (h.bytes.take 6)) payload,
    decode_of_verify_error (Header.parse_bytes_append h payload) ?_ (by omega) ?_⟩
  · rw [hlength]
    exact hfit
  · rw [← hwhole, List.take_length, hpayload, hcovered, hi, verify_crc16_of_ne hbroken]

/-! ## Alterations that leave the framing alone -/

/-- Two byte strings are looked at as frames of the same extent: as many bytes,
the same first byte and the same thirteen bits of length. -/
structure SameFraming (a b : Bytes) : Prop where
  length : a.length = b.length
  sync : a[0]? = b[0]?
  low : a[4]? = b[4]?
  high : a[5]?.map (· &&& 0x1F) = b[5]?.map (· &&& 0x1F)

/-- What has the framing of a frame is a header and a payload, of the length that
the frame has. -/
theorem SameFraming.exists_header (hsame : SameFraming window (f.wire c))
    (hfit : f.payload.length ≤ c.payloadLimit) :
    ∃ (h : Header) (payload : Bytes), window = h.bytes ++ payload ∧
      payload.length = f.payload.length ∧ h.payloadLength = payload.length := by
  have hlen : window.length = headerSize + f.payload.length :=
    hsame.length.trans (f.length_wire c)
  have hsync : window.head? = some syncByte := by
    rw [List.head?_eq_getElem?, hsame.sync, wire_eq_bytes_append]
    rfl
  obtain ⟨h, hp⟩ := Header.exists_parse (by omega) hsync
  obtain ⟨payload, rfl⟩ := Header.eq_bytes_append_of_parse hp
  have hpayload : payload.length = f.payload.length := by
    rw [List.length_append, Header.length_bytes] at hlen
    omega
  refine ⟨h, payload, rfl, hpayload, ?_⟩
  have hlow := hsame.low
  have hhigh := hsame.high
  rw [wire_eq_bytes_append] at hlow hhigh
  have hlow : h.lengthWord.toUInt8 = (f.header c.integrity).lengthWord.toUInt8 :=
    Option.some.inj hlow
  have hhigh : (h.lengthWord >>> 8).toUInt8 &&& (0x1F : UInt8)
      = ((f.header c.integrity).lengthWord >>> 8).toUInt8 &&& (0x1F : UInt8) :=
    Option.some.inj hhigh
  rw [hpayload, ← f.payloadLength_header c c.integrity hfit, h.payloadLength_eq,
    Header.payloadLength_eq, hlow, hhigh]

/-- **The alterations that a checksum always notices.** -/
inductive Noticeable (a b : Bytes) : Prop
  /-- All bits altered lie within sixteen in a row of the covered bytes. -/
  | burst (start n : Nat) (hn : n ≤ 16) (hcheck : checkField a = checkField b)
      (hagree : Crc.AgreeOutside start n (Crc.bitString (covered a)) (Crc.bitString (covered b)))
  /-- The check word alone was altered. -/
  | checkWord (hcovered : covered a = covered b)
  /-- An odd number of bits was altered, in the covered bytes and the check word
  together. -/
  | odd (hodd : (Crc.bitErrors (covered a) (covered b)
      + Crc.bitErrors (checkField a) (checkField b)) % 2 = 1)

/-- What is sealed has an even number of ones. -/
theorem Sealed.parity_eq (hsealed : Sealed window) :
    Crc.parity (Crc.bitString (checkField window))
      = Crc.parity (Crc.bitString (covered window)) := by
  rw [hsealed, Crc.parity_checksum]

theorem length_covered {a b : Bytes} (hlen : a.length = b.length) :
    (covered a).length = (covered b).length := by
  unfold covered
  simp [hlen]

theorem length_checkField {a b : Bytes} (hlen : a.length = b.length) :
    (checkField a).length = (checkField b).length := by
  unfold checkField
  simp [hlen]

/-- **A noticeable alteration breaks the seal.** -/
theorem Noticeable.eq_of_sealed {a b : Bytes} (halter : Noticeable a b) (hlen : a.length = b.length)
    (ha : Sealed a) (hb : Sealed b) : a = b := by
  cases halter with
  | burst start n hn hcheck hagree =>
    refine eq_of_covered hlen (Crc.bitString_injective ?_) hcheck
    have hsum : Crc.checksum (covered a) = Crc.checksum (covered b) :=
      LittleEndian.bytes16_inj (ha.symm.trans (hcheck.trans hb))
    rw [Crc.checksum_eq_foldl, Crc.checksum_eq_foldl] at hsum
    refine Crc.eq_of_burst hn ?_ hagree hsum
    rw [Crc.length_bitString, Crc.length_bitString, length_covered hlen]
  | checkWord hcovered =>
    refine eq_of_covered hlen hcovered ?_
    rw [ha, hb, hcovered]
  | odd hodd =>
    have hcovered := Crc.bitErrors_mod_two (length_covered hlen)
    have hcheck := Crc.bitErrors_mod_two (length_checkField hlen)
    rw [ha.parity_eq, hb.parity_eq] at hcheck
    omega

/-- **What a checksum notices.** Let a frame be written with a checksum, and let
other bytes of the same framing be read in its place. They are refused for their
checksum if the bits altered lie within sixteen in a row of the covered bytes, or
if the check word alone was altered, or if an odd number of bits was. -/
theorem decode_of_altered (hi : c.integrity = .crc16) {wire : Bytes}
    (hwire : f.encode c = .ok wire) (hsame : SameFraming window wire) (hne : window ≠ wire)
    (halter : Noticeable window wire) :
    ∃ stored computed, decode window c = .error (.checksumMismatch stored computed) := by
  obtain ⟨hfit, rfl⟩ := encode_eq_ok hwire
  have hbroken : ¬ Sealed window := fun hsealed =>
    hne (halter.eq_of_sealed hsame.length hsealed (f.sealed_wire hi))
  obtain ⟨h, payload, rfl, hpayload, hlength⟩ := hsame.exists_header hfit
  exact decode_of_not_sealed hi hlength (hpayload ▸ hfit) hbroken

/-- One alteration of each kind: a burst that reaches over the check word from
the flags into the payload, the check word alone, and three bits far from each
other. -/
theorem decode_of_altered_kinds :
    let f : Frame := { seq := 7, component := 1, data := 2, flags := 5, payload := [0xA0, 3, 9] }
    let wire : Bytes := [0xA0, 7, 1, 2, 3, 0xA0, 0x47, 0x89, 0xA0, 3, 9]
    let burst : Bytes := [0xA0, 7, 1, 2, 3, 0x60, 0x47, 0x89, 0x5F, 3, 9]
    let check : Bytes := [0xA0, 7, 1, 2, 3, 0xA0, 0x47, 0x91, 0xA0, 3, 9]
    let odd : Bytes := [0xA0, 6, 1, 2, 3, 0xA0, 0x07, 0x89, 0xA0, 3, 0x89]
    f.encode {} = .ok wire ∧
      (∃ stored computed, decode burst {} = .error (.checksumMismatch stored computed)) ∧
      (∃ stored computed, decode check {} = .error (.checksumMismatch stored computed)) ∧
      ∃ stored computed, decode odd {} = .error (.checksumMismatch stored computed) := by
  intro f wire burst check odd
  have hwire : f.encode {} = .ok wire := by
    rw [encode_of_length_le (by decide)]
    exact congrArg Except.ok (by decide +kernel)
  refine ⟨hwire, ?_, ?_, ?_⟩
  · exact decode_of_altered rfl hwire ⟨rfl, rfl, rfl, rfl⟩ (by decide)
      (.burst 40 16 (by decide) rfl (by decide))
  · exact decode_of_altered rfl hwire ⟨rfl, rfl, rfl, rfl⟩ (by decide) (.checkWord rfl)
  · exact decode_of_altered rfl hwire ⟨rfl, rfl, rfl, rfl⟩ (by decide) (.odd (by decide +kernel))

end Frame

end ServoLink
