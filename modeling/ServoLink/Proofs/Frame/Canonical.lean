import ServoLink.Proofs.Frame.ReadBack

/-!
# Every frame accepted is a frame written

A reader accepts byte strings that no writer it knows of has written, so it is
not enough that it reads back what is written. Beside a checksum there is no
choice left: the bytes of a frame that is read are the bytes that writing it
gives, so no two byte strings are read as one frame. Where nothing is checked,
two places of a header say nothing: the second byte of the check word, and the
flag bits above the length, which are read from the check word instead. Writing
fills both in its own way, and changes nothing else (`Frame.encode_of_decode`).
-/

namespace ServoLink

namespace Header

/-- The bytes of a header. -/
def bytes (h : Header) : Bytes :=
  syncByte :: h.seq :: h.component :: h.data ::
    (LittleEndian.bytes16 h.lengthWord ++ [h.check0, h.check1])

@[simp] theorem length_bytes (h : Header) : h.bytes.length = headerSize := rfl

/-- **A header that is read stands at the front**, byte for byte. -/
theorem eq_bytes_append_of_parse {window : Bytes} {h : Header}
    (hp : parse window = .ok (some h)) : ∃ rest, window = h.bytes ++ rest := by
  unfold parse at hp
  split at hp
  · simp at hp
  · rename_i first rest
    split at hp
    · simp at hp
    · rename_i hsync
      split at hp
      · rename_i seq component data l0 l1 check0 check1 rest
        obtain rfl := Option.some.inj (Except.ok.inj hp)
        refine ⟨rest, ?_⟩
        rw [Decidable.not_not.1 hsync, bytes, LittleEndian.bytes16_word16]
        rfl
      · simp at hp

/-- Headers that declare one length and differ in nothing but their length words
and last bytes have the same bytes, but for the flag bits and the last byte. -/
theorem getElem?_bytes_append {h : Header} {word : UInt16} (check1 : UInt8) (payload : Bytes)
    (hword : word.toNat % 8192 = h.lengthWord.toNat % 8192) :
    let bytes : Bytes := { h with lengthWord := word, check1 }.bytes ++ payload
    (∀ i, i ≠ 5 → i ≠ 7 → bytes[i]? = (h.bytes ++ payload)[i]?) ∧
      bytes[5]?.map (· &&& 0x1F) = (h.bytes ++ payload)[5]?.map (· &&& 0x1F) := by
  intro bytes
  have hlow : word.toUInt8 = h.lengthWord.toUInt8 := by
    apply UInt8.toNat_inj.1
    simp only [UInt16.toNat_toUInt8]
    omega
  have hhigh : (word >>> 8).toUInt8 &&& (0x1F : UInt8)
      = (h.lengthWord >>> 8).toUInt8 &&& (0x1F : UInt8) := by
    have hand : ∀ n : Nat, n &&& 31 = n % 32 := fun n => Nat.and_two_pow_sub_one_eq_mod n 5
    apply UInt8.toNat_inj.1
    simp [hand, Nat.shiftRight_eq_div_pow]
    omega
  refine ⟨fun i h5 h7 => ?_, ?_⟩
  · match i with
    | 0 | 1 | 2 | 3 | 6 => rfl
    | 4 => exact congrArg some hlow
    | 5 => exact absurd rfl h5
    | 7 => exact absurd rfl h7
    | _ + 8 => rfl
  · exact congrArg some hhigh

end Header

namespace Frame

variable {window : Bytes} {c : FrameConfig} {f : Frame} {n : Nat}

/-! ## What a frame was read from -/

/-- The frame that a header and the payload behind it stand for. -/
def ofHeader (h : Header) (i : Integrity) (payload : Bytes) : Frame where
  seq := h.seq
  component := h.component
  data := h.data
  flags := h.flags i
  payload := payload

/-- **A frame that is read is its header and its payload**: they are the bytes
taken, the length declared is the length of the payload and within the limit,
and the check word passes. -/
theorem exists_header_of_decode (hd : decode window c = .ok (some (f, n))) :
    ∃ h : Header, f = ofHeader h c.integrity f.payload ∧
      window.take n = h.bytes ++ f.payload ∧ n = headerSize + f.payload.length ∧
      h.payloadLength = f.payload.length ∧ f.payload.length ≤ c.payloadLimit ∧
      verify h (h.bytes.take 6) f.payload c.integrity = .ok () := by
  have hp : ∃ h, Header.parse window = .ok (some h) := by
    rcases hw : Header.parse window with e | _ | h
    · rw [decode_of_parse_error hw] at hd
      cases hd
    · rw [decode_of_parse_none hw] at hd
      cases hd
    · exact ⟨h, rfl⟩
  obtain ⟨h, hp⟩ := hp
  rw [decode_of_header hp] at hd
  obtain ⟨rest, rfl⟩ := Header.eq_bytes_append_of_parse hp
  split at hd
  · cases hd
  · rename_i hlimit
    split at hd
    · cases hd
    · rename_i hwhole
      -- behind the header stand at least the bytes that it declares
      have hrest : h.payloadLength ≤ rest.length := by
        rw [List.length_append, Header.length_bytes, Header.frameLength] at hwhole
        omega
      have htaken : (h.bytes ++ rest).take h.frameLength
          = h.bytes ++ rest.take h.payloadLength := by
        rw [Header.frameLength, ← h.length_bytes, List.take_length_add_append]
      have hpayload : (h.bytes ++ rest.take h.payloadLength).drop headerSize
          = rest.take h.payloadLength := by
        rw [← h.length_bytes, List.drop_left]
      have hcovered : (h.bytes ++ rest).take 6 = h.bytes.take 6 := rfl
      rw [htaken, hpayload, hcovered] at hd
      split at hd
      · cases hd
      · rename_i hverify
        obtain ⟨rfl, rfl⟩ := Prod.mk.inj (Option.some.inj (Except.ok.inj hd))
        have hlength : (rest.take h.payloadLength).length = h.payloadLength := by
          rw [List.length_take, Nat.min_eq_left hrest]
        refine ⟨h, rfl, htaken, ?_, hlength.symm, ?_, hverify⟩
        · show h.frameLength = headerSize + (rest.take h.payloadLength).length
          rw [hlength, Header.frameLength]
        · show (rest.take h.payloadLength).length ≤ c.payloadLimit
          rw [hlength]
          exact Nat.not_lt.1 hlimit

/-- **The extent of a frame that is read**: a header and the payload, no longer
than the bytes at hand and than the longest frame. -/
theorem extent_of_decode (hd : decode window c = .ok (some (f, n))) :
    n = headerSize + f.payload.length ∧ n ≤ window.length ∧ n ≤ c.maxFrameLength := by
  obtain ⟨h, -, -, rfl, -, hfit, -⟩ := exists_header_of_decode hd
  exact ⟨rfl, (length_of_decode hd).2, Nat.add_le_add_left hfit headerSize⟩

/-! ## Writing it again -/

/-- What is written for a frame is its header and its payload. -/
theorem wire_eq_bytes_append (f : Frame) (c : FrameConfig) :
    f.wire c = (f.header c.integrity).bytes ++ f.payload := by
  unfold wire
  cases c.integrity <;> rfl

variable {h : Header} {payload : Bytes}

/-- The length is declared as it was. -/
theorem toNat_lengthWord_ofHeader (i : Integrity) (hlength : h.payloadLength = payload.length) :
    (ofHeader h i payload).lengthWord.toNat % 8192 = h.lengthWord.toNat % 8192 := by
  rw [toNat_lengthWord]
  show ((h.flags i).toNat % 8 * 8192 + payload.length % 8192) % 8192 = h.payloadLength
  rw [hlength]
  have hlt : payload.length < 8192 := by
    rw [← hlength]
    exact Nat.mod_lt _ (by decide)
  omega

/-- Beside a checksum the length word holds the length and all flags there are,
so it is written as it was. -/
theorem lengthWord_ofHeader_crc16 (hlength : h.payloadLength = payload.length) :
    (ofHeader h .crc16 payload).lengthWord = h.lengthWord := by
  have hword := h.lengthWord.toNat_lt
  have hlow : h.lengthWord.toNat % 8192 = payload.length := hlength
  have hflags : (h.flags .crc16).toNat = h.lengthWord.toNat / 8192 := by
    show (UInt8.ofNat (h.lengthWord.toNat / 8192)).toNat = _
    rw [UInt8.toNat_ofNat']
    omega
  apply UInt16.toNat_inj.1
  rw [toNat_lengthWord]
  show (h.flags .crc16).toNat % 8 * 8192 + payload.length % 8192 = _
  rw [hflags]
  omega

/-- **Beside a checksum a header that was read is written again**, whole. -/
theorem header_ofHeader_crc16 (hlength : h.payloadLength = payload.length)
    (hverify : verify h (h.bytes.take 6) payload .crc16 = .ok ()) :
    (ofHeader h .crc16 payload).header .crc16 = h := by
  have hword := lengthWord_ofHeader_crc16 hlength
  have hcovered : (ofHeader h .crc16 payload).checkedHeader = h.bytes.take 6 := by
    unfold checkedHeader
    rw [hword]
    rfl
  -- the check word passed, so it is the checksum that is written
  have hcheck : Crc.update (Crc.checksum (h.bytes.take 6)) payload = h.checkWord :=
    (verify_crc16_eq_ok_iff.1 hverify).symm
  have hbytes := LittleEndian.bytes16_word16 h.check0 h.check1
  rw [show LittleEndian.word16 h.check0 h.check1 = h.checkWord from rfl] at hbytes
  obtain ⟨hcheck0, hbytes⟩ := List.cons.inj hbytes
  obtain ⟨hcheck1, -⟩ := List.cons.inj hbytes
  unfold header
  rw [hcovered, hword]
  show (⟨h.seq, h.component, h.data, h.lengthWord, _, _⟩ : Header) = h
  rw [show (ofHeader h .crc16 payload).payload = payload from rfl, hcheck, hcheck0, hcheck1]

/-- **Where nothing is checked a header is written again** but for the flag bits
of its length word and the last byte. -/
theorem header_ofHeader_unchecked :
    (ofHeader h .unchecked payload).header .unchecked
      = { h with lengthWord := (ofHeader h .unchecked payload).lengthWord, check1 := 0 } :=
  rfl

/-- **Writing undoes reading.** A frame that was read can be written under the
same settings. Beside a checksum this gives the bytes it was read from. Where
nothing is checked it gives as many bytes, the same but for the last byte of the
header and the three bits above the length, and they are read as the same
frame. -/
theorem encode_of_decode (hd : decode window c = .ok (some (f, n))) :
    ∃ bytes, f.encode c = .ok bytes ∧
      (c.integrity = .crc16 → bytes = window.take n) ∧
      (c.integrity = .unchecked → bytes.length = n ∧
        (∀ i, i ≠ 5 → i ≠ 7 → bytes[i]? = (window.take n)[i]?) ∧
        bytes[5]?.map (· &&& 0x1F) = (window.take n)[5]?.map (· &&& 0x1F) ∧
        decode bytes c = .ok (some (f, n))) := by
  obtain ⟨h, hf, htaken, hn, hlength, hfit, hverify⟩ := exists_header_of_decode hd
  refine ⟨f.wire c, encode_of_length_le hfit, fun hi => ?_, fun hi => ?_⟩
  · rw [hi] at hf hverify
    rw [wire_eq_bytes_append, hi, htaken, hf, header_ofHeader_crc16 hlength hverify]
  · rw [hi] at hf
    have hword := toNat_lengthWord_ofHeader .unchecked hlength
    have hsame := Header.getElem?_bytes_append 0 f.payload hword
    rw [← header_ofHeader_unchecked, ← hf, ← hi, ← wire_eq_bytes_append, ← htaken] at hsame
    have hread := f.decode_wire_append c [] hfit
    have hreceived : f.received c = f := by
      unfold received
      rw [hi]
    rw [List.append_nil, hreceived, wireSize, ← hn] at hread
    refine ⟨?_, hsame.1, hsame.2, hread⟩
    rw [f.length_wire, wireSize, hn]

/-- Both kinds of check word: one is written as it was read, and of the other a
byte and three bits of the length word are not. -/
theorem encode_of_decode_both :
    let checked : Bytes := [0xA0, 0, 1, 1, 0, 0, 0xBC, 0xAE, 0xA0, 7]
    let loose : Bytes := [0xA0, 1, 2, 3, 2, 0xE0, 9, 0x5A, 0xA0, 7, 99]
    let f : Frame := { component := 1, data := 1 }
    let g : Frame := { seq := 1, component := 2, data := 3, flags := 9, payload := [0xA0, 7] }
    (decode checked {} = .ok (some (f, 8)) ∧ f.encode {} = .ok (checked.take 8)) ∧
    decode loose { integrity := .unchecked } = .ok (some (g, 10)) ∧
    g.encode { integrity := .unchecked } = .ok [0xA0, 1, 2, 3, 2, 0x20, 9, 0, 0xA0, 7] ∧
    decode [0xA0, 1, 2, 3, 2, 0x20, 9, 0, 0xA0, 7] { integrity := .unchecked }
      = .ok (some (g, 10)) := by
  intro checked loose f g
  have hchecked : decode checked {} = .ok (some (f, 8)) := by
    have hwire : checked = f.wire {} ++ [0xA0, 7] := by decide +kernel
    have hreceived : f.received {} = f := by decide
    rw [hwire, f.decode_wire_append {} [0xA0, 7] (by decide), hreceived]
    rfl
  have hloose : decode loose { integrity := .unchecked } = .ok (some (g, 10)) := rfl
  have hwritten : g.encode { integrity := .unchecked }
      = .ok [0xA0, 1, 2, 3, 2, 0x20, 9, 0, 0xA0, 7] := by
    rw [encode_of_length_le (by decide)]
    exact congrArg Except.ok (by decide)
  obtain ⟨bytes, hbytes, hsame, -⟩ := encode_of_decode hchecked
  obtain ⟨again, hagain, -, hread⟩ := encode_of_decode hloose
  obtain rfl := Except.ok.inj (hagain.symm.trans hwritten)
  refine ⟨⟨hchecked, ?_⟩, hloose, hwritten, (hread rfl).2.2.2⟩
  rw [hbytes, hsame rfl]

end Frame

end ServoLink
