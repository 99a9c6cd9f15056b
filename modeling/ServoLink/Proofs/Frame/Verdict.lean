import ServoLink.Proofs.Frame.Canonical

/-!
# Verdicts and waiting

Reading from the front of a buffer ends in a verdict, a frame or an error, or in
the answer that bytes are missing. A verdict is final: whatever arrives behind it,
it is given again. The answer that bytes are missing is given exactly where the
bytes at hand can be the beginning of a frame: where there are none, where a sync
byte starts less than a header, and where the length declared is within the limit
and less than that has arrived (`Frame.verdict_final`).

What a buffer declares is said here on its bytes (`Frame.declaredLength`), not on
the header that is read from it.
-/

namespace ServoLink

namespace Frame

/-- **The payload length that is declared** in the fifth and sixth byte of a byte
string, with the low byte first: thirteen bits of it. -/
def declaredLength : Bytes → Option Nat
  | _ :: _ :: _ :: _ :: low :: high :: _ => some ((low.toNat + 256 * high.toNat) % 8192)
  | _ => none

end Frame

namespace Header

variable {window : Bytes} {h : Header}

/-- A header that is read starts with the sync byte. -/
theorem head?_of_parse (hp : parse window = .ok (some h)) : window.head? = some syncByte := by
  obtain ⟨rest, rfl⟩ := eq_bytes_append_of_parse hp
  rfl

/-- A header that is read has the length that its bytes declare. -/
theorem declaredLength_of_parse (hp : parse window = .ok (some h)) :
    Frame.declaredLength window = some h.payloadLength := by
  obtain ⟨rest, rfl⟩ := eq_bytes_append_of_parse hp
  have hword : h.lengthWord.toNat
      = h.lengthWord.toUInt8.toNat + 256 * (h.lengthWord >>> 8).toUInt8.toNat := by
    rw [← LittleEndian.toNat_word16, LittleEndian.word16_bytes16]
  rw [payloadLength, hword]
  rfl

/-- **A header is waited for** where there is nothing at all, or a sync byte with
less than seven bytes behind it. -/
theorem parse_eq_none_iff :
    parse window = .ok none
      ↔ window = [] ∨ window.head? = some syncByte ∧ window.length < headerSize := by
  constructor
  · intro hp
    have hshort : window.length < headerSize := Nat.not_le.1 fun hlen => parse_ne_none hlen hp
    cases window with
    | nil => exact .inl rfl
    | cons first rest =>
      by_cases hsync : first = syncByte
      · exact .inr ⟨congrArg some hsync, hshort⟩
      · rw [parse_cons_of_ne rest hsync] at hp
        cases hp
  · rintro (rfl | ⟨hsync, hshort⟩)
    · rfl
    · rcases hp : parse window with e | _ | h
      · exact absurd hp (parse_ne_error hsync)
      · rfl
      · exact absurd (length_of_parse hp) (Nat.not_le.2 hshort)

end Header

namespace Frame

variable {window : Bytes} {c : FrameConfig}

/-- **Where bytes are missing**, said on the bytes at hand. -/
theorem decode_eq_none_iff :
    decode window c = .ok none
      ↔ window = [] ∨ window.head? = some syncByte ∧
          (window.length < headerSize ∨
            ∃ n, declaredLength window = some n ∧ n ≤ c.payloadLimit ∧
              window.length < headerSize + n) := by
  constructor
  · intro hd
    rcases cases_of_decode_none hd with ⟨hp, -⟩ | ⟨h, hp, hlimit, hshort⟩
    · rcases Header.parse_eq_none_iff.1 hp with hnil | ⟨hsync, hshort⟩
      · exact .inl hnil
      · exact .inr ⟨hsync, .inl hshort⟩
    · exact .inr ⟨Header.head?_of_parse hp,
        .inr ⟨h.payloadLength, Header.declaredLength_of_parse hp, hlimit, hshort⟩⟩
  · rintro (hnil | ⟨hsync, hshort | ⟨n, hn, hlimit, hshort⟩⟩)
    · exact decode_of_parse_none (Header.parse_eq_none_iff.2 (.inl hnil))
    · exact decode_of_parse_none (Header.parse_eq_none_iff.2 (.inr ⟨hsync, hshort⟩))
    · -- the length may be there before the header is
      rcases hp : Header.parse window with e | _ | h
      · exact absurd hp (Header.parse_ne_error hsync)
      · exact decode_of_parse_none hp
      · obtain rfl : h.payloadLength = n :=
          Option.some.inj ((Header.declaredLength_of_parse hp).symm.trans hn)
        exact decode_of_short hp hlimit hshort

/-- **A verdict is final.** A frame that is read from the front of some bytes is
read again when others follow, and takes as many bytes; it is a header and its
payload, within the bytes at hand and the longest frame. An error is met again as
it was. And bytes are waited for exactly where there are none, or where a sync
byte stands in front and the header, or the payload that it declares within the
limit, has not arrived whole. -/
theorem verdict_final (c : FrameConfig) (window : Bytes) :
    (∀ f n, decode window c = .ok (some (f, n)) →
      (∀ suffix, decode (window ++ suffix) c = .ok (some (f, n))) ∧
        n = headerSize + f.payload.length ∧ n ≤ window.length ∧ n ≤ c.maxFrameLength) ∧
    (∀ e, decode window c = .error e → ∀ suffix, decode (window ++ suffix) c = .error e) ∧
    (decode window c = .ok none
      ↔ window = [] ∨ window.head? = some syncByte ∧
          (window.length < headerSize ∨
            ∃ n, declaredLength window = some n ∧ n ≤ c.payloadLimit ∧
              window.length < headerSize + n)) := by
  refine ⟨fun f n hd => ⟨fun suffix => ?frame, extent_of_decode hd⟩, fun e hd suffix => ?error,
    decode_eq_none_iff⟩
  case frame => exact decode_append_of_frame suffix hd
  case error => exact decode_append_of_error suffix hd

/-- A verdict of each kind, and a payload of which a byte is missing. -/
theorem verdict_final_each :
    let whole : Bytes := [0xA0, 0, 1, 1, 0, 0, 0xBC, 0xAE]
    let oversized : Bytes := [0xA0, 0, 1, 1, 1, 2, 0, 0]
    let altered : Bytes := [0xA0, 0, 1, 1, 0, 0, 0xBC, 0xAF]
    let begun : Bytes := [0xA0, 0, 1, 1, 1, 0, 0xBC, 0xAE]
    (∀ suffix, decode (whole ++ suffix) {} = .ok (some ({ component := 1, data := 1 }, 8))) ∧
    (∀ suffix, decode ([0x55] ++ suffix) {} = .error (.invalidSync 0x55)) ∧
    (∀ suffix, decode (oversized ++ suffix) {} = .error (.payloadTooLarge 513 512)) ∧
    (∀ suffix, decode (altered ++ suffix) {} = .error (.checksumMismatch 0xAFBC 0xAEBC)) ∧
    decode begun {} = .ok none := by
  intro whole oversized altered begun
  have hwhole : decode whole {} = .ok (some ({ component := 1, data := 1 }, 8)) := by
    have hwire : whole = wire { component := 1, data := 1 } {} ++ [] := by decide +kernel
    rw [hwire, decode_wire_append _ _ _ (by decide)]
    rfl
  have haltered : decode altered {} = .error (.checksumMismatch 0xAFBC 0xAEBC) := by
    have hsum : Crc.update (Crc.checksum (altered.take 6)) [] = 0xAEBC := by decide +kernel
    refine decode_of_verify_error (h := ⟨0, 1, 1, 0, 0xBC, 0xAF⟩) rfl (by decide) (by decide) ?_
    show verify _ (altered.take 6) [] .crc16 = _
    rw [verify_crc16_of_ne (by rw [hsum]; decide), hsum]
    rfl
  refine ⟨?_, ?_, ?_, ?_, ?_⟩
  · exact ((verdict_final {} whole).1 _ _ hwhole).1
  · exact (verdict_final {} [0x55]).2.1 _ rfl
  · exact (verdict_final {} oversized).2.1 _ rfl
  · exact (verdict_final {} altered).2.1 _ haltered
  · exact (verdict_final {} begun).2.2.2 (.inr ⟨rfl, .inr ⟨1, rfl, by decide, by decide⟩⟩)

end Frame

end ServoLink
