/-!
# Byte strings and little-endian words

Everything a link carries is a byte string, and every number in it is written
with its low byte first. This module fixes the byte strings and the reading
and writing of 16- and 32-bit words; its statements say that a word written is
the word read back, and that two (or four) bytes read are the bytes written.
-/

namespace ServoLink

/-- A byte string. -/
abbrev Bytes := List UInt8

namespace LittleEndian

/-- The two bytes of a 16-bit word, low byte first. -/
def bytes16 (w : UInt16) : Bytes :=
  [w.toUInt8, (w >>> 8).toUInt8]

/-- The 16-bit word whose low and high byte are given. -/
def word16 (b0 b1 : UInt8) : UInt16 :=
  b0.toUInt16 + 256 * b1.toUInt16

/-- The four bytes of a 32-bit word, low byte first. -/
def bytes32 (w : UInt32) : Bytes :=
  [w.toUInt8, (w >>> 8).toUInt8, (w >>> 16).toUInt8, (w >>> 24).toUInt8]

/-- The 32-bit word whose four bytes are given, low byte first. -/
def word32 (b0 b1 b2 b3 : UInt8) : UInt32 :=
  b0.toUInt32 + 256 * b1.toUInt32 + 65536 * b2.toUInt32 + 16777216 * b3.toUInt32

@[simp] theorem length_bytes16 (w : UInt16) : (bytes16 w).length = 2 := rfl

@[simp] theorem length_bytes32 (w : UInt32) : (bytes32 w).length = 4 := rfl

theorem toNat_word16 (b0 b1 : UInt8) :
    (word16 b0 b1).toNat = b0.toNat + 256 * b1.toNat := by
  have h0 := b0.toNat_lt
  have h1 := b1.toNat_lt
  simp [word16, UInt16.toNat_add, UInt16.toNat_mul]
  omega

theorem toNat_word32 (b0 b1 b2 b3 : UInt8) :
    (word32 b0 b1 b2 b3).toNat
      = b0.toNat + 256 * b1.toNat + 65536 * b2.toNat + 16777216 * b3.toNat := by
  have h0 := b0.toNat_lt
  have h1 := b1.toNat_lt
  have h2 := b2.toNat_lt
  have h3 := b3.toNat_lt
  simp [word32, UInt32.toNat_add, UInt32.toNat_mul]
  omega

/-- **A 16-bit word survives the wire.** -/
theorem word16_bytes16 (w : UInt16) :
    word16 w.toUInt8 (w >>> 8).toUInt8 = w := by
  apply UInt16.toNat_inj.1
  have h := w.toNat_lt
  simp [toNat_word16, Nat.shiftRight_eq_div_pow]
  omega

/-- **A 32-bit word survives the wire.** -/
theorem word32_bytes32 (w : UInt32) :
    word32 w.toUInt8 (w >>> 8).toUInt8 (w >>> 16).toUInt8 (w >>> 24).toUInt8 = w := by
  apply UInt32.toNat_inj.1
  have h := w.toNat_lt
  simp [toNat_word32, Nat.shiftRight_eq_div_pow]
  omega

/-- No two words have the same bytes. -/
theorem bytes16_inj {v w : UInt16} (h : bytes16 v = bytes16 w) : v = w := by
  obtain ⟨hlow, hrest⟩ := List.cons.inj h
  rw [← word16_bytes16 v, ← word16_bytes16 w, hlow, (List.cons.inj hrest).1]

/-- **Two bytes survive being read as a word.** -/
theorem bytes16_word16 (b0 b1 : UInt8) : bytes16 (word16 b0 b1) = [b0, b1] := by
  have h0 := b0.toNat_lt
  have h1 := b1.toNat_lt
  simp only [bytes16, List.cons.injEq, and_true]
  constructor
  · apply UInt8.toNat_inj.1
    simp [toNat_word16]
  · apply UInt8.toNat_inj.1
    simp [toNat_word16, Nat.shiftRight_eq_div_pow]
    omega

/-- **Four bytes survive being read as a word.** -/
theorem bytes32_word32 (b0 b1 b2 b3 : UInt8) :
    bytes32 (word32 b0 b1 b2 b3) = [b0, b1, b2, b3] := by
  have h0 := b0.toNat_lt
  have h1 := b1.toNat_lt
  have h2 := b2.toNat_lt
  have h3 := b3.toNat_lt
  simp only [bytes32, List.cons.injEq, and_true]
  refine ⟨?_, ?_, ?_, ?_⟩ <;> apply UInt8.toNat_inj.1 <;>
    simp [toNat_word32, Nat.shiftRight_eq_div_pow] <;> omega

end LittleEndian

end ServoLink
