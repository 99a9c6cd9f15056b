import Mathlib.Data.Nat.Bitwise
import Mathlib.Logic.Function.Iterate
import ServoLink.Crc

/-!
# The table and the single bits

The checksum is taken a byte at a time from a table, but what it can tell of an
error is a matter of single bits. The bridge between the two is that a shift is
linear in exclusive or (`Crc.shift_xor`): data bits may be put on top of the
register all at once, and be shifted out from there, as long as the register has
room for them (`Crc.foldl_bitStep`). A byte is eight of them, so one look-up in
the table is eight single steps (`Crc.step_eq`), and the register runs through
the bits of the data one by one (`Crc.update_eq_foldl`).
-/

namespace ServoLink.Crc

/-! ## The bits of a register -/

/-- Registers with the same sixteen bits are the same. -/
theorem ext_testBit {a b : UInt16} (h : ∀ i < 16, a.toNat.testBit i = b.toNat.testBit i) :
    a = b := by
  apply UInt16.toNat_inj.1
  refine Nat.eq_of_testBit_eq fun i => ?_
  by_cases hi : i < 16
  · exact h i hi
  · have hpow : 2 ^ 16 ≤ 2 ^ i := Nat.pow_le_pow_right (by decide) (Nat.not_lt.1 hi)
    rw [Nat.testBit_lt_two_pow (Nat.lt_of_lt_of_le a.toNat_lt hpow),
      Nat.testBit_lt_two_pow (Nat.lt_of_lt_of_le b.toNat_lt hpow)]

/-- Masking out the top bit tells what it is. -/
theorem and_top_bne_zero (r : UInt16) : (r &&& 0x8000 != 0) = r.toNat.testBit 15 := by
  have hand : (r &&& 0x8000).toNat = (r.toNat.testBit 15).toNat * 2 ^ 15 :=
    (UInt16.toNat_and _ _).trans (Nat.and_two_pow r.toNat 15)
  cases htop : r.toNat.testBit 15 with
  | false =>
    rw [htop] at hand
    rw [show r &&& 0x8000 = 0 from UInt16.toNat_inj.1 hand]
    rfl
  | true =>
    rw [htop] at hand
    refine bne_iff_ne.2 fun hzero => ?_
    rw [hzero] at hand
    exact absurd hand (by decide)

/-- The bits of a register that is moved up. -/
theorem testBit_shiftLeft_one (r : UInt16) {i : Nat} (hi : i < 16) :
    (r <<< 1).toNat.testBit i = (decide (1 ≤ i) && r.toNat.testBit (i - 1)) := by
  rw [UInt16.toNat_shiftLeft, Nat.testBit_mod_two_pow, decide_eq_true hi, Bool.true_and]
  exact Nat.testBit_shiftLeft r.toNat

/-- The bits of a register that is moved down. -/
theorem testBit_shiftRight_one (r : UInt16) (i : Nat) :
    (r >>> 1).toNat.testBit i = r.toNat.testBit (i + 1) := by
  rw [UInt16.toNat_shiftRight, Nat.add_comm i 1]
  exact Nat.testBit_shiftRight r.toNat

/-! ## Shifts -/

/-- A shift moves every bit up, and turns over the bits of the generator where a
one went out. -/
theorem shift_eq (r : UInt16) :
    shift r = (r <<< 1) ^^^ (if r.toNat.testBit 15 then generator else 0) := by
  have htop := and_top_bne_zero r
  unfold shift
  cases h : r.toNat.testBit 15 with
  | false =>
    rw [h, bne_eq_false_iff_eq] at htop
    rw [if_pos htop]
    exact UInt16.xor_zero.symm
  | true =>
    rw [h, bne_iff_ne] at htop
    rw [if_neg htop]
    rfl

/-- **A shift is linear.** -/
theorem shift_xor (a b : UInt16) : shift (a ^^^ b) = shift a ^^^ shift b := by
  rw [shift_eq, shift_eq, shift_eq, UInt16.shiftLeft_xor, UInt16.toNat_xor, Nat.testBit_xor]
  cases a.toNat.testBit 15 <;> cases b.toNat.testBit 15 <;> simp [← UInt16.xor_assoc]
  · ac_rfl
  · -- both generators are taken off
    rw [UInt16.xor_assoc (a <<< 1), UInt16.xor_comm generator, ← UInt16.xor_assoc,
      UInt16.xor_assoc _ generator, UInt16.xor_self, UInt16.xor_zero]

theorem iterate_shift_xor (n : Nat) (a b : UInt16) :
    shift^[n] (a ^^^ b) = shift^[n] a ^^^ shift^[n] b := by
  induction n generalizing a b with
  | zero => rfl
  | succ n ih => rw [Function.iterate_succ_apply, shift_xor, ih]; rfl

/-- Nothing but zero is shifted to zero: what comes in below is a one where a
one went out above. -/
theorem eq_zero_of_shift {r : UInt16} (h : shift r = 0) : r = 0 := by
  have hbit (i : Nat) (hi : i < 16) : (shift r).toNat.testBit i = false := by
    rw [h]
    exact Nat.zero_testBit i
  rw [shift_eq] at hbit
  have htop : r.toNat.testBit 15 = false := by
    have hlow := hbit 0 (by decide)
    rw [UInt16.toNat_xor, Nat.testBit_xor, testBit_shiftLeft_one r (by decide)] at hlow
    cases htop : r.toNat.testBit 15 with
    | false => rfl
    | true =>
      -- the lowest bit is that of the generator
      rw [htop, if_pos rfl] at hlow
      simp [generator] at hlow
  refine ext_testBit fun i hi => ?_
  rw [UInt16.toNat_zero, Nat.zero_testBit]
  by_cases hlast : i = 15
  · rw [hlast, htop]
  · have hnext := hbit (i + 1) (by omega)
    rw [htop, if_neg Bool.false_ne_true, UInt16.xor_zero,
      testBit_shiftLeft_one r (by omega)] at hnext
    simpa using hnext

/-- **No two registers are shifted to the same.** -/
theorem shift_injective : Function.Injective shift := by
  intro a b h
  have hzero : shift (a ^^^ b) = 0 := by
    rw [shift_xor, h, UInt16.xor_self]
  exact UInt16.xor_eq_zero_iff.1 (eq_zero_of_shift hzero)

/-- While no one goes out, shifts move the register up. -/
theorem toNat_iterate_shift (n : Nat) {r : UInt16} (h : r.toNat * 2 ^ n < 2 ^ 16) :
    (shift^[n] r).toNat = r.toNat * 2 ^ n := by
  induction n generalizing r with
  | zero => exact (Nat.mul_one _).symm
  | succ n ih =>
    have hsplit : r.toNat * 2 ^ (n + 1) = r.toNat * 2 * 2 ^ n := by
      rw [Nat.pow_succ, Nat.mul_comm (2 ^ n), Nat.mul_assoc]
    have hdouble : r.toNat * 2 < 2 ^ 16 :=
      Nat.lt_of_le_of_lt (Nat.le_mul_of_pos_right _ (Nat.two_pow_pos n)) (hsplit ▸ h)
    have htop : r.toNat.testBit 15 = false := Nat.testBit_lt_two_pow (by omega)
    have hshift : (shift r).toNat = r.toNat * 2 := by
      rw [shift_eq, htop, if_neg Bool.false_ne_true, UInt16.xor_zero, UInt16.toNat_shiftLeft]
      rw [show UInt16.toNat 1 % 16 = 1 from rfl, Nat.shiftLeft_eq, Nat.pow_one]
      exact Nat.mod_eq_of_lt hdouble
    rw [Function.iterate_succ_apply, ih (by rw [hshift, ← hsplit]; exact h), hshift, hsplit]

/-! ## Data bits on top of the register -/

/-- The register with one data bit on top and nothing below. -/
def onTop (bit : Bool) : UInt16 :=
  if bit then 0x8000 else 0

theorem testBit_onTop (bit : Bool) (i : Nat) :
    (onTop bit).toNat.testBit i = (bit && decide (i = 15)) := by
  cases bit with
  | false => exact Nat.zero_testBit i
  | true =>
    show (2 ^ 15).testBit i = _
    rw [Nat.testBit_two_pow, Bool.true_and]
    exact decide_eq_decide.2 eq_comm

/-- **Taking in a bit is a shift** of the register with the bit put on top. -/
theorem bitStep_eq (r : UInt16) (bit : Bool) : bitStep r bit = shift (r ^^^ onTop bit) := by
  have hmoved : onTop bit <<< 1 = 0 := by cases bit <;> rfl
  have htop : (r ^^^ onTop bit).toNat.testBit 15 = (r.toNat.testBit 15 ^^ bit) := by
    rw [UInt16.toNat_xor, Nat.testBit_xor, testBit_onTop]
    simp
  rw [shift_eq, UInt16.shiftLeft_xor, hmoved, UInt16.xor_zero, htop]
  unfold bitStep
  rw [and_top_bne_zero]
  cases r.toNat.testBit 15 <;> cases bit <;> simp

/-- The register with some data bits on top, the first of them uppermost. -/
def word : List Bool → UInt16
  | [] => 0
  | bit :: bits => onTop bit ^^^ (word bits >>> 1)

/-- The bits put on top are found there, and zeros below them. -/
theorem testBit_word (bits : List Bool) {i : Nat} (hi : i < 16) :
    (word bits).toNat.testBit i = bits.getD (15 - i) false := by
  induction bits generalizing i with
  | nil => exact Nat.zero_testBit i
  | cons bit bits ih =>
    rw [word, UInt16.toNat_xor, Nat.testBit_xor, testBit_onTop, testBit_shiftRight_one]
    by_cases hlast : i = 15
    · have hout : (word bits).toNat.testBit 16 = false :=
        Nat.testBit_lt_two_pow (word bits).toNat_lt
      rw [hlast, hout]
      simp
    · rw [ih (by omega), show 15 - i = 15 - (i + 1) + 1 by omega, List.getD_cons_succ]
      simp [hlast]

/-- Bits that were put on top can be told from each other. -/
theorem word_inj {a b : List Bool} (hlen : a.length = b.length) (ha : a.length ≤ 16)
    (h : word a = word b) : a = b := by
  refine List.ext_getElem hlen fun i hia hib => ?_
  have hbit := congrArg (fun r : UInt16 => r.toNat.testBit (15 - i)) h
  simp only [testBit_word _ (show 15 - i < 16 by omega)] at hbit
  rwa [show 15 - (15 - i) = i by omega, List.getD_eq_getElem _ _ hia,
    List.getD_eq_getElem _ _ hib] at hbit

/-- While there is room, a shift moves the bits on top back up. -/
theorem shift_word {bits : List Bool} (h : bits.length ≤ 15) :
    shift (word bits >>> 1) = word bits := by
  have htop : (word bits >>> 1).toNat.testBit 15 = false := by
    rw [testBit_shiftRight_one]
    exact Nat.testBit_lt_two_pow (word bits).toNat_lt
  rw [shift_eq, htop, if_neg Bool.false_ne_true, UInt16.xor_zero]
  refine ext_testBit fun i hi => ?_
  rw [testBit_shiftLeft_one _ hi, testBit_shiftRight_one]
  by_cases hi0 : i = 0
  · have hclear : (word bits).toNat.testBit 0 = false := by
      rw [testBit_word bits (by decide), List.getD_eq_default _ _ h]
    rw [hi0, hclear]
    rfl
  · rw [show i - 1 + 1 = i by omega, decide_eq_true (by omega), Bool.true_and]

/-- **Bits taken in one by one may be put on top at once**, as far as there is
room for them. -/
theorem foldl_bitStep (r : UInt16) {bits : List Bool} (h : bits.length ≤ 16) :
    bits.foldl bitStep r = shift^[bits.length] (r ^^^ word bits) := by
  induction bits generalizing r with
  | nil => exact UInt16.xor_zero.symm
  | cons bit bits ih =>
    have hroom : bits.length ≤ 15 := Nat.le_of_succ_le_succ h
    rw [List.foldl_cons, ih _ (by omega), List.length_cons, Function.iterate_succ_apply,
      bitStep_eq, word, ← UInt16.xor_assoc, shift_xor _ (word bits >>> 1), shift_word hroom]

/-! ## A byte at a time -/

@[simp] theorem length_bits (byte : UInt8) : (bits byte).length = 8 := rfl

/-- The bits of a byte in the upper half of a register. -/
theorem testBit_upper (byte : UInt8) {i : Nat} (hi : i < 16) :
    (byte.toUInt16 <<< 8).toNat.testBit i = (decide (8 ≤ i) && byte.toNat.testBit (i - 8)) := by
  rw [UInt16.toNat_shiftLeft, Nat.testBit_mod_two_pow, decide_eq_true hi, Bool.true_and,
    UInt8.toNat_toUInt16]
  exact Nat.testBit_shiftLeft byte.toNat

/-- The bits of a byte, put on top, are the byte in the upper half. -/
theorem word_bits (byte : UInt8) : word (bits byte) = byte.toUInt16 <<< 8 := by
  refine ext_testBit fun i hi => ?_
  rw [testBit_word _ hi, testBit_upper byte hi]
  by_cases hlow : i < 8
  · rw [List.getD_eq_default _ _ (by rw [length_bits]; omega), decide_eq_false (by omega)]
    rfl
  · obtain ⟨j, rfl⟩ : ∃ j, i = j + 8 := ⟨i - 8, by omega⟩
    have hj : j < 8 := by omega
    rw [Nat.add_sub_cancel, decide_eq_true (Nat.le_add_left 8 j)]
    match j with
    | 0 | 1 | 2 | 3 | 4 | 5 | 6 | 7 => rfl
    | _ + 8 => omega

/-- What the register and a byte put on top of it come to: the table is asked for
the upper half, and the lower half stays. -/
theorem xor_upper (r : UInt16) (byte : UInt8) :
    r ^^^ (byte.toUInt16 <<< 8)
      = (r &&& (0xFF : UInt16)) ^^^ (((r >>> 8).toUInt8 ^^^ byte).toUInt16 <<< 8) := by
  have hlower (i : Nat) : (r &&& (0xFF : UInt16)).toNat.testBit i
      = (decide (i < 8) && r.toNat.testBit i) := by
    rw [UInt16.toNat_and, show UInt16.toNat 0xFF = 2 ^ 8 - 1 from rfl,
      Nat.and_two_pow_sub_one_eq_mod, Nat.testBit_mod_two_pow]
  have hupper (j : Nat) (hj : j < 8) : (r >>> 8).toUInt8.toNat.testBit j
      = r.toNat.testBit (j + 8) := by
    rw [UInt16.toNat_toUInt8, Nat.testBit_mod_two_pow, decide_eq_true hj, Bool.true_and,
      UInt16.toNat_shiftRight, Nat.add_comm]
    exact Nat.testBit_shiftRight r.toNat
  refine ext_testBit fun i hi => ?_
  simp only [UInt16.toNat_xor, Nat.testBit_xor, testBit_upper _ hi, UInt8.toNat_xor, hlower]
  by_cases hlow : i < 8
  · rw [decide_eq_true hlow, decide_eq_false (by omega)]
    simp
  · rw [decide_eq_false hlow, decide_eq_true (by omega), hupper _ (by omega),
      show i - 8 + 8 = i by omega]
    simp

/-- What stands in the table for a byte. -/
theorem get_table (byte : UInt8) :
    table.get ⟨byte.toNat, byte.toNat_lt⟩ = shift^[8] (byte.toUInt16 <<< 8) := by
  have hword : UInt16.ofNat byte.toNat = byte.toUInt16 :=
    UInt16.toNat_inj.1 (UInt16.toNat_ofNat_of_lt' (Nat.lt_trans byte.toNat_lt (by decide)))
  unfold table
  rw [← hword]
  exact Vector.getElem_ofFn byte.toNat_lt

/-- The lower half of a register is moved to the upper half. -/
theorem iterate_shift_lower (r : UInt16) : shift^[8] (r &&& (0xFF : UInt16)) = r <<< 8 := by
  have hlower : (r &&& (0xFF : UInt16)).toNat = r.toNat % 256 :=
    (UInt16.toNat_and _ _).trans (Nat.and_two_pow_sub_one_eq_mod r.toNat 8)
  apply UInt16.toNat_inj.1
  rw [toNat_iterate_shift 8 (by rw [hlower]; omega), hlower, UInt16.toNat_shiftLeft,
    show UInt16.toNat 8 % 16 = 8 from rfl, Nat.shiftLeft_eq]
  omega

/-- **One look-up in the table is eight single steps.** -/
theorem step_eq (r : UInt16) (byte : UInt8) : step r byte = (bits byte).foldl bitStep r := by
  have hroom : (bits byte).length ≤ 16 := by
    rw [length_bits]
    decide
  rw [foldl_bitStep r hroom, length_bits, word_bits, xor_upper, iterate_shift_xor,
    iterate_shift_lower]
  exact congrArg (r <<< 8 ^^^ ·) (get_table _)

/-- **The register runs through the data bit by bit.** -/
theorem update_eq_foldl (r : UInt16) (data : Bytes) :
    update r data = (data.flatMap bits).foldl bitStep r := by
  rw [List.foldl_flatMap]
  unfold update
  congr
  funext r byte
  exact step_eq r byte

end ServoLink.Crc
