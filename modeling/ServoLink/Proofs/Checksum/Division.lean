import Mathlib.Algebra.Field.ZMod
import Mathlib.Algebra.Polynomial.Div
import Mathlib.Algebra.CharP.Two
import Mathlib.Tactic.ComputeDegree
import Mathlib.Tactic.LinearCombination
import ServoLink.Proofs.Checksum.Detection

/-!
# The checksum is a remainder

Bits are the coefficients of a polynomial over the field with two elements. A row of bits has
its first one as the leading coefficient, and a register has its bits as the coefficients up
to that of `x^15`. Taking one bit into the register multiplies by `x`, adds the bit as that of
`x^16`, and takes the generator off if there is an `x^16` now (`Crc.ofRegister_bitStep`).

So the bits of a byte string leave in the register the remainder of a division by the
generator, and the table comes to the same (`Crc.update_is_division`). What is divided is the
data, with room for sixteen bits behind it and the register on top.
-/

namespace ServoLink.Crc

open Polynomial

/-! ## Bits as coefficients -/

/-- The coefficient that a bit is. -/
def coefficient (bit : Bool) : ZMod 2 :=
  if bit then 1 else 0

/-- Exclusive or is addition. -/
theorem coefficient_xor (a b : Bool) : coefficient (a ^^ b) = coefficient a + coefficient b := by
  cases a <;> cases b <;> decide

/-- The polynomial of a row of bits, the first of them leading. -/
noncomputable def ofBits (bits : List Bool) : (ZMod 2)[X] :=
  bits.foldl (fun p bit => p * X + C (coefficient bit)) 0

/-- One more bit makes room for itself. -/
theorem ofBits_concat (bits : List Bool) (bit : Bool) :
    ofBits (bits ++ [bit]) = ofBits bits * X + C (coefficient bit) := by
  unfold ofBits
  rw [List.foldl_append]
  rfl

/-- The polynomial of a register. -/
noncomputable def ofRegister (r : UInt16) : (ZMod 2)[X] :=
  ∑ i ∈ Finset.range 16, C (coefficient (r.toNat.testBit i)) * X ^ i

/-- What the register is divided by. -/
noncomputable def divisor : (ZMod 2)[X] :=
  X ^ 16 + X ^ 12 + X ^ 5 + 1

/-- The coefficients of a register are its bits. -/
theorem coeff_ofRegister (r : UInt16) (k : Nat) :
    (ofRegister r).coeff k = coefficient (r.toNat.testBit k) := by
  unfold ofRegister
  rw [finsetSum_coeff]
  simp only [coeff_C_mul, coeff_X_pow, mul_ite, mul_one, mul_zero, Finset.sum_ite_eq,
    Finset.mem_range]
  by_cases hk : k < 16
  · rw [if_pos hk]
  · have hpow : 2 ^ 16 ≤ 2 ^ k := Nat.pow_le_pow_right (by decide) (Nat.not_lt.1 hk)
    rw [if_neg hk, Nat.testBit_lt_two_pow (Nat.lt_of_lt_of_le r.toNat_lt hpow)]
    rfl

theorem ofRegister_xor (a b : UInt16) : ofRegister (a ^^^ b) = ofRegister a + ofRegister b := by
  ext k
  rw [coeff_add, coeff_ofRegister, coeff_ofRegister, coeff_ofRegister, UInt16.toNat_xor,
    Nat.testBit_xor, coefficient_xor]

/-- Moving the register up multiplies by `x`, but for the bit that goes out. -/
theorem ofRegister_shiftLeft (r : UInt16) :
    ofRegister r * X
      = ofRegister (r <<< 1) + C (coefficient (r.toNat.testBit 15)) * X ^ 16 := by
  ext k
  rw [coeff_add, coeff_C_mul, coeff_X_pow, coeff_ofRegister]
  cases k with
  | zero =>
    rw [coeff_mul_X_zero, testBit_shiftLeft_one r (by decide)]
    simp [coefficient]
  | succ k =>
    rw [coeff_mul_X, coeff_ofRegister]
    by_cases hk : k + 1 < 16
    · rw [testBit_shiftLeft_one r hk, if_neg (by omega)]
      simp
    · have hout : (r <<< 1).toNat.testBit (k + 1) = false :=
        Nat.testBit_lt_two_pow (Nat.lt_of_lt_of_le (r <<< 1).toNat_lt
          (Nat.pow_le_pow_right (by decide) (Nat.not_lt.1 hk)))
      rw [hout]
      by_cases hlast : k = 15
      · rw [hlast, if_pos rfl]
        simp [coefficient]
      · have hnone : r.toNat.testBit k = false :=
          Nat.testBit_lt_two_pow (Nat.lt_of_lt_of_le r.toNat_lt
            (Nat.pow_le_pow_right (by decide) (by omega)))
        rw [hnone, if_neg (by omega)]
        simp [coefficient]

/-- The generator is the divisor without its leading term. -/
theorem ofRegister_generator : ofRegister generator = X ^ 12 + X ^ 5 + 1 := by
  have hbits : generator.toNat = 2 ^ 12 ^^^ 2 ^ 5 ^^^ 2 ^ 0 := by decide
  have hone (i k : Nat) : coefficient ((2 ^ i).testBit k) = ((X : (ZMod 2)[X]) ^ i).coeff k := by
    rw [Nat.testBit_two_pow, coeff_X_pow]
    simp [coefficient, eq_comm]
  ext k
  rw [coeff_ofRegister, hbits, Nat.testBit_xor, Nat.testBit_xor, coefficient_xor, coefficient_xor,
    hone, hone, hone, ← coeff_add, ← coeff_add, pow_zero]

/-! ## Division -/

theorem monic_divisor : divisor.Monic := by
  unfold divisor
  monicity!

theorem degree_divisor : divisor.degree = 16 := by
  unfold divisor
  compute_degree!

/-- A bit that goes out and differs from the data bit turns over the bits of the generator. -/
theorem bitStep_eq_xor (r : UInt16) (bit : Bool) :
    bitStep r bit = (r <<< 1) ^^^ if r.toNat.testBit 15 ^^ bit then generator else 0 := by
  unfold bitStep
  rw [and_top_bne_zero]
  cases r.toNat.testBit 15 <;> cases bit <;> simp

/-- **Taking in a bit is a step of the division**: the register makes room, the bit is added at
the top, and the divisor is taken off if it goes in once. -/
theorem ofRegister_bitStep (r : UInt16) (bit : Bool) :
    ofRegister (bitStep r bit)
      = ofRegister r * X + C (coefficient bit) * X ^ 16
        + C (coefficient (r.toNat.testBit 15 ^^ bit)) * divisor := by
  have htwo : (2 : (ZMod 2)[X]) = 0 := CharTwo.two_eq_zero
  have hdivisor : divisor = X ^ 16 + ofRegister generator := by
    rw [ofRegister_generator, divisor, add_assoc, add_assoc, add_assoc]
  have hoff (b : Bool) : ofRegister (if b then generator else 0)
      = C (coefficient b) * ofRegister generator := by
    cases b with
    | false => simp [coefficient, ofRegister]
    | true => simp [coefficient]
  rw [bitStep_eq_xor, ofRegister_xor, hoff, ofRegister_shiftLeft, hdivisor, coefficient_xor, C_add]
  -- the two ways of adding the top bit cancel out
  linear_combination
    (-(C (coefficient (r.toNat.testBit 15)) + C (coefficient bit)) * X ^ 16) * htwo

/-- **The bits of a row leave a remainder** of what they are as a polynomial, with the register
they began with on top. -/
theorem ofRegister_foldl (r : UInt16) (bits : List Bool) :
    ∃ q, ofRegister (bits.foldl bitStep r) + divisor * q
      = ofRegister r * X ^ bits.length + ofBits bits * X ^ 16 := by
  induction bits using List.reverseRecOn with
  | nil => exact ⟨0, by simp [ofBits]⟩
  | append_singleton bits bit ih =>
    obtain ⟨q, hq⟩ := ih
    let taken := C (coefficient ((bits.foldl bitStep r).toNat.testBit 15 ^^ bit))
    refine ⟨q * X - taken, ?_⟩
    rw [List.foldl_append, List.foldl_cons, List.foldl_nil, ofRegister_bitStep, ofBits_concat,
      List.length_append, List.length_singleton, pow_succ]
    linear_combination X * hq

/-- A register has no `x^16`. -/
theorem degree_ofRegister_lt (r : UInt16) : (ofRegister r).degree < divisor.degree := by
  rw [degree_divisor]
  refine (degree_lt_iff_coeff_zero _ 16).2 fun k hk => ?_
  rw [coeff_ofRegister, Nat.testBit_lt_two_pow
    (Nat.lt_of_lt_of_le r.toNat_lt (Nat.pow_le_pow_right (by decide) hk))]
  rfl

/-- What dividing a byte string leaves, with room for sixteen bits behind it and a register on
top. -/
noncomputable def remainder (register : UInt16) (data : Bytes) : (ZMod 2)[X] :=
  (ofRegister register * X ^ (8 * data.length) + ofBits (bitString data) * X ^ 16) %ₘ divisor

/-- The bits of a byte string leave the remainder in the register. -/
theorem ofRegister_serial (register : UInt16) (data : Bytes) :
    ofRegister (serial register data) = remainder register data := by
  obtain ⟨q, hq⟩ := ofRegister_foldl register (bitString data)
  unfold remainder
  rw [← length_bitString]
  exact (div_modByMonic_unique q _ monic_divisor ⟨hq, degree_ofRegister_lt _⟩).2.symm

/-- **The table divides.** From every register on, the byte string is taken in as it would be bit
by bit, and what it leaves is the remainder of the division by `x^16 + x^12 + x^5 + 1`; so the
checksum is what is left from sixteen ones on. It may be taken in parts, wherever they are
cut. -/
theorem update_is_division (register : UInt16) (data : Bytes) :
    update register data = serial register data ∧
      ofRegister (update register data) = remainder register data ∧
      checksum data = serial 0xFFFF data ∧
      ofRegister (checksum data) = remainder 0xFFFF data ∧
      ∀ more, update register (data ++ more) = update (update register data) more := by
  have hserial (r : UInt16) : update r data = serial r data := update_eq_foldl r data
  have hchecksum : checksum data = serial 0xFFFF data := hserial 0xFFFF
  refine ⟨hserial register, ?_, hchecksum, ?_, update_append register data⟩
  · rw [hserial, ofRegister_serial]
  · rw [hchecksum, ofRegister_serial]

/-- The value by which the checksum is known. -/
example : checksum [0x31, 0x32, 0x33, 0x34, 0x35, 0x36, 0x37, 0x38, 0x39] = 0x29B1 := by
  decide +kernel

end ServoLink.Crc
