import ServoLink.Proofs.Checksum.Serial

/-!
# What a checksum tells of an error

Two properties of the register say which errors the checksum sees, however long
the data is. No two registers come to the same one behind the same bits, and from
one register no two strings of at most sixteen bits lead to the same one; so
errors within sixteen bits in a row always change the checksum
(`Crc.eq_of_burst`). And a shift does not change whether the number of ones in
the register is odd, so the parity of the data goes through to the checksum
(`Crc.parity_update`).
-/

namespace ServoLink.Crc

/-! ## Data as a string of bits -/

/-- The bits of a byte string, each byte most significant bit first. -/
def bitString (data : Bytes) : List Bool :=
  data.flatMap bits

/-- Every byte has eight bits. -/
theorem length_bitString (data : Bytes) : (bitString data).length = 8 * data.length := by
  induction data with
  | nil => rfl
  | cons byte data ih =>
    show (bits byte ++ bitString data).length = 8 * (data.length + 1)
    rw [List.length_append, length_bits, ih, Nat.mul_add, Nat.add_comm]

theorem bits_injective : Function.Injective bits := by
  intro a b h
  have hword : a.toUInt16 <<< 8 = b.toUInt16 <<< 8 := by
    rw [← word_bits, ← word_bits, h]
  apply UInt8.toNat_inj.1
  refine Nat.eq_of_testBit_eq fun i => ?_
  by_cases hi : i < 8
  · have hbit := congrArg (fun r : UInt16 => r.toNat.testBit (i + 8)) hword
    rwa [testBit_upper a (by omega), testBit_upper b (by omega), Nat.add_sub_cancel,
      decide_eq_true (Nat.le_add_left 8 i), Bool.true_and, Bool.true_and] at hbit
  · have hpow : 2 ^ 8 ≤ 2 ^ i := Nat.pow_le_pow_right (by decide) (Nat.not_lt.1 hi)
    rw [Nat.testBit_lt_two_pow (Nat.lt_of_lt_of_le a.toNat_lt hpow),
      Nat.testBit_lt_two_pow (Nat.lt_of_lt_of_le b.toNat_lt hpow)]

/-- The bits of a byte string tell the byte string. -/
theorem bitString_injective : Function.Injective bitString := by
  intro a b h
  have hlen := congrArg List.length h
  rw [length_bitString, length_bitString] at hlen
  induction a generalizing b with
  | nil => exact (List.length_eq_zero_iff.1 (by simpa using hlen.symm)).symm
  | cons x a ih =>
    cases b with
    | nil => simp at hlen
    | cons y b =>
      obtain ⟨hbits, hrest⟩ := List.append_inj h rfl
      rw [bits_injective hbits, ih hrest (by simpa using hlen)]

/-- The checksum, taken through the bits. -/
theorem checksum_eq_foldl (data : Bytes) :
    checksum data = (bitString data).foldl bitStep initial :=
  update_eq_foldl initial data

/-! ## Errors in a row -/

/-- Two strings of bits differ in nothing but `n` bits in a row. -/
def AgreeOutside (start n : Nat) (a b : List Bool) : Prop :=
  a.take start = b.take start ∧ a.drop (start + n) = b.drop (start + n)

instance (start n : Nat) (a b : List Bool) : Decidable (AgreeOutside start n a b) :=
  inferInstanceAs (Decidable (_ ∧ _))

/-- **The same bits lead from different registers to different registers.** -/
theorem foldl_bitStep_injective (bits : List Bool) :
    Function.Injective fun r => bits.foldl bitStep r := by
  induction bits with
  | nil => exact fun _ _ h => h
  | cons bit bits ih =>
    intro a b h
    have hstep : bitStep a bit = bitStep b bit := ih h
    rw [bitStep_eq, bitStep_eq] at hstep
    exact (UInt16.xor_left_inj _).1 (shift_injective hstep)

/-- **Different short strings lead from one register to different registers.** -/
theorem eq_of_foldl_bitStep {r : UInt16} {a b : List Bool} (hlen : a.length = b.length)
    (hshort : a.length ≤ 16) (h : a.foldl bitStep r = b.foldl bitStep r) : a = b := by
  rw [foldl_bitStep r hshort, foldl_bitStep r (hlen ▸ hshort), ← hlen] at h
  have hword := shift_injective.iterate a.length h
  exact word_inj hlen hshort ((UInt16.xor_right_inj _).1 hword)

/-- **An error within sixteen bits in a row changes the register**, wherever it
lies and whatever the rest is. -/
theorem eq_of_burst {r : UInt16} {a b : List Bool} {start n : Nat} (hn : n ≤ 16)
    (hlen : a.length = b.length) (hagree : AgreeOutside start n a b)
    (h : a.foldl bitStep r = b.foldl bitStep r) : a = b := by
  obtain ⟨hfront, hback⟩ := hagree
  have hsplit (l : List Bool) :
      l = l.take start ++ ((l.drop start).take n ++ l.drop (start + n)) := by
    rw [← List.drop_drop, List.take_append_drop, List.take_append_drop]
  have hburst : (a.drop start).take n = (b.drop start).take n := by
    rw [hsplit a, hsplit b, List.foldl_append, List.foldl_append, List.foldl_append,
      List.foldl_append, hfront, hback] at h
    refine eq_of_foldl_bitStep ?_ ?_ (foldl_bitStep_injective _ h)
    · rw [List.length_take, List.length_take, List.length_drop, List.length_drop, hlen]
    · rw [List.length_take]
      exact Nat.le_trans (Nat.min_le_left _ _) hn
  rw [hsplit a, hsplit b, hfront, hburst, hback]

/-! ## Parity -/

/-- Whether the number of ones is odd. -/
def parity (bits : List Bool) : Bool :=
  bits.foldr (· ^^ ·) false

@[simp] theorem parity_nil : parity [] = false := rfl

@[simp] theorem parity_cons (bit : Bool) (bits : List Bool) :
    parity (bit :: bits) = (bit ^^ parity bits) := rfl

theorem parity_append (front back : List Bool) :
    parity (front ++ back) = (parity front ^^ parity back) := by
  induction front with
  | nil => exact (Bool.false_xor _).symm
  | cons bit front ih => rw [List.cons_append, parity_cons, parity_cons, ih, Bool.xor_assoc]

theorem parity_reverse (bits : List Bool) : parity bits.reverse = parity bits := by
  induction bits with
  | nil => rfl
  | cons bit bits ih =>
    rw [List.reverse_cons, parity_append, ih, parity_cons, parity_cons, parity_nil, Bool.xor_false,
      Bool.xor_comm]

/-- Where two strings of bits are combined, so are their parities. -/
theorem parity_zipWith {a b : List Bool} (hlen : a.length = b.length) :
    parity (List.zipWith (· ^^ ·) a b) = (parity a ^^ parity b) := by
  induction a generalizing b with
  | nil =>
    obtain rfl := List.length_eq_zero_iff.1 hlen.symm
    rfl
  | cons x a ih =>
    cases b with
    | nil => simp at hlen
    | cons y b =>
      rw [List.zipWith_cons_cons, parity_cons, parity_cons, parity_cons,
        ih (Nat.succ.inj hlen), Bool.xor_assoc, Bool.xor_left_comm y, ← Bool.xor_assoc x]

/-- The parity is that of the number of ones. -/
theorem count_true_mod_two (bits : List Bool) : bits.count true % 2 = (parity bits).toNat := by
  induction bits with
  | nil => rfl
  | cons bit bits ih =>
    rw [List.count_cons, parity_cons]
    cases bit <;> cases hparity : parity bits <;> rw [hparity] at ih <;> simp at ih ⊢ <;> omega

/-- The parity of a register. -/
def registerParity (r : UInt16) : Bool :=
  parity ((List.range 16).map r.toNat.testBit)

theorem registerParity_xor (a b : UInt16) :
    registerParity (a ^^^ b) = (registerParity a ^^ registerParity b) := by
  unfold registerParity
  rw [← parity_zipWith (by simp), List.zipWith_map, List.zipWith_self]
  congr
  funext i
  rw [UInt16.toNat_xor, Nat.testBit_xor]

/-- Moving a register up loses its top bit. -/
theorem registerParity_shiftLeft (r : UInt16) :
    registerParity (r <<< 1) = (registerParity r ^^ r.toNat.testBit 15) := by
  have hmoved : (List.range 16).map (r <<< 1).toNat.testBit
      = false :: (List.range 15).map r.toNat.testBit := by
    rw [List.range_succ_eq_map, List.map_cons, List.map_map, testBit_shiftLeft_one r (by decide)]
    refine congrArg _ (List.map_congr_left fun i hi => ?_)
    have hlt : i < 15 := List.mem_range.1 hi
    exact testBit_shiftLeft_one r (show i + 1 < 16 by omega)
  have hlast : (List.range 16).map r.toNat.testBit
      = (List.range 15).map r.toNat.testBit ++ [r.toNat.testBit 15] := by
    rw [List.range_succ, List.map_append]
    rfl
  unfold registerParity
  rw [hmoved, hlast, parity_append]
  simp

/-- **A shift keeps the parity**: the one that goes out and the three bits that
are turned over for it make four. -/
theorem registerParity_shift (r : UInt16) : registerParity (shift r) = registerParity r := by
  rw [shift_eq, registerParity_xor, registerParity_shiftLeft]
  cases r.toNat.testBit 15 with
  | false => exact (Bool.xor_false _).trans (Bool.xor_false _)
  | true =>
    show (registerParity r ^^ true ^^ true) = registerParity r
    rw [Bool.xor_assoc, Bool.xor_self, Bool.xor_false]

/-- Every bit taken in goes into the parity of the register. -/
theorem registerParity_foldl (r : UInt16) (bits : List Bool) :
    registerParity (bits.foldl bitStep r) = (registerParity r ^^ parity bits) := by
  induction bits generalizing r with
  | nil => exact (Bool.xor_false _).symm
  | cons bit bits ih =>
    have htop : registerParity (onTop bit) = bit := by cases bit <;> rfl
    rw [List.foldl_cons, ih, bitStep_eq, registerParity_shift, registerParity_xor, htop,
      parity_cons, Bool.xor_assoc]

/-- The two bytes of a register have its parity. -/
theorem parity_bytes16 (r : UInt16) :
    parity (bitString (LittleEndian.bytes16 r)) = registerParity r := by
  have hbyte (byte : UInt8) : parity (bits byte) = parity ((List.range 8).map byte.toNat.testBit) :=
    parity_reverse ((List.range 8).map byte.toNat.testBit)
  have hlow : (List.range 8).map r.toUInt8.toNat.testBit = (List.range 8).map r.toNat.testBit := by
    refine List.map_congr_left fun i hi => ?_
    rw [UInt16.toNat_toUInt8, Nat.testBit_mod_two_pow, decide_eq_true (List.mem_range.1 hi),
      Bool.true_and]
  have hhigh : (List.range 8).map (r >>> 8).toUInt8.toNat.testBit
      = ((List.range 8).map (8 + ·)).map r.toNat.testBit := by
    rw [List.map_map]
    refine List.map_congr_left fun i hi => ?_
    rw [UInt16.toNat_toUInt8, Nat.testBit_mod_two_pow, decide_eq_true (List.mem_range.1 hi),
      Bool.true_and, UInt16.toNat_shiftRight]
    exact Nat.testBit_shiftRight r.toNat
  have hrange : List.range 16 = List.range 8 ++ (List.range 8).map (8 + ·) := rfl
  show parity (bits r.toUInt8 ++ (bits (r >>> 8).toUInt8 ++ [])) = _
  unfold registerParity
  rw [List.append_nil, parity_append, hbyte, hbyte, hlow, hhigh, hrange, List.map_append,
    parity_append]

/-- **The checksum has the parity of the data.** -/
theorem parity_checksum (data : Bytes) :
    parity (bitString (LittleEndian.bytes16 (checksum data))) = parity (bitString data) := by
  have hinitial : registerParity initial = false := by decide
  rw [parity_bytes16, checksum_eq_foldl, registerParity_foldl, hinitial, Bool.false_xor]

/-- The number of bits in which two byte strings differ. -/
def bitErrors (a b : Bytes) : Nat :=
  (List.zipWith (· ^^ ·) (bitString a) (bitString b)).count true

/-- An odd number of errors turns the parity over. -/
theorem bitErrors_mod_two {a b : Bytes} (hlen : a.length = b.length) :
    bitErrors a b % 2 = (parity (bitString a) ^^ parity (bitString b)).toNat := by
  have hbits : (bitString a).length = (bitString b).length := by
    rw [length_bitString, length_bitString, hlen]
  unfold bitErrors
  rw [count_true_mod_two, parity_zipWith hbits]

end ServoLink.Crc
