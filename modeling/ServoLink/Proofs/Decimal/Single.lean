import ServoLink.Decimal.Single
import ServoLink.Proofs.Decimal.Shortest
import ServoLink.Proofs.Text.Digits

/-!
# Numbers of single precision are shown faithfully

A number of single precision is shown with digits that can be read back: what they denote is
nearer to this number than to any other of single precision (`Single.exists_writtenAs`). The
decimal that is found is close to the number even in double precision
(`Binary.IsSingle.shortest_close`), and the text denotes this decimal, wherever the point stands
in it and whether it has an exponent or not (`Decimal.scaled_render`).
-/

namespace ServoLink

open Numeral

/-! ## Numbers in writing -/

namespace Decimal

/-- **A number in digits**, with a point or without. -/
inductive Plain : List Char → ℚ → Prop
  | whole {text : List Char} {n : Nat} (h : Row text n) : Plain text n
  | point {whole part : List Char} {n : Nat} (hwhole : whole ≠ []) (hpart : part ≠ [])
    (h : Row (whole ++ part) n) : Plain (whole ++ '.' :: part) (n / 10 ^ part.length)

/-- **A number in digits, with an exponent** or without. -/
inductive Scaled : List Char → ℚ → Prop
  | plain {text : List Char} {q : ℚ} (h : Plain text q) : Scaled text q
  | up {text exponent : List Char} {q : ℚ} {k : Nat} (h : Plain text q) (hk : Row exponent k) :
    Scaled (text ++ 'e' :: '+' :: exponent) (q * 10 ^ k)
  | down {text exponent : List Char} {q : ℚ} {k : Nat} (h : Plain text q) (hk : Row exponent k) :
    Scaled (text ++ 'e' :: '-' :: exponent) (q / 10 ^ k)

/-- **A number in writing**: with a minus sign in front if it is `negative`. -/
inductive Written : (negative : Bool) → List Char → ℚ → Prop
  | plain {text : List Char} {q : ℚ} (h : Scaled text q) : Written false text q
  | minus {text : List Char} {q : ℚ} (h : Scaled text q) : Written true ('-' :: text) (-q)

/-! ## The text of a decimal -/

/-- Zeros at the end are moved into the exponent. -/
theorem value_strip (d : Decimal) (fuel : Nat) : (d.strip fuel).value = d.value := by
  induction fuel generalizing d with
  | zero => rfl
  | succ fuel ih =>
    unfold strip
    split
    · rename_i h
      have hdigits : (d.digits : ℚ) = (d.digits / 10 : Nat) * 10 := by
        exact_mod_cast (Nat.div_mul_cancel (Nat.dvd_of_mod_eq_zero h.2)).symm
      rw [ih, value, value, hdigits, zpow_add_one₀ (by norm_num)]
      ring
    · rfl

/-- Digits with a point among them. -/
theorem plain_pointAfter {digits : List Char} {n before : Nat} (h : Row digits n)
    (hpos : 0 < before) (hlt : before < digits.length) :
    Plain (pointAfter before digits).toList (n / 10 ^ (digits.length - before)) := by
  have htext : (pointAfter before digits).toList
      = digits.take before ++ '.' :: digits.drop before := by
    simp [pointAfter]
  rw [htext, ← List.length_drop]
  refine .point (List.ne_nil_of_length_pos ?_) (List.ne_nil_of_length_pos ?_) ?_
  · rw [List.length_take]
    omega
  · rw [List.length_drop]
    omega
  · rwa [List.take_append_drop]

/-- Digits with a signed exponent. -/
theorem scaled_exponent {mantissa : String} {q : ℚ} (h : Plain mantissa.toList q) (e : Int) :
    Scaled (mantissa ++ (if e < 0 then "e-" else "e+") ++ toString e.natAbs).toList
      (q * 10 ^ e) := by
  have hrow := row_toString e.natAbs
  rw [String.toList_append, String.toList_append, List.append_assoc]
  split
  · rename_i hneg
    have he : e = -(e.natAbs : Int) := by omega
    have hvalue : q * 10 ^ e = q / 10 ^ e.natAbs := by
      rw [div_eq_mul_inv, ← zpow_natCast, ← zpow_neg, ← he]
    rw [hvalue]
    exact .down h hrow
  · rename_i hpos
    have he : e = (e.natAbs : Int) := by omega
    have hvalue : q * 10 ^ e = q * 10 ^ e.natAbs := by
      rw [← zpow_natCast, ← he]
    rw [hvalue]
    exact .up h hrow

/-- **The text of a decimal denotes it.** -/
theorem scaled_render (d : Decimal) : Scaled d.render.toList d.value := by
  have hrow := row_toDigits d.digits
  have hsome : 0 < (Nat.toDigits 10 d.digits).length := Nat.length_toDigits_pos
  unfold render
  dsimp only
  generalize Nat.toDigits 10 d.digits = digits at hrow hsome ⊢
  -- how many digits stand behind the point, if there is one
  have hvalue (behind : Nat) (e : Int) (he : d.exponent = e - behind) :
      d.value = d.digits / 10 ^ behind * 10 ^ e := by
    rw [value, he, zpow_sub₀ (by norm_num), zpow_natCast]
    ring
  split
  · rename_i hwhole
    obtain ⟨k, hk⟩ := Int.eq_ofNat_of_zero_le hwhole.1
    have htext : (String.ofList digits ++ zeros d.exponent.toNat ++ ".0").toList
        = digits ++ List.replicate k '0' ++ '.' :: ['0'] := by
      simp [zeros, hk]
    have htenfold : d.value = (10 ^ 1 * (10 ^ k * d.digits) : Nat) / 10 ^ 1 := by
      rw [value, hk, zpow_natCast]
      push_cast
      ring
    rw [htext, htenfold]
    exact .plain (.point (hrow.append_zeros k).ne_nil (List.cons_ne_nil _ _)
      ((hrow.append_zeros k).append_zeros 1))
  rename_i hwhole
  split
  · rename_i hpoint
    obtain ⟨before, hbefore⟩ := Int.eq_ofNat_of_zero_le hpoint.1.le
    rw [hbefore, Int.toNat_natCast, hvalue (digits.length - before) 0 (by omega), zpow_zero,
      mul_one]
    exact .plain (plain_pointAfter hrow (by omega) (by omega))
  rename_i hpoint
  split
  · rename_i hzero
    obtain ⟨count, hcount⟩ := Int.eq_ofNat_of_zero_le (neg_nonneg.2 hzero.2)
    have htext : ("0." ++ zeros count ++ String.ofList digits).toList
        = ['0'] ++ '.' :: (List.replicate count '0' ++ digits) := by
      simp [zeros]
    have hlength : (List.replicate count '0' ++ digits).length = count + digits.length := by
      rw [List.length_append, List.length_replicate]
    rw [hcount, Int.toNat_natCast, htext, hvalue (count + digits.length) 0 (by omega), zpow_zero,
      mul_one, ← hlength]
    exact .plain (.point (List.cons_ne_nil _ _) (hrow.zeros_append count).ne_nil
      ((hrow.zeros_append count).zeros_append 1))
  · have hmantissa : Plain (if digits.length = 1 then String.ofList digits
        else pointAfter 1 digits).toList (d.digits / 10 ^ (digits.length - 1)) := by
      split
      · rename_i hone
        rw [hone, Nat.sub_self, pow_zero, div_one, String.toList_ofList]
        exact .whole hrow
      · exact plain_pointAfter hrow Nat.one_pos (by omega)
    rw [hvalue (digits.length - 1) (digits.length + d.exponent - 1) (by omega)]
    exact scaled_exponent hmantissa _

end Decimal

/-! ## Numbers of single precision -/

namespace Binary

variable {b : Binary}

/-- **A mantissa and an exponent of single precision**: the leading digit of the mantissa is in its
place, unless the exponent is the least one. -/
structure IsSingle (b : Binary) : Prop where
  mantissa_lt : b.mantissa < 2 ^ 24
  le_exponent : -149 ≤ b.exponent
  exponent_le : b.exponent ≤ 104
  leading : 2 ^ 23 ≤ b.mantissa ∨ b.exponent = -149

/-- The leading digit stands at most 23 places higher than the last one. -/
theorem IsSingle.top_bounds (hb : b.IsSingle) (hpos : b.mantissa ≠ 0) :
    -149 ≤ b.top ∧ b.top ≤ 127 ∧ b.top ≤ b.exponent + 23 := by
  have hlog : b.mantissa.log2 < 24 := (Nat.log2_lt hpos).2 hb.mantissa_lt
  have hfrom := hb.le_exponent
  have hto := hb.exponent_le
  unfold top
  omega

/-- The shortest decimal is far closer to the number than half a unit in its last place. -/
theorem IsSingle.shortest_close (hb : b.IsSingle) (hpos : b.mantissa ≠ 0) :
    |b.shortest.value - b.value| < 2 ^ (b.exponent - 2) := by
  obtain ⟨hfrom, hto, htop⟩ := hb.top_bounds hpos
  have hlt := hb.mantissa_lt
  calc |b.shortest.value - b.value|
      ≤ 2 ^ (b.top - 53) := Binary.shortest_close hpos (by omega) hfrom hto
    _ < 2 ^ (b.exponent - 2) := zpow_lt_zpow_right₀ (by norm_num) (by omega)

theorem value_nonneg (b : Binary) : 0 ≤ b.value := by
  unfold value
  positivity

end Binary

/-- Different multiples of powers of two are apart by the smaller power. -/
theorem two_zpow_le_abs_sub {m n e f : Int} (hef : e ≤ f)
    (hne : (m : ℚ) * 2 ^ e ≠ n * 2 ^ f) : 2 ^ e ≤ |(m : ℚ) * 2 ^ e - n * 2 ^ f| := by
  obtain ⟨k, rfl⟩ := Int.le.dest hef
  have hfactor : (m * 2 ^ e - n * 2 ^ (e + k) : ℚ) = (m - n * 2 ^ k : Int) * 2 ^ e := by
    rw [zpow_add₀ (by norm_num), zpow_natCast]
    push_cast
    ring
  have hpos : (0 : ℚ) < 2 ^ e := by positivity
  have hone : (1 : ℚ) ≤ |((m - n * 2 ^ k : Int) : ℚ)| := by
    have hint : m - n * 2 ^ k ≠ 0 := by
      intro hzero
      rw [hzero, Int.cast_zero, zero_mul] at hfactor
      exact hne (sub_eq_zero.1 hfactor)
    exact_mod_cast Int.one_le_abs hint
  rw [hfactor, abs_mul, abs_of_pos hpos]
  exact le_mul_of_one_le_left hpos.le hone

namespace Single

variable {x y : Single}

/-- The exponent of the number, as it stands in its bits. -/
def biased (x : Single) : Nat :=
  x.bits.toNat / 2 ^ 23 % 2 ^ 8

/-- Whether the number is finite: its exponent does not consist of ones. -/
def IsFinite (x : Single) : Prop :=
  x.biased ≠ 2 ^ 8 - 1

/-- The sign of the number. -/
def negative (x : Single) : Bool :=
  x.bits.toNat / 2 ^ 31 = 1

/-- The number without its sign. The leading digit of the mantissa is not among the bits, except
that there is none where the exponent is the least one. -/
def magnitude (x : Single) : Binary :=
  let fraction := x.bits.toNat % 2 ^ 23
  if x.biased = 0 then { mantissa := fraction, exponent := -149 }
  else { mantissa := 2 ^ 23 + fraction, exponent := x.biased - 150 }

/-- **The number that is meant**, if it is finite. -/
def value (x : Single) : ℚ :=
  if x.negative then -x.magnitude.value else x.magnitude.value

/-- The number without its sign is of single precision. -/
theorem isSingle_magnitude (hx : x.IsFinite) : x.magnitude.IsSingle := by
  have hbiased : x.biased < 2 ^ 8 - 1 := by
    have hlt : x.biased < 2 ^ 8 := Nat.mod_lt _ (by decide)
    unfold IsFinite at hx
    omega
  have hfraction : x.bits.toNat % 2 ^ 23 < 2 ^ 23 := Nat.mod_lt _ (by decide)
  unfold magnitude
  dsimp only
  split <;> constructor <;> dsimp only <;> omega

theorem abs_value (x : Single) : |x.value| = x.magnitude.value := by
  unfold value
  split
  · rw [abs_neg, abs_of_nonneg x.magnitude.value_nonneg]
  · exact abs_of_nonneg x.magnitude.value_nonneg

/-- The mantissa with its sign. -/
theorem exists_mantissa (x : Single) : ∃ m : Int, x.value = m * 2 ^ x.magnitude.exponent := by
  unfold value
  split
  · refine ⟨-x.magnitude.mantissa, ?_⟩
    rw [Binary.value]
    push_cast
    ring
  · exact ⟨x.magnitude.mantissa, rfl⟩

/-- **Different numbers of single precision are apart** by half a unit in the last place of
either. -/
theorem gap (hx : x.IsFinite) (hy : y.IsFinite) (hne : x.value ≠ y.value) :
    (2 : ℚ) ^ (x.magnitude.exponent - 1) ≤ |x.value - y.value| := by
  obtain hnear | hfar := le_or_gt (x.magnitude.exponent - 1) y.magnitude.exponent
  · -- both are multiples of this half unit
    obtain ⟨m, hm⟩ := x.exists_mantissa
    obtain ⟨n, hn⟩ := y.exists_mantissa
    have hhalf : x.value = (2 * m : Int) * 2 ^ (x.magnitude.exponent - 1) := by
      rw [hm, zpow_sub_one₀ (by norm_num)]
      push_cast
      ring
    rw [hhalf, hn] at hne ⊢
    exact two_zpow_le_abs_sub hnear hne
  · -- the one is more than twice as great as the other
    have hx := isSingle_magnitude hx
    have hy := isSingle_magnitude hy
    have hleading : 2 ^ 23 ≤ x.magnitude.mantissa := by
      have := hx.leading
      have := hy.le_exponent
      omega
    have hunit : (0 : ℚ) < 2 ^ (x.magnitude.exponent - 1) := by positivity
    have hfrom : 2 ^ 24 * (2 : ℚ) ^ (x.magnitude.exponent - 1) ≤ |x.value| := by
      have hcast : (2 ^ 23 : ℚ) ≤ x.magnitude.mantissa := by exact_mod_cast hleading
      calc 2 ^ 24 * (2 : ℚ) ^ (x.magnitude.exponent - 1)
          = 2 ^ 23 * (2 : ℚ) ^ x.magnitude.exponent := by
            rw [zpow_sub_one₀ (by norm_num)]
            ring
        _ ≤ (x.magnitude.mantissa : ℚ) * 2 ^ x.magnitude.exponent := by gcongr
        _ = |x.value| := x.abs_value.symm
    have hto : |y.value| ≤ 2 ^ 23 * (2 : ℚ) ^ (x.magnitude.exponent - 1) := by
      have hcast : (y.magnitude.mantissa : ℚ) ≤ 2 ^ 24 := by exact_mod_cast hy.mantissa_lt.le
      calc |y.value|
          = (y.magnitude.mantissa : ℚ) * 2 ^ y.magnitude.exponent := y.abs_value
        _ ≤ 2 ^ 24 * (2 : ℚ) ^ (x.magnitude.exponent - 1 - 1) := by
            gcongr
            · norm_num
            · omega
        _ = 2 ^ 23 * (2 : ℚ) ^ (x.magnitude.exponent - 1) := by
            rw [zpow_sub_one₀ (by norm_num)]
            ring
    have hapart := abs_sub_abs_le_abs_sub x.value y.value
    linarith

/-! ## Digits for a number -/

/-- A number has digits if it is finite. -/
theorem ofSingle?_eq_none_iff (x : Single) : Decimal.ofSingle? x = none ↔ ¬ x.IsFinite := by
  unfold Decimal.ofSingle? IsFinite biased
  dsimp only
  rw [not_not]
  split_ifs with h <;> simp [h]

/-- The digits of a finite number are those of its shortest decimal. -/
theorem ofSingle?_eq (hx : x.IsFinite) : Decimal.ofSingle? x
    = some ((if x.negative then "-" else "") ++
      if x.magnitude.mantissa = 0 then "0.0" else (x.magnitude.shortest.strip 20).render) := by
  have hsign : (if x.bits.toNat / 0x80000000 = 1 then "-" else "")
      = if x.negative then "-" else "" := by
    simp only [negative, decide_eq_true_eq, Nat.reducePow]
  have hfinite : x.bits.toNat / 0x800000 % 256 ≠ 255 := hx
  unfold Decimal.ofSingle?
  dsimp only
  rw [hsign, if_neg hfinite]
  have hzero : (x.bits.toNat / 0x800000 % 256 = 0 ∧ x.bits.toNat % 0x800000 = 0)
      ↔ x.magnitude.mantissa = 0 := by
    unfold magnitude biased
    dsimp only
    split <;> rename_i h <;> simp only [Nat.reducePow] at h ⊢ <;> omega
  rw [if_congr hzero rfl rfl]
  split <;> rfl

/-- A number without its sign is shown closely. -/
theorem exists_scaled (hx : x.IsFinite) : ∃ (text : String) (q : ℚ),
    Decimal.ofSingle? x = some ((if x.negative then "-" else "") ++ text) ∧
      Decimal.Scaled text.toList q ∧ |q - x.magnitude.value| < 2 ^ (x.magnitude.exponent - 2) := by
  by_cases hpos : x.magnitude.mantissa = 0
  · have hrow : Row ['0', '0'] 0 := (row_toDigits 0).append_zeros 1
    refine ⟨"0.0", 0, by rw [ofSingle?_eq hx, if_pos hpos], ?_, ?_⟩
    · have hplain : Decimal.Plain "0.0".toList ((0 : Nat) / 10 ^ 1) :=
        .point (List.cons_ne_nil '0' []) (List.cons_ne_nil '0' []) hrow
      rw [Nat.cast_zero, zero_div] at hplain
      exact .plain hplain
    · rw [Binary.value, hpos, Nat.cast_zero, zero_mul, sub_zero, abs_zero]
      positivity
  · refine ⟨_, _, by rw [ofSingle?_eq hx, if_neg hpos], Decimal.scaled_render _, ?_⟩
    rw [Decimal.value_strip]
    exact (isSingle_magnitude hx).shortest_close hpos

/-- **Digits that stand for a number**: they have a minus sign if it is negative, and what they
denote is nearer to it than to any other number of single precision. -/
def WrittenAs (x : Single) (digits : String) : Prop :=
  ∃ shown : ℚ, Decimal.Written x.negative digits.toList shown ∧
    ∀ y : Single, y.IsFinite → x.value ≠ y.value → |shown - x.value| < |shown - y.value|

/-- **A finite number is shown with digits that stand for it.** -/
theorem exists_writtenAs (hx : x.IsFinite) :
    ∃ digits, Decimal.ofSingle? x = some digits ∧ x.WrittenAs digits := by
  obtain ⟨text, q, hdigits, hscaled, hclose⟩ := exists_scaled hx
  obtain ⟨shown, hwritten, hclose⟩ : ∃ shown : ℚ,
      Decimal.Written x.negative ((if x.negative then "-" else "") ++ text).toList shown ∧
        |shown - x.value| < 2 ^ (x.magnitude.exponent - 2) := by
    unfold value
    cases x.negative with
    | false => exact ⟨q, .plain hscaled, hclose⟩
    | true =>
      have htext : ("-" ++ text).toList = '-' :: text.toList := String.toList_append
      refine ⟨-q, htext ▸ .minus hscaled, ?_⟩
      rwa [if_pos rfl, neg_sub_neg, abs_sub_comm]
  refine ⟨_, hdigits, shown, hwritten, fun y hy hne => ?_⟩
  -- the number that is shown is off by less than half the gap to any other
  have hgap := gap hx hy hne
  have hhalf : (2 : ℚ) ^ (x.magnitude.exponent - 1) = 2 * 2 ^ (x.magnitude.exponent - 2) := by
    rw [show x.magnitude.exponent - 1 = x.magnitude.exponent - 2 + 1 by ring,
      zpow_add_one₀ (by norm_num), mul_comm]
  have hapart : |x.value - y.value| ≤ |shown - x.value| + |shown - y.value| := by
    rw [abs_sub_comm shown x.value]
    exact abs_sub_le _ _ _
  linarith

end Single

end ServoLink
