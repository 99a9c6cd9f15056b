import Mathlib.Algebra.Order.Field.Power
import Mathlib.Data.Rat.Cast.Order
import Mathlib.Tactic.FieldSimp
import Mathlib.Tactic.GCongr
import Mathlib.Tactic.Linarith
import Mathlib.Tactic.LinearCombination
import Mathlib.Tactic.NormNum
import Mathlib.Tactic.Positivity
import Mathlib.Tactic.Ring
import ServoLink.Decimal.Shortest

/-!
# The shortest decimal is close

The decimal that is shown for a number is searched for on finer and finer grids. A point of the
grid is taken if it lies between the midpoints to the two neighbours of the number, and so the
decimal is off by half a unit in the last place at most (`Binary.shortest_close`). The search
comes to an end because with seventeen digits the points of the grid are closer to each other
than these midpoints, and then one of the two around the number lies between them
(`Interval.exists_nearest`).
-/

namespace ServoLink

/-- The number that is meant. -/
def Binary.value (b : Binary) : ℚ :=
  b.mantissa * 2 ^ b.exponent

/-- The number that is meant. -/
def Decimal.value (d : Decimal) : ℚ :=
  d.digits * 10 ^ d.exponent

/-! ## Powers as fractions -/

theorem power_pos {base : Nat} (hbase : 0 < base) (e : Int) :
    0 < (power base e).1 ∧ 0 < (power base e).2 :=
  ⟨Nat.pow_pos hbase, Nat.pow_pos hbase⟩

/-- A power is its fraction. -/
theorem cast_power {base : Nat} (hbase : 0 < base) (e : Int) :
    ((power base e).1 : ℚ) = (base : ℚ) ^ e * (power base e).2 := by
  have hne : (base : ℚ) ≠ 0 := Nat.cast_ne_zero.2 hbase.ne'
  unfold power
  obtain ⟨n, rfl | rfl⟩ := e.eq_nat_or_neg
  · simp
  · simp [hne]

/-! ## Points of a grid -/

namespace Interval

variable {i : Interval} {point : Nat}

/-- A point in the interval lies between its ends. -/
theorem bounds_of_contains (h : i.contains point = true) :
    i.low ≤ point * i.unit ∧ point * i.unit ≤ i.high := by
  unfold contains at h
  split at h
  · simpa using h
  · have hopen : i.low < point * i.unit ∧ point * i.unit < i.high := by simpa using h
    exact ⟨hopen.1.le, hopen.2.le⟩

/-- The point that is taken lies in the interval. -/
theorem contains_of_nearest (h : i.nearest = some point) : i.contains point = true := by
  unfold nearest at h
  dsimp only at h
  split at h
  · rename_i hboth
    obtain ⟨hbelow, habove⟩ := Bool.and_eq_true_iff.1 hboth
    split at h
    · exact Option.some.inj h ▸ hbelow
    · exact Option.some.inj h ▸ habove
  · split at h
    · rename_i hbelow
      exact Option.some.inj h ▸ hbelow
    · split at h
      · rename_i habove
        exact Option.some.inj h ▸ habove
      · cases h

/-- **One of the points around the value lies in the interval** if the grid is finer than that. -/
theorem exists_nearest (hunit : 0 < i.unit) (hlow : i.low ≤ i.value) (hhigh : i.value < i.high)
    (hfine : i.unit + i.low < i.high) : ∃ point, i.nearest = some point := by
  let below := i.value / i.unit
  have hbelow : below * i.unit ≤ i.value := Nat.div_mul_le_self _ _
  have habove : i.value < (below + 1) * i.unit := by
    rw [Nat.add_mul, Nat.one_mul]
    exact Nat.lt_div_mul_add hunit
  have hstep : (below + 1) * i.unit = below * i.unit + i.unit := Nat.succ_mul _ _
  have hone : i.contains below = true ∨ i.contains (below + 1) = true := by
    unfold contains
    cases i.closed <;> simp <;> omega
  unfold nearest
  dsimp only
  split
  · split <;> exact ⟨_, rfl⟩
  · split
    · exact ⟨_, rfl⟩
    · split
      · exact ⟨_, rfl⟩
      · rename_i hnot hnot'
        exact (hone.elim hnot hnot').elim

end Interval

namespace Binary

variable {b : Binary} {grid : Int}

/-- The scale of an interval: what the mantissa counts, in units of the grid. -/
theorem interval_scale (b : Binary) (grid : Int) :
    ∃ (scale gap : Nat), (b.interval grid).low = (4 * b.mantissa - gap) * scale ∧
      (b.interval grid).value = 4 * b.mantissa * scale ∧
      (b.interval grid).high = (4 * b.mantissa + 2) * scale ∧
      (gap = if b.mantissa = 2 ^ 52 then 1 else 2) ∧ 0 < scale ∧ 0 < (b.interval grid).unit ∧
      (4 * scale : ℚ) * 10 ^ grid = (b.interval grid).unit * 2 ^ b.exponent := by
  obtain ⟨htwo, htwo'⟩ := power_pos (by decide : 0 < 2) b.exponent
  obtain ⟨hten, hten'⟩ := power_pos (by decide : 0 < 10) grid
  refine ⟨(power 2 b.exponent).1 * (power 10 grid).2, _, rfl, rfl, rfl, rfl, by positivity, ?_, ?_⟩
  · show 0 < 4 * (power 2 b.exponent).2 * (power 10 grid).1
    positivity
  · show _ = ((4 * (power 2 b.exponent).2 * (power 10 grid).1 : Nat) : ℚ) * 2 ^ b.exponent
    push_cast
    rw [cast_power (by decide : 0 < 2), cast_power (by decide : 0 < 10)]
    push_cast
    ring

/-- **A point in the interval is off by half a unit in the last place at most.** -/
theorem close_of_contains {point : Nat} (h : (b.interval grid).contains point = true) :
    |point * 10 ^ grid - b.value| ≤ 2 ^ b.exponent / 2 := by
  obtain ⟨scale, gap, hlow, -, hhigh, hgap, -, hunit, hscale⟩ := interval_scale b grid
  obtain ⟨hfrom, hto⟩ := Interval.bounds_of_contains h
  rw [hlow] at hfrom
  rw [hhigh] at hto
  have hgap2 : gap ≤ 2 := by
    rw [hgap]
    split <;> decide
  have hunit' : (0 : ℚ) < (b.interval grid).unit := Nat.cast_pos.2 hunit
  have hten : (0 : ℚ) < 10 ^ grid := by positivity
  have hfrom' : ((4 * b.mantissa : ℚ) - 2) * scale ≤ point * (b.interval grid).unit := by
    have hcut : (4 * b.mantissa : ℚ) - 2 ≤ ((4 * b.mantissa - gap : Nat) : ℚ) := by
      have hnat : 4 * b.mantissa ≤ (4 * b.mantissa - gap) + 2 := by omega
      have hcast : (4 * b.mantissa : ℚ) ≤ ((4 * b.mantissa - gap : Nat) : ℚ) + 2 := by
        exact_mod_cast hnat
      linarith
    calc ((4 * b.mantissa : ℚ) - 2) * scale
        ≤ ((4 * b.mantissa - gap : Nat) : ℚ) * scale :=
          mul_le_mul_of_nonneg_right hcut (Nat.cast_nonneg _)
      _ ≤ point * (b.interval grid).unit := by exact_mod_cast hfrom
  have hto' : point * (b.interval grid).unit ≤ ((4 * b.mantissa : ℚ) + 2) * scale := by
    exact_mod_cast hto
  -- both bounds are counted in units of the interval, which are divided out
  have hlower : (b.interval grid).unit * ((b.mantissa - 1 / 2 : ℚ) * 2 ^ b.exponent)
      ≤ (b.interval grid).unit * (point * 10 ^ grid : ℚ) :=
    calc (b.interval grid).unit * ((b.mantissa - 1 / 2 : ℚ) * 2 ^ b.exponent)
        = ((4 * b.mantissa : ℚ) - 2) * scale * 10 ^ grid := by
          linear_combination -(b.mantissa - 1 / 2 : ℚ) * hscale
      _ ≤ point * (b.interval grid).unit * 10 ^ grid :=
          mul_le_mul_of_nonneg_right hfrom' hten.le
      _ = (b.interval grid).unit * (point * 10 ^ grid) := by ring
  have hupper : (b.interval grid).unit * (point * 10 ^ grid : ℚ)
      ≤ (b.interval grid).unit * ((b.mantissa + 1 / 2 : ℚ) * 2 ^ b.exponent) :=
    calc (b.interval grid).unit * (point * 10 ^ grid : ℚ)
        = point * (b.interval grid).unit * 10 ^ grid := by ring
      _ ≤ ((4 * b.mantissa : ℚ) + 2) * scale * 10 ^ grid :=
          mul_le_mul_of_nonneg_right hto' hten.le
      _ = (b.interval grid).unit * ((b.mantissa + 1 / 2 : ℚ) * 2 ^ b.exponent) := by
          linear_combination (b.mantissa + 1 / 2 : ℚ) * hscale
  have hlower' := le_of_mul_le_mul_left hlower hunit'
  have hupper' := le_of_mul_le_mul_left hupper hunit'
  rw [abs_le, value]
  constructor <;> linarith

/-! ## The search -/

/-- A mantissa of full length. -/
structure IsNormal (b : Binary) : Prop where
  lower : 2 ^ 52 ≤ b.mantissa
  upper : b.mantissa < 2 ^ 53

/-- A unit of the interval is less than its width if the grid is fine enough for the mantissa. -/
theorem unit_lt {unit scale mantissa width two ten : ℚ} (htwo : 0 < two) (hscale : 0 < scale)
    (hunit : 4 * scale * ten = unit * two) (hgrid : ten * 10 ^ 16 ≤ mantissa * two)
    (hmantissa : 4 * mantissa < width * 10 ^ 16) : unit < width * scale := by
  have hfine : unit * (two * 10 ^ 16) < width * scale * (two * 10 ^ 16) :=
    calc unit * (two * 10 ^ 16)
        = 4 * scale * (ten * 10 ^ 16) := by linear_combination -10 ^ 16 * hunit
      _ ≤ 4 * scale * (mantissa * two) := by gcongr
      _ = scale * two * (4 * mantissa) := by ring
      _ < scale * two * (width * 10 ^ 16) := by gcongr
      _ = width * scale * (two * 10 ^ 16) := by ring
  exact lt_of_mul_lt_mul_right hfine (by positivity)

/-- **Seventeen digits suffice**: a grid that has so many has a point in the interval. -/
theorem exists_nearest (hb : b.IsNormal) {place : Int} (hplace : 10 ^ place ≤ b.value) :
    ∃ digits, (b.interval (place - 16)).nearest = some digits := by
  obtain ⟨scale, gap, hlow, hvalue, hhigh, hgap, hpos, hunit, hscale⟩ :=
    interval_scale b (place - 16)
  have hgap' : 1 ≤ gap ∧ gap ≤ 4 * b.mantissa := by
    have := hb.lower
    rw [hgap]
    split <;> omega
  refine Interval.exists_nearest hunit ?_ ?_ ?_
  · rw [hlow, hvalue]
    exact Nat.mul_le_mul_right _ (Nat.sub_le _ _)
  · rw [hvalue, hhigh]
    exact Nat.mul_lt_mul_of_pos_right (by omega) hpos
  · -- the grid is finer than the interval is wide
    have hgrid : (10 : ℚ) ^ (place - 16) * 10 ^ 16 ≤ b.mantissa * 2 ^ b.exponent := by
      rw [← zpow_natCast, ← zpow_add₀ (by norm_num)]
      simpa [value] using hplace
    have hmantissa : (4 * b.mantissa : ℚ) < (gap + 2) * 10 ^ 16 := by
      rw [hgap]
      split
      · rename_i hpower
        rw [hpower]
        norm_num
      · have hcast : (b.mantissa : ℚ) < 2 ^ 53 := by exact_mod_cast hb.upper
        push_cast
        linarith
    have hwide : (b.interval (place - 16)).unit < (gap + 2) * scale := by
      have hcast : ((b.interval (place - 16)).unit : ℚ) < (gap + 2) * scale :=
        unit_lt (by positivity) (Nat.cast_pos.2 hpos) hscale hgrid hmantissa
      exact_mod_cast hcast
    rw [hlow, hhigh]
    have hsplit : (4 * b.mantissa + 2) * scale
        = (4 * b.mantissa - gap) * scale + (gap + 2) * scale := by
      rw [← Nat.add_mul]
      congr 1
      omega
    omega

/-- The power of ten is at most the number, by their fractions. -/
theorem zpow_le_value {place : Int} (h : (power 10 place).1 * (power 2 b.exponent).2
    ≤ b.mantissa * (power 2 b.exponent).1 * (power 10 place).2) : 10 ^ place ≤ b.value := by
  have htwo : (0 : ℚ) < (power 2 b.exponent).2 :=
    Nat.cast_pos.2 (power_pos (by decide) _).2
  have hten : (0 : ℚ) < (power 10 place).2 := Nat.cast_pos.2 (power_pos (by decide) _).2
  have hcast : ((power 10 place).1 : ℚ) * (power 2 b.exponent).2
      ≤ b.mantissa * (power 2 b.exponent).1 * (power 10 place).2 := by exact_mod_cast h
  rw [cast_power (by decide : 0 < 2), cast_power (by decide : 0 < 10)] at hcast
  push_cast at hcast
  have hscaled : 10 ^ place * ((power 10 place).2 * (power 2 b.exponent).2 : ℚ)
      ≤ b.value * ((power 10 place).2 * (power 2 b.exponent).2) := by
    rw [value]
    linarith
  exact le_of_mul_le_mul_right hscaled (by positivity)

/-- The place of the leading binary digit. -/
def top (b : Binary) : Int :=
  b.mantissa.log2 + b.exponent

theorem two_zpow_top_le (hpos : b.mantissa ≠ 0) : 2 ^ b.top ≤ b.value := by
  have hlead : (2 : ℚ) ^ b.mantissa.log2 ≤ b.mantissa := by
    exact_mod_cast Nat.log2_self_le hpos
  rw [top, value, zpow_add₀ (by norm_num), zpow_natCast]
  gcongr

/-- The guess is not too high by more than one, for all numbers of single precision. -/
theorem guess_le : ∀ k : Nat, k < 277 →
    (power 10 (((k : Int) - 149) * 30103 / 100000 - 1)).1 * (power 2 ((k : Int) - 149)).2
      ≤ (power 2 ((k : Int) - 149)).1 * (power 10 (((k : Int) - 149) * 30103 / 100000 - 1)).2 := by
  decide +kernel

/-- **The place of the leading decimal digit is not too high.** -/
theorem zpow_place_le (hpos : b.mantissa ≠ 0) (hfrom : -149 ≤ b.top) (hto : b.top ≤ 127) :
    10 ^ b.place ≤ b.value := by
  have hguess : (10 : ℚ) ^ (b.top * 30103 / 100000 - 1) ≤ b.value := by
    obtain ⟨k, hk⟩ := Int.eq_ofNat_of_zero_le (show 0 ≤ b.top + 149 by omega)
    obtain htop : b.top = (k : Int) - 149 := by omega
    have hpower : (10 : ℚ) ^ (b.top * 30103 / 100000 - 1) ≤ value ⟨1, b.top⟩ :=
      zpow_le_value (by rw [Nat.one_mul, htop]; exact guess_le k (by omega))
    have hone : value ⟨1, b.top⟩ = 2 ^ b.top := by simp [value]
    rw [hone] at hpower
    exact hpower.trans (two_zpow_top_le hpos)
  unfold place
  dsimp only
  split
  · rename_i h
    exact zpow_le_value (of_decide_eq_true h)
  · split
    · rename_i h
      exact zpow_le_value (of_decide_eq_true h)
    · exact hguess

/-- **The search ends at a point of the interval.** -/
theorem nearest_search (hb : b.IsNormal) {place : Int} (hplace : 10 ^ place ≤ b.value)
    {count fuel : Nat} (hfuel : 0 < fuel) (hcount : count + fuel = 18) :
    (b.interval (b.search place count fuel).exponent).nearest
      = some (b.search place count fuel).digits := by
  induction fuel generalizing count with
  | zero => cases hfuel
  | succ fuel ih =>
    unfold search
    dsimp only
    split
    · assumption
    · rename_i hnone
      obtain rfl | hmore := Nat.eq_zero_or_pos fuel
      · obtain ⟨digits, hsome⟩ := exists_nearest hb hplace
        rw [show place - 16 = place - count + 1 by omega, hnone] at hsome
        cases hsome
      · exact ih hmore (by omega)

/-- A number that is scaled up to full length is the same number. -/
theorem normalize_spec (hpos : b.mantissa ≠ 0) (hlt : b.mantissa < 2 ^ 53) :
    b.normalize.IsNormal ∧ b.normalize.value = b.value ∧ b.normalize.top = b.top ∧
      b.normalize.exponent = b.top - 52 := by
  have hlog : b.mantissa.log2 ≤ 52 := Nat.le_of_lt_succ ((Nat.log2_lt hpos).2 hlt)
  obtain ⟨shift, hshift⟩ := Nat.exists_eq_add_of_le hlog
  have hmantissa : b.normalize.mantissa = b.mantissa * 2 ^ shift := by
    rw [normalize]
    dsimp only
    rw [Nat.shiftLeft_eq, show 53 - (b.mantissa.log2 + 1) = shift by omega]
  have hexponent : b.normalize.exponent = b.exponent - shift := by
    rw [normalize]
    dsimp only
    omega
  have hlower : 2 ^ 52 ≤ b.mantissa * 2 ^ shift := by
    rw [hshift, Nat.pow_add]
    exact Nat.mul_le_mul_right _ (Nat.log2_self_le hpos)
  have hupper : b.mantissa * 2 ^ shift < 2 ^ 53 := by
    rw [show 53 = b.mantissa.log2 + 1 + shift by omega, Nat.pow_add]
    exact Nat.mul_lt_mul_of_pos_right Nat.lt_log2_self (Nat.two_pow_pos _)
  have hlog' : (b.mantissa * 2 ^ shift).log2 = 52 :=
    (Nat.log2_eq_iff (by omega)).2 ⟨hlower, hupper⟩
  refine ⟨⟨hmantissa ▸ hlower, hmantissa ▸ hupper⟩, ?_, ?_, ?_⟩
  · rw [value, value, hmantissa, hexponent, zpow_sub₀ (by norm_num)]
    push_cast
    rw [zpow_natCast]
    field_simp
  · rw [top, top, hmantissa, hexponent, hlog']
    omega
  · rw [hexponent, top]
    omega

/-- **The shortest decimal is close to the number**, by half a unit in its last place. -/
theorem shortest_close (hpos : b.mantissa ≠ 0) (hlt : b.mantissa < 2 ^ 53) (hfrom : -149 ≤ b.top)
    (hto : b.top ≤ 127) : |b.shortest.value - b.value| ≤ 2 ^ (b.top - 53) := by
  obtain ⟨hnormal, hvalue, htop, hexponent⟩ := normalize_spec hpos hlt
  have hpos' : b.normalize.mantissa ≠ 0 := by
    have := hnormal.lower
    omega
  have hplace := zpow_place_le hpos' (htop ▸ hfrom) (htop ▸ hto)
  have hnearest := nearest_search hnormal hplace (by decide : 0 < 17) (rfl : 1 + 17 = 18)
  have hclose := close_of_contains (Interval.contains_of_nearest hnearest)
  have hunit : (2 : ℚ) ^ (b.top - 53) = 2 ^ (b.top - 52) / 2 := by
    rw [show b.top - 53 = b.top - 52 - 1 by ring, zpow_sub_one₀ (by norm_num), div_eq_mul_inv]
  rw [hvalue, hexponent] at hclose
  rw [hunit]
  exact hclose

end Binary

end ServoLink
