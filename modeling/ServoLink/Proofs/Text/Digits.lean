import Mathlib.Algebra.Group.Nat.Defs
import ServoLink.Text.Numeral

/-!
# Numbers and their digits

A number is shown with its decimal digits, and given with them if it is in range
(`Numeral.unsigned?_toString`, `Numeral.byte?_toString`); it may also be given with zeros or a plus
sign in front (`Numeral.unsigned?_eq_some_iff`).
-/

namespace ServoLink

namespace Numeral

variable {text : List Char} {n : Nat}

/-- **A row of digits**, with its value to base ten. -/
structure Row (text : List Char) (n : Nat) : Prop where
  ne_nil : text ≠ []
  digits : ∀ c ∈ text, c.isDigit = true
  value : Nat.ofDigitChars 10 text 0 = n

/-- **A numeral**: a row of digits, which may have a plus sign in front. -/
inductive Spelled : List Char → Nat → Prop
  | plain {text : List Char} {n : Nat} (h : Row text n) : Spelled text n
  | signed {text : List Char} {n : Nat} (h : Row text n) : Spelled ('+' :: text) n

/-- The value that is read digit by digit is the value to base ten. -/
theorem digitsFrom_zero (text : List Char) : digitsFrom 0 text = Nat.ofDigitChars 10 text 0 := by
  simp only [Nat.ofDigitChars, Nat.mul_comm 10]
  rfl

/-- A number is read where there is a row of digits. -/
theorem digits?_eq_some_iff : digits? text = some n ↔ Row text n := by
  have hread : digits? text = some n
      ↔ (text.isEmpty || !text.all Char.isDigit) = false ∧ digitsFrom 0 text = n := by
    unfold digits?
    split <;> simp [*]
  rw [hread, digitsFrom_zero, Bool.or_eq_false_iff, List.isEmpty_eq_false_iff, Bool.not_eq_false',
    List.all_eq_true]
  exact ⟨fun ⟨⟨hsome, hdigits⟩, hvalue⟩ => ⟨hsome, hdigits, hvalue⟩,
    fun ⟨hsome, hdigits, hvalue⟩ => ⟨⟨hsome, hdigits⟩, hvalue⟩⟩

/-- A row of digits has no sign. -/
theorem Row.ne_cons (h : Row text n) (sign : Char) (hsign : sign.isDigit = false)
    (rest : List Char) : text ≠ sign :: rest := by
  rintro rfl
  exact Bool.eq_false_iff.1 hsign (h.digits sign List.mem_cons_self)

/-- A row of zeros has only digits. -/
theorem isDigit_of_mem_zeros {c : Char} (hc : c ∈ List.replicate n '0') : c.isDigit = true :=
  List.eq_of_mem_replicate hc ▸ by decide

/-- Zeros at the end multiply by ten. -/
theorem Row.append_zeros (h : Row text n) (count : Nat) :
    Row (text ++ List.replicate count '0') (10 ^ count * n) where
  ne_nil := List.append_ne_nil_of_left_ne_nil h.ne_nil _
  digits := List.forall_mem_append.2 ⟨h.digits, fun _ => isDigit_of_mem_zeros⟩
  value := by rw [Nat.ofDigitChars_append, h.value, Nat.ofDigitChars_replicate_zero]

/-- Zeros in front do not count. -/
theorem Row.zeros_append (h : Row text n) (count : Nat) :
    Row (List.replicate count '0' ++ text) n where
  ne_nil := List.append_ne_nil_of_right_ne_nil _ h.ne_nil
  digits := List.forall_mem_append.2 ⟨fun _ => isDigit_of_mem_zeros, h.digits⟩
  value := by
    rw [Nat.ofDigitChars_append, Nat.ofDigitChars_replicate_zero, Nat.mul_zero, h.value]

/-- A text without a plus sign in front. -/
def withoutPlus (text : List Char) : List Char :=
  match text with
  | '+' :: rest => rest
  | _ => text

/-- A numeral without its sign is a row of digits. -/
theorem spelled_iff : Spelled text n ↔ Row (withoutPlus text) n := by
  unfold withoutPlus
  split
  · rename_i rest
    refine ⟨fun h => ?_, .signed⟩
    cases h with
    | plain h => exact absurd rfl (h.ne_cons '+' (by decide) rest)
    | signed h => exact h
  · rename_i hplain
    refine ⟨fun h => ?_, .plain⟩
    cases h with
    | plain h => exact h
    | signed h => exact absurd rfl (hplain _)

/-- **What is read as a number are the numerals in range.** -/
theorem unsigned?_eq_some_iff : unsigned? text = some n ↔ Spelled text n ∧ n < 2 ^ 64 := by
  rw [spelled_iff, ← digits?_eq_some_iff]
  unfold unsigned?
  dsimp only
  split
  · rename_i m hread
    rw [show digits? (withoutPlus text) = some m from hread, Option.ite_none_right_eq_some,
      Option.some.injEq]
    constructor
    · rintro ⟨hm, rfl⟩
      exact ⟨rfl, hm⟩
    · rintro ⟨rfl, hm⟩
      exact ⟨hm, rfl⟩
  · rename_i hread
    rw [show digits? (withoutPlus text) = none from hread]
    exact iff_of_false nofun fun h => nomatch h.1

/-- A numeral ends in a digit. -/
theorem Spelled.isDigit_of_getLast? (h : Spelled text n) {c : Char} (hc : text.getLast? = some c) :
    c.isDigit = true := by
  cases h with
  | plain h => exact h.digits c (List.mem_of_getLast? hc)
  | signed h =>
    rw [List.getLast?_cons_of_ne_nil h.ne_nil] at hc
    exact h.digits c (List.mem_of_getLast? hc)

/-! Numbers are read as they are shown. -/

/-- The digits of a number are a row with its value. -/
theorem row_toDigits (n : Nat) : Row (Nat.toDigits 10 n) n where
  ne_nil := List.ne_nil_of_length_pos Nat.length_toDigits_pos
  digits := fun _ hc => Nat.isDigit_of_mem_toDigits (by decide) (by decide) hc
  value := Nat.ofDigitChars_toDigits (by decide) (by decide)

/-- They are its text. -/
theorem row_toString (n : Nat) : Row (toString n).toList n :=
  (Nat.toList_repr : (toString n).toList = _) ▸ row_toDigits n

/-- **A number is read from its digits**, if it is in range. -/
theorem unsigned?_toString {n : Nat} (h : n < 2 ^ 64) : unsigned? (toString n).toList = some n :=
  unsigned?_eq_some_iff.2 ⟨.plain (row_toString n), h⟩

/-- So is a byte. -/
theorem byte?_toString (b : UInt8) : byte? (toString b.toNat).toList = some b := by
  have hread := unsigned?_toString (Nat.lt_trans b.toNat_lt (by decide : 2 ^ 8 < 2 ^ 64))
  have hplain := (row_toString b.toNat).ne_cons '-' (by decide)
  unfold byte?
  split
  · rename_i rest htext
    exact absurd htext (hplain rest)
  · rw [hread]
    dsimp only
    rw [if_pos b.toNat_lt, UInt8.ofNat_toNat]

end Numeral

end ServoLink
