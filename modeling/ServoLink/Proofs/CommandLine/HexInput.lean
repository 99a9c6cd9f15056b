import Mathlib.Data.List.Forall2
import ServoLink.CommandLine.HexInput
import ServoLink.Proofs.Text.Utf8

/-!
# The texts that are read as bytes

A text gives bytes if it spells the digits that these are shown with: each in either case, and
with blanks anywhere, also between the two digits of a byte (`Hex.Spells`). Blanks are left out
by characters, and digits are counted and taken by bytes; both agree because a character that
stands for a digit is one byte, and no other character has a digit among its bytes
(`HexInput.forall_isDigit_iff`). What is said of a text that gives no bytes is `HexInput.Refused`,
and `HexInput.parsed_iff_spelled` is the whole of it.
-/

namespace ServoLink

namespace Hex

/-! ## Digits -/

/-- The number of a character, or a byte, that is a digit of either case. -/
def IsDigit (code : Nat) : Prop :=
  '0'.toNat ≤ code ∧ code ≤ '9'.toNat ∨ 'A'.toNat ≤ code ∧ code ≤ 'F'.toNat ∨
    'a'.toNat ≤ code ∧ code ≤ 'f'.toNat

instance (code : Nat) : Decidable (IsDigit code) :=
  inferInstanceAs (Decidable (_ ∨ _ ∨ _))

/-- **A character that stands for a digit**: the digit itself, or its capital letter. -/
def StandsFor (c digit : Char) : Prop :=
  c = digit ∨ c = digit.toUpper

instance (c digit : Char) : Decidable (StandsFor c digit) :=
  inferInstanceAs (Decidable (_ ∨ _))

/-- **A text that spells digits**: each is there in either case, and there may be blanks anywhere
before them, among them and behind them. -/
inductive Spells : List Char → List Char → Prop
  | nil : Spells [] []
  | digit {c d : Char} {text digits : List Char} (hc : StandsFor c d) (h : Spells text digits) :
    Spells (c :: text) (d :: digits)
  | blank {c : Char} {text digits : List Char} (hc : isBlank c = true) (h : Spells text digits) :
    Spells (c :: text) digits

/-- The byte is a digit of this value. -/
def HasValue (b : UInt8) (n : Fin 16) : Prop :=
  value? b = some (UInt8.ofNat n.val)

variable {c : Char} {b : UInt8} {n : Fin 16}

theorem IsDigit.lt {code : Nat} (h : IsDigit code) : code < 128 := by
  rcases h with ⟨-, h⟩ | ⟨-, h⟩ | ⟨-, h⟩ <;> exact Nat.lt_of_le_of_lt h (by decide)

/-- The digits by their numbers: none is a blank, and each stands for the digit of its value. -/
theorem exists_value : ∀ code < 128, IsDigit code →
    isBlank (Char.ofNat code) = false ∧ ∃ n ∈ List.range 16,
      StandsFor (Char.ofNat code) (digit n) ∧
        value? (UInt8.ofNat code) = some (UInt8.ofNat n) := by
  decide +kernel

/-- The characters that stand for digits: each is one, of this value. -/
theorem isDigit_and_value : ∀ n < 16,
    (IsDigit (digit n).toNat ∧ value? (UInt8.ofNat (digit n).toNat) = some (UInt8.ofNat n)) ∧
    IsDigit (digit n).toUpper.toNat ∧
      value? (UInt8.ofNat (digit n).toUpper.toNat) = some (UInt8.ofNat n) := by
  decide +kernel

/-- A byte has one value. -/
theorem HasValue.eq {m : Fin 16} (h : HasValue b n) (h' : HasValue b m) : n = m := by
  have hsame := congrArg UInt8.toNat (Option.some.inj (h.symm.trans h'))
  rw [UInt8.toNat_ofNat', UInt8.toNat_ofNat'] at hsame
  exact Fin.ext (by omega)

/-- **A character stands for the digit of its value.** -/
theorem standsFor_iff : StandsFor c (digit n) ↔
    IsDigit c.toNat ∧ HasValue (UInt8.ofNat c.toNat) n := by
  constructor
  · rintro (rfl | rfl)
    · exact (isDigit_and_value n n.isLt).1
    · exact (isDigit_and_value n n.isLt).2
  · rintro ⟨hdigit, hvalue⟩
    obtain ⟨-, m, hm, hstands, hvalue'⟩ := exists_value c.toNat hdigit.lt hdigit
    obtain rfl : n = ⟨m, List.mem_range.1 hm⟩ := hvalue.eq hvalue'
    rwa [c.ofNat_toNat] at hstands

/-- A digit is no blank. -/
theorem IsDigit.not_isBlank (h : IsDigit c.toNat) : isBlank c = false := by
  have hblank := (exists_value c.toNat h.lt h).1
  rwa [c.ofNat_toNat] at hblank

/-- A byte that is no digit has no value, -/
theorem value?_eq_none_iff : value? b = none ↔ ¬ IsDigit b.toNat := by
  unfold value? IsDigit
  simp only [UInt8.le_iff_toNat_le]
  split_ifs <;> simp_all

/-- and a digit has one. -/
theorem IsDigit.exists_hasValue (h : IsDigit b.toNat) : ∃ n, HasValue b n := by
  obtain ⟨-, n, hn, -, hvalue⟩ := exists_value b.toNat h.lt h
  rw [UInt8.ofNat_toNat] at hvalue
  exact ⟨⟨n, List.mem_range.1 hn⟩, hvalue⟩

theorem HasValue.isDigit (h : HasValue b n) : IsDigit b.toNat :=
  Decidable.not_not.1 fun hnot =>
    Option.some_ne_none _ (h.symm.trans (value?_eq_none_iff.2 hnot))

/-! ## Bytes as digits -/

/-- The halves of a byte. -/
def halves (b : UInt8) : List (Fin 16) :=
  [⟨b.toNat / 16, Nat.div_lt_of_lt_mul b.toNat_lt⟩, ⟨b.toNat % 16, Nat.mod_lt _ (by decide)⟩]

/-- The values of the digits that bytes are shown with. -/
def values (data : Bytes) : List (Fin 16) :=
  data.flatMap halves

theorem toList_ofBytes (data : Bytes) :
    (ofBytes data).toList = (values data).map (digit ·.val) := by
  unfold ofBytes values
  rw [String.toList_ofList, List.map_flatMap]
  rfl

/-- There are two digits to a byte. -/
theorem length_values (data : Bytes) : (values data).length = 2 * data.length := by
  induction data with
  | nil => rfl
  | cons b data ih =>
    show (halves b ++ values data).length = _
    rw [List.length_append, ih, List.length_cons, Nat.mul_succ, Nat.add_comm]
    rfl

/-- A byte is put together from its halves, -/
theorem ofNat_halves (b : UInt8) :
    UInt8.ofNat (b.toNat / 16) * 16 + UInt8.ofNat (b.toNat % 16) = b := by
  have hb := b.toNat_lt
  rw [← UInt8.toNat_inj, UInt8.toNat_add, UInt8.toNat_mul, UInt8.toNat_ofNat',
    UInt8.toNat_ofNat']
  show (b.toNat / 16 % 256 * 16 % 256 + b.toNat % 16 % 256) % 256 = _
  omega

/-- and any two values are the halves of one. -/
theorem exists_halves (n m : Fin 16) : ∃ b, halves b = [n, m] := by
  refine ⟨UInt8.ofNat (n.val * 16 + m.val), ?_⟩
  have hbyte : (UInt8.ofNat (n.val * 16 + m.val)).toNat = n.val * 16 + m.val := by
    rw [UInt8.toNat_ofNat']
    omega
  unfold halves
  simp only [hbyte, List.cons.injEq, Fin.ext_iff, and_true]
  omega

/-- **A text spells digits if it does without its blanks**, one character for each. -/
theorem spells_iff {text : List Char} {ns : List (Fin 16)} : Spells text (ns.map (digit ·.val)) ↔
    List.Forall₂ (fun c n => StandsFor c (digit n.val)) (text.filter fun c => !isBlank c) ns := by
  constructor
  · -- along the spelling; blanks leave the values as they are
    intro h
    generalize hdigits : ns.map (digit ·.val) = digits at h
    induction h generalizing ns with
    | nil =>
      obtain rfl := List.map_eq_nil_iff.1 hdigits
      exact .nil
    | digit hc _ ih =>
      obtain ⟨n, ns, rfl, rfl, rfl⟩ := List.map_eq_cons_iff.1 hdigits
      have hblank := (standsFor_iff.1 hc).1.not_isBlank
      rw [List.filter_cons_of_pos (by rw [hblank]; rfl)]
      exact .cons hc (ih rfl)
    | blank hc _ ih =>
      rw [List.filter_cons_of_neg (by rw [hc]; exact Bool.false_ne_true)]
      exact ih hdigits
  · intro h
    induction text generalizing ns with
    | nil =>
      cases h
      exact .nil
    | cons c text ih =>
      cases hc : isBlank c with
      | true =>
        rw [List.filter_cons_of_neg (by rw [hc]; exact Bool.false_ne_true)] at h
        exact .blank hc (ih h)
      | false =>
        rw [List.filter_cons_of_pos (by rw [hc]; rfl)] at h
        rcases h with _ | ⟨hstands, h⟩
        exact .digit hstands (ih h)

end Hex

namespace HexInput

open Hex

variable {data : Bytes} {text : String}

/-! ## Pairs of digits -/

/-- **Pairs of digits are the bytes with these digits**, -/
theorem pairs_of_values {row : Bytes} (h : List.Forall₂ HasValue row (values data))
    (position : Nat) : pairs position row = .ok data := by
  induction data generalizing row position with
  | nil =>
    cases h
    rfl
  | cons b data ih =>
    rcases h with _ | ⟨hhigh, _ | ⟨hlow, h⟩⟩
    unfold pairs
    rw [hhigh, hlow]
    dsimp only
    rw [ih h, ofNat_halves]

/-- of which there are some. -/
theorem exists_values {row : Bytes} (heven : row.length % 2 = 0) (h : ∀ b ∈ row, IsDigit b.toNat) :
    ∃ data, List.Forall₂ HasValue row (values data) := by
  match row with
  | [] => exact ⟨[], .nil⟩
  | [_] => cases heven
  | high :: low :: rest =>
    rw [List.forall_mem_cons, List.forall_mem_cons] at h
    obtain ⟨hhigh, hlow, hrest⟩ := h
    obtain ⟨n, hn⟩ := hhigh.exists_hasValue
    obtain ⟨m, hm⟩ := hlow.exists_hasValue
    rw [List.length_cons, List.length_cons] at heven
    obtain ⟨data, hdata⟩ := exists_values (by omega) hrest
    obtain ⟨b, hb⟩ := exists_halves n m
    refine ⟨b :: data, ?_⟩
    show List.Forall₂ HasValue _ (halves b ++ values data)
    rw [hb]
    exact .cons hn (.cons hm hdata)

/-- **The first byte that is no digit is found.** -/
theorem pairs_of_invalid {front rest : Bytes} {byte : UInt8}
    (hfront : ∀ b ∈ front, IsDigit b.toNat) (hbyte : ¬ IsDigit byte.toNat)
    (heven : (front ++ byte :: rest).length % 2 = 0) (position : Nat) :
    pairs position (front ++ byte :: rest) =
      .error (.invalidDigit byte (position + front.length)) := by
  have hnone := value?_eq_none_iff.2 hbyte
  -- the byte is the first or the second of its pair, or the pair in front has both digits
  match front with
  | [] =>
    match rest with
    | [] => cases heven
    | low :: rest =>
      show pairs position (byte :: low :: rest) = _
      unfold pairs
      rw [hnone]
      rfl
  | [high] =>
    obtain ⟨n, hn⟩ := (hfront high List.mem_cons_self).exists_hasValue
    show pairs position (high :: byte :: rest) = _
    unfold pairs
    rw [hn, hnone]
    rfl
  | high :: low :: front =>
    rw [List.forall_mem_cons, List.forall_mem_cons] at hfront
    obtain ⟨hhigh, hlow, hfront⟩ := hfront
    obtain ⟨n, hn⟩ := hhigh.exists_hasValue
    obtain ⟨m, hm⟩ := hlow.exists_hasValue
    show pairs position (high :: low :: (front ++ byte :: rest)) = _
    unfold pairs
    rw [hn, hm]
    dsimp only
    rw [List.cons_append, List.cons_append, List.length_cons, List.length_cons] at heven
    rw [pairs_of_invalid hfront hbyte (by omega) (position + 2)]
    have hposition : position + 2 + front.length = position + (high :: low :: front).length := by
      rw [List.length_cons, List.length_cons]
      omega
    rw [hposition]

/-! ## Characters as bytes -/

/-- A digit is one byte, with its number, -/
theorem encodeChar_of_isDigit {c : Char} (h : IsDigit c.toNat) :
    String.utf8EncodeChar c = [UInt8.ofNat c.toNat] := by
  have hlt := h.lt
  rw [String.utf8EncodeChar.eq_1]
  exact if_pos (Nat.le_of_lt_succ hlt)

/-- and no other character has bytes that are digits. -/
theorem isDigit_of_encodeChar {c : Char} (h : ∀ b ∈ String.utf8EncodeChar c, IsDigit b.toNat) :
    IsDigit c.toNat := by
  obtain ⟨lead, tail, hbytes, hwidth, -, -, hvalue⟩ := Utf8.exists_spelling c
  rw [hbytes, List.forall_mem_cons] at h
  have hlt := h.1.lt
  rw [Utf8.width_eq, if_pos hlt] at hwidth
  obtain rfl : tail = [] := List.length_eq_zero_iff.1 (Nat.succ.inj hwidth).symm
  rw [Utf8.leadBits_eq, if_neg (by omega), if_neg (by omega), if_neg (by omega)] at hvalue
  exact (show lead.toNat = c.toNat from hvalue) ▸ h.1

/-- The characters of a text that are no blanks. -/
def bare (text : String) : List Char :=
  text.toList.filter fun c => !isBlank c

theorem digits_eq (text : String) : digits text = (bare text).flatMap String.utf8EncodeChar := by
  unfold digits Utf8.encode
  rw [String.toList_ofList]
  rfl

/-- **The bytes of a text are digits where its characters are**, -/
theorem forall_isDigit_iff :
    (∀ b ∈ digits text, IsDigit b.toNat) ↔ ∀ c ∈ bare text, IsDigit c.toNat := by
  rw [digits_eq]
  constructor
  · intro h c hc
    exact isDigit_of_encodeChar fun b hb => h b (List.mem_flatMap.2 ⟨c, hc, hb⟩)
  · intro h b hb
    obtain ⟨c, hc, hb⟩ := List.mem_flatMap.1 hb
    have hdigit := h c hc
    rw [encodeChar_of_isDigit hdigit, List.mem_singleton] at hb
    rw [hb, UInt8.toNat_ofNat', Nat.mod_eq_of_lt (Nat.lt_trans hdigit.lt (by decide))]
    exact hdigit

/-- and then there is one for each. -/
theorem digits_of_isDigit (h : ∀ c ∈ bare text, IsDigit c.toNat) :
    digits text = (bare text).map fun c => UInt8.ofNat c.toNat := by
  rw [digits_eq, List.map_eq_flatMap]
  exact List.flatMap_congr fun c hc => encodeChar_of_isDigit (h c hc)

/-- **A text spells the digits of bytes if its own bytes have their values.** -/
theorem spells_ofBytes_iff : Spells text.toList (ofBytes data).toList ↔
    List.Forall₂ HasValue (digits text) (values data) := by
  rw [toList_ofBytes, spells_iff]
  show List.Forall₂ _ (bare text) _ ↔ _
  simp only [standsFor_iff, List.forall₂_and_left]
  constructor
  · rintro ⟨hdigits, hvalues⟩
    rw [digits_of_isDigit hdigits]
    exact List.forall₂_map_left_iff.2 hvalues
  · intro h
    have hdigits : ∀ c ∈ bare text, IsDigit c.toNat :=
      forall_isDigit_iff.1
        ((List.forall₂_and_left _ _).1 (h.imp fun _ _ hb => ⟨hb.isDigit, hb⟩)).1
    rw [digits_of_isDigit hdigits] at h
    exact ⟨hdigits, List.forall₂_map_left_iff.1 h⟩

/-! ## What is read -/

/-- **Why a text gives no bytes**, and what is said about it: an odd number of bytes first, else the
first byte that is no digit, and where it stands in the text without its blanks. -/
inductive Refused (text : String) : CommandError → Prop
  | oddLength (h : (digits text).length % 2 = 1) :
    Refused text { code := 60, message := "invalid hex: Odd number of digits" }
  | invalidDigit (heven : (digits text).length % 2 = 0) {front rest : Bytes} {byte : UInt8}
    (h : digits text = front ++ byte :: rest) (hfront : ∀ b ∈ front, IsDigit b.toNat)
    (hbyte : ¬ IsDigit byte.toNat) :
    Refused text
      { code := 60
        message := "invalid hex: " ++ ("Invalid character " ++
          Quoted.char (Char.ofNat byte.toNat) ++ " at position " ++ toString front.length) }

/-- **Bytes are read from a text that spells their digits**, -/
theorem parse_of_spells (h : Spells text.toList (ofBytes data).toList) : parse text = .ok data := by
  have hvalues := spells_ofBytes_iff.1 h
  have heven : (digits text).length = 2 * data.length :=
    hvalues.length_eq.trans (length_values data)
  unfold parse decode
  rw [if_neg (by omega), pairs_of_values hvalues]

/-- and a text that is refused gives none. -/
theorem parse_of_refused {e : CommandError} (h : Refused text e) : parse text = .error e := by
  cases h with
  | oddLength hodd =>
    unfold parse decode
    rw [if_pos hodd]
    rfl
  | @invalidDigit heven front rest byte htext hfront hbyte =>
    unfold parse decode
    rw [if_neg (by omega), htext, pairs_of_invalid hfront hbyte (htext ▸ heven), Nat.zero_add]
    rfl

/-- A text of digits, two to a byte, spells those of some bytes, -/
theorem exists_spells (heven : (digits text).length % 2 = 0)
    (h : ∀ c ∈ bare text, IsDigit c.toNat) : ∃ data, Spells text.toList (ofBytes data).toList := by
  obtain ⟨data, hdata⟩ := exists_values heven (forall_isDigit_iff.2 h)
  exact ⟨data, spells_ofBytes_iff.2 hdata⟩

/-- and all others are refused. -/
theorem exists_refused (h : ¬ ((digits text).length % 2 = 0 ∧ ∀ c ∈ bare text, IsDigit c.toNat)) :
    ∃ e, Refused text e := by
  rcases Nat.mod_two_eq_zero_or_one (digits text).length with heven | hodd
  · -- some byte is no digit, and the first of these is the one that is named
    rw [← forall_isDigit_iff] at h
    have hfind : ((digits text).find? fun b => !decide (IsDigit b.toNat)).isSome := by
      simpa [List.find?_isSome, heven] using h
    obtain ⟨byte, hbyte⟩ := Option.isSome_iff_exists.1 hfind
    obtain ⟨hnot, front, rest, htext, hfront⟩ := List.find?_eq_some_iff_append.1 hbyte
    exact ⟨_, .invalidDigit heven htext (by simpa using hfront) (by simpa using hnot)⟩
  · exact ⟨_, .oddLength hodd⟩

/-- **Bytes are read from the texts that spell their digits**, and from no others. There are such
bytes if the text without its blanks is an even number of bytes long and all its characters are
digits; any other text is refused, with the error that says why. -/
theorem parsed_iff_spelled (text : String) :
    (∀ data, parse text = .ok data ↔ Spells text.toList (ofBytes data).toList) ∧
    ((∃ data, parse text = .ok data) ↔
      (digits text).length % 2 = 0 ∧ ∀ c ∈ bare text, IsDigit c.toNat) ∧
    ∀ e, parse text = .error e ↔ Refused text e := by
  by_cases h : (digits text).length % 2 = 0 ∧ ∀ c ∈ bare text, IsDigit c.toNat
  · obtain ⟨data, hdata⟩ := exists_spells h.1 h.2
    have hparse := parse_of_spells hdata
    refine ⟨fun other => ⟨fun hother => ?_, parse_of_spells⟩, iff_of_true ⟨data, hparse⟩ h,
      fun e => ⟨fun he => ?_, parse_of_refused⟩⟩
    · obtain rfl := Except.ok.inj (hparse.symm.trans hother)
      exact hdata
    · cases hparse.symm.trans he
  · obtain ⟨e, he⟩ := exists_refused h
    have hparse := parse_of_refused he
    refine ⟨fun data => ⟨fun hdata => ?_, parse_of_spells⟩, iff_of_false ?_ h,
      fun other => ⟨fun hother => ?_, parse_of_refused⟩⟩
    · cases hparse.symm.trans hdata
    · rintro ⟨data, hdata⟩
      cases hparse.symm.trans hdata
    · obtain rfl := Except.error.inj (hparse.symm.trans hother)
      exact he

example : parse "0 A\u00a0b c" = .ok [0x0a, 0xbc] := by decide +kernel

example : parse "aa \u00e9" =
    .error { code := 60, message := "invalid hex: Invalid character '\u00c3' at position 2" } := by
  decide +kernel

/-! Bytes are read from the digits they are shown with. -/

/-- Digits spell themselves, with blanks behind them. -/
theorem spells_ofBytes_append (data : Bytes) {rest : List Char} (h : Spells rest []) :
    Spells ((ofBytes data).toList ++ rest) (ofBytes data).toList := by
  rw [toList_ofBytes]
  induction values data with
  | nil => exact h
  | cons n ns ih => exact .digit (.inl rfl) ih

/-- They are read as they are shown, -/
theorem parse_ofBytes (data : Bytes) : parse (ofBytes data) = .ok data := by
  refine parse_of_spells ?_
  have hself := spells_ofBytes_append data .nil
  rwa [List.append_nil] at hself

end HexInput

end ServoLink
