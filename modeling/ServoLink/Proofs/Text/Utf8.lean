import Mathlib.Tactic.SplitIfs
import ServoLink.Text.Utf8

/-!
# Text written is text read

The bytes that a text is written to are read as that text (`Utf8.decode?_encode`), since each
character is read from its own bytes, whatever stands behind them
(`Utf8.scan_encodeChar_append`). A character has a lead byte and up to three bytes behind it
that continue it. Beside the widths it matters what may follow the lead byte directly, which
excludes the numbers that have no character or a shorter form. Where the bytes end before the
character does, it is read as one that cannot be completed (`Utf8.scan_take_encodeChar`).
-/

namespace ServoLink.Utf8

variable {lead : UInt8} {tail : Bytes} {n : Nat}

/-! ## Bytes by their numbers -/

theorem isContinuation_eq (b : UInt8) :
    isContinuation b = decide (128 ≤ b.toNat ∧ b.toNat ≤ 191) := by
  simp [isContinuation, UInt8.le_iff_toNat_le, Bool.decide_and]

/-- The byte that continues a character by six bits of its number. -/
theorem isContinuation_ofNat (n : Nat) :
    isContinuation (UInt8.ofNat (n % 64 + 128)) = true := by
  rw [isContinuation_eq, UInt8.toNat_ofNat', decide_eq_true_eq]
  omega

/-- These six bits. -/
theorem toNat_ofNat_mod (n : Nat) : (UInt8.ofNat (n % 64 + 128)).toNat % 64 = n % 64 := by
  rw [UInt8.toNat_ofNat']
  omega

theorem width_eq (lead : UInt8) :
    width lead = if lead.toNat < 128 then 1
      else if 194 ≤ lead.toNat ∧ lead.toNat ≤ 223 then 2
      else if 224 ≤ lead.toNat ∧ lead.toNat ≤ 239 then 3
      else if 240 ≤ lead.toNat ∧ lead.toNat ≤ 244 then 4
      else 0 := by
  simp [width, UInt8.lt_iff_toNat_lt, UInt8.le_iff_toNat_le]

theorem leadBits_eq (lead : UInt8) :
    leadBits lead = if 194 ≤ lead.toNat ∧ lead.toNat ≤ 223 then lead.toNat % 32
      else if 224 ≤ lead.toNat ∧ lead.toNat ≤ 239 then lead.toNat % 16
      else if 240 ≤ lead.toNat ∧ lead.toNat ≤ 244 then lead.toNat % 8
      else lead.toNat := by
  unfold leadBits
  rw [width_eq]
  split_ifs <;> first | rfl | omega

theorem isSecond_eq (lead b : UInt8) :
    isSecond lead b = decide (128 ≤ b.toNat ∧ b.toNat ≤ 191 ∧
      (lead.toNat = 224 → 160 ≤ b.toNat) ∧ (lead.toNat = 237 → b.toNat ≤ 159) ∧
      (lead.toNat = 240 → 144 ≤ b.toNat) ∧ (lead.toNat = 244 → b.toNat ≤ 143)) := by
  rw [Bool.eq_iff_iff, decide_eq_true_eq]
  unfold isSecond
  rw [isContinuation_eq]
  simp only [← UInt8.toNat_inj, UInt8.le_iff_toNat_le, UInt8.reduceToNat]
  split_ifs <;> simp <;> omega

/-! ## One character -/

/-- Bytes that continue a character are counted, as far as they are asked for. -/
theorem continued_append (h : ∀ b ∈ tail, isContinuation b = true) (rest : Bytes) :
    continued tail.length (tail ++ rest) = tail.length := by
  induction tail with
  | nil => rfl
  | cons b tail ih =>
    rw [List.forall_mem_cons] at h
    show (if isContinuation b then continued tail.length (tail ++ rest) + 1 else 0) = _
    rw [if_pos h.1, ih h.2]
    rfl

/-- So they are where there are no others. -/
theorem continued_of_length_le (h : ∀ b ∈ tail, isContinuation b = true) (hle : tail.length ≤ n) :
    continued n tail = tail.length := by
  induction tail generalizing n with
  | nil => cases n <;> rfl
  | cons b tail ih =>
    rw [List.forall_mem_cons] at h
    obtain ⟨n, rfl⟩ := Nat.exists_eq_succ_of_ne_zero (Nat.ne_of_gt (Nat.lt_of_lt_of_le
      (Nat.succ_pos _) hle))
    show (if isContinuation b then continued n tail + 1 else 0) = _
    rw [if_pos h.1, ih h.2 (Nat.le_of_succ_le_succ hle)]
    rfl

/-- A lead byte alone is a character of its own. -/
theorem scan_cons (hwidth : width lead = 1) (rest : Bytes) :
    scan (lead :: rest) = some (Char.ofNat (leadBits lead)) :: scan rest := by
  have htail : tailLength lead rest = 0 := by
    unfold tailLength
    rw [hwidth]
  rw [scan, htail, if_pos hwidth]
  rfl

/-- **A lead byte with all the bytes that it asks for** is read as one character. -/
theorem scan_cons_append {second : UInt8} (hwidth : width lead = (second :: tail).length + 1)
    (hsecond : isSecond lead second = true) (htail : ∀ b ∈ tail, isContinuation b = true)
    (rest : Bytes) :
    scan (lead :: second :: tail ++ rest)
      = some (Char.ofNat (accumulate (leadBits lead) (second :: tail))) :: scan rest := by
  have hlength : tailLength lead (second :: tail ++ rest) = (second :: tail).length := by
    unfold tailLength
    rw [hwidth]
    show (if isSecond lead second then continued tail.length (tail ++ rest) + 1 else 0) = _
    rw [if_pos hsecond, continued_append htail]
    rfl
  have hscan : scan (lead :: (second :: tail ++ rest)) = _ := scan.eq_2 lead _
  rw [hlength, List.take_left, List.drop_left, if_pos hwidth] at hscan
  exact hscan

/-! The lead bytes, by the bits of the character that they hold. -/

theorem lead_one (h : n < 128) :
    width (UInt8.ofNat n) = 1 ∧ leadBits (UInt8.ofNat n) = n := by
  have hlead : (UInt8.ofNat n).toNat = n := by
    rw [UInt8.toNat_ofNat']
    omega
  rw [width_eq, leadBits_eq, hlead]
  split_ifs <;> omega

theorem lead_two (h : 2 ≤ n) (h' : n < 32) :
    (UInt8.ofNat (n + 192)).toNat = n + 192 ∧
      width (UInt8.ofNat (n + 192)) = 2 ∧ leadBits (UInt8.ofNat (n + 192)) = n := by
  have hlead : (UInt8.ofNat (n + 192)).toNat = n + 192 := by
    rw [UInt8.toNat_ofNat']
    omega
  rw [width_eq, leadBits_eq, hlead]
  split_ifs <;> omega

theorem lead_three (h : n < 16) :
    (UInt8.ofNat (n + 224)).toNat = n + 224 ∧
      width (UInt8.ofNat (n + 224)) = 3 ∧ leadBits (UInt8.ofNat (n + 224)) = n := by
  have hlead : (UInt8.ofNat (n + 224)).toNat = n + 224 := by
    rw [UInt8.toNat_ofNat']
    omega
  rw [width_eq, leadBits_eq, hlead]
  split_ifs <;> omega

theorem lead_four (h : n < 5) :
    (UInt8.ofNat (n + 240)).toNat = n + 240 ∧
      width (UInt8.ofNat (n + 240)) = 4 ∧ leadBits (UInt8.ofNat (n + 240)) = n := by
  have hlead : (UInt8.ofNat (n + 240)).toNat = n + 240 := by
    rw [UInt8.toNat_ofNat']
    omega
  rw [width_eq, leadBits_eq, hlead]
  split_ifs <;> omega

/-- **A character as it is written**: a lead byte, and as many bytes behind it as it asks for,
which continue it. -/
structure Spelling (c : Char) (lead : UInt8) (tail : Bytes) : Prop where
  bytes : String.utf8EncodeChar c = lead :: tail
  width : width lead = tail.length + 1
  second : ∀ b ∈ tail.head?, isSecond lead b = true
  continued : ∀ b ∈ tail.drop 1, isContinuation b = true
  value : accumulate (leadBits lead) tail = c.val.toNat

/-- Every character has a spelling. -/
theorem exists_spelling (c : Char) : ∃ lead tail, Spelling c lead tail := by
  -- there are no surrogates, and there is a last character
  have hvalid : c.val.toNat < 0xD800 ∨ 0xDFFF < c.val.toNat ∧ c.val.toNat < 0x110000 := c.valid
  have hbytes := String.utf8EncodeChar.eq_1 c
  split_ifs at hbytes with hone htwo hthree
  · obtain ⟨hwidth, hbits⟩ := lead_one (n := c.val.toNat) (by omega)
    exact ⟨_, _, hbytes, hwidth, by simp, by simp, hbits⟩
  · obtain ⟨hlead, hwidth, hbits⟩ := lead_two (n := c.val.toNat / 64) (by omega) (by omega)
    rw [Nat.mod_eq_of_lt (by omega : c.val.toNat / 64 < 32)] at hbytes
    refine ⟨_, _, hbytes, hwidth, ?_, by simp, ?_⟩
    · intro b hb
      obtain rfl := Option.some.inj hb
      rw [isSecond_eq, hlead, UInt8.toNat_ofNat', decide_eq_true_eq]
      omega
    · simp only [accumulate, List.foldl_cons, List.foldl_nil, hbits, toNat_ofNat_mod]
      omega
  · obtain ⟨hlead, hwidth, hbits⟩ := lead_three (n := c.val.toNat / 4096) (by omega)
    rw [Nat.mod_eq_of_lt (by omega : c.val.toNat / 4096 < 16)] at hbytes
    refine ⟨_, _, hbytes, hwidth, ?_, List.forall_mem_singleton.2 (isContinuation_ofNat _), ?_⟩
    · intro b hb
      obtain rfl := Option.some.inj hb
      rw [isSecond_eq, hlead, UInt8.toNat_ofNat', decide_eq_true_eq]
      omega
    · simp only [accumulate, List.foldl_cons, List.foldl_nil, hbits, toNat_ofNat_mod]
      omega
  · obtain ⟨hlead, hwidth, hbits⟩ := lead_four (n := c.val.toNat / 262144) (by omega)
    rw [Nat.mod_eq_of_lt (by omega : c.val.toNat / 262144 < 8)] at hbytes
    refine ⟨_, _, hbytes, hwidth, ?_, List.forall_mem_cons.2 ⟨isContinuation_ofNat _,
      List.forall_mem_singleton.2 (isContinuation_ofNat _)⟩, ?_⟩
    · intro b hb
      obtain rfl := Option.some.inj hb
      rw [isSecond_eq, hlead, UInt8.toNat_ofNat', decide_eq_true_eq]
      omega
    · simp only [accumulate, List.foldl_cons, List.foldl_nil, hbits, toNat_ofNat_mod]
      omega

/-- **Every character is read from its own bytes**, whatever stands behind them. -/
theorem scan_encodeChar_append (c : Char) (rest : Bytes) :
    scan (String.utf8EncodeChar c ++ rest) = some c :: scan rest := by
  obtain ⟨lead, tail, hbytes, hwidth, hsecond, hcontinued, hvalue⟩ := exists_spelling c
  have hread : some (Char.ofNat (accumulate (leadBits lead) tail)) = some c := by
    rw [hvalue]
    exact congrArg some c.ofNat_toNat
  rw [hbytes, ← hread]
  cases tail with
  | nil => exact scan_cons hwidth rest
  | cons second tail => exact scan_cons_append hwidth (hsecond second rfl) hcontinued rest

/-- **A character that is cut off** is read as one that cannot be completed. -/
theorem scan_take_encodeChar {c : Char} (hpos : 0 < n)
    (hcut : n < (String.utf8EncodeChar c).length) :
    scan ((String.utf8EncodeChar c).take n) = [none] := by
  obtain ⟨lead, tail, hbytes, hwidth, hsecond, hcontinued, -⟩ := exists_spelling c
  obtain ⟨k, rfl⟩ := Nat.exists_eq_succ_of_ne_zero (Nat.ne_of_gt hpos)
  rw [hbytes, List.length_cons] at hcut
  have hlength : tailLength lead (tail.take k) = k := by
    unfold tailLength
    cases tail with
    | nil => exact absurd hcut (Nat.not_lt.2 (Nat.le_add_left 1 k))
    | cons second tail =>
      cases k with
      | zero => rw [hwidth]; rfl
      | succ k =>
        rw [hwidth, List.take_succ_cons]
        show (if isSecond lead second then continued tail.length (tail.take k) + 1 else 0) = _
        rw [if_pos (hsecond second rfl), continued_of_length_le]
        · rw [List.length_take, Nat.min_eq_left (Nat.le_of_lt (by simpa using hcut))]
        · exact fun b hb => hcontinued b (List.mem_of_mem_take hb)
        · exact List.length_take_le' _ _
  rw [hbytes, List.take_succ_cons, scan, hlength, hwidth, if_neg (by omega),
    List.drop_eq_nil_of_le (List.length_take_le _ _), scan]

/-- No byte of a character is zero, but for the one that is zero itself. -/
theorem ne_zero_of_mem_encodeChar {c : Char} (hc : c ≠ '\x00') {b : UInt8}
    (hb : b ∈ String.utf8EncodeChar c) : b ≠ 0 := by
  obtain ⟨lead, tail, hbytes, hwidth, hsecond, hcontinued, hvalue⟩ := exists_spelling c
  rw [hbytes] at hb
  rintro rfl
  cases hb with
  | head =>
    -- a lead byte that is zero asks for no more bytes
    obtain rfl : tail = [] := List.length_eq_zero_iff.1 (Nat.succ.inj hwidth).symm
    exact hc (Char.ext (UInt32.toNat_inj.1 hvalue.symm))
  | tail _ hb =>
    cases hb with
    | head more =>
      have hzero := hsecond 0 rfl
      rw [isSecond_eq, decide_eq_true_eq] at hzero
      exact absurd hzero.1 (by decide)
    | tail second hb => exact absurd (hcontinued 0 hb) (by decide)

/-! ## Texts -/

/-- What is scanned of a text are its characters. -/
theorem scan_encode (text : String) : scan (encode text) = text.toList.map some := by
  unfold encode
  induction text.toList with
  | nil => rw [List.flatMap_nil, scan, List.map_nil]
  | cons c cs ih => rw [List.flatMap_cons, scan_encodeChar_append, ih, List.map_cons]

/-- **The bytes of a text are read as that text.** -/
theorem decode?_encode (text : String) : decode? (encode text) = some text := by
  have hall (cs : List Char) : (cs.map some).mapM id = some cs := by
    induction cs with
    | nil => rfl
    | cons c cs ih => rw [List.map_cons, List.mapM_cons, ih]; rfl
  unfold decode?
  rw [scan_encode, hall]
  exact congrArg some text.ofList_toList

end ServoLink.Utf8
