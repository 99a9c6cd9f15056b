import ServoLink.Proofs.Text.Utf8
import ServoLink.Text.Field

/-!
# What a fixed field shows of a text

A field keeps the first bytes of a text, and characters have up to four of them. So the cut may
fall inside a character. What is read back are the characters that have been kept whole
(`Utf8.Fits`), and then, if the cut has left a part of one more, a replacement character for it
(`Field.toText_ofText`). Nothing else gets lost: the closing zero byte is the first one there is,
since only the character zero is written with one.
-/

namespace ServoLink

namespace Utf8

variable {n : Nat} {text shown : List Char}

/-- The bytes of some characters. -/
def bytes (chars : List Char) : Bytes :=
  chars.flatMap String.utf8EncodeChar

/-- The characters at the front of a text that are kept whole in `n` bytes. -/
def whole : Nat → List Char → List Char
  | _, [] => []
  | n, c :: text =>
    let size := (String.utf8EncodeChar c).length
    if size ≤ n then c :: whole (n - size) text else []

/-- **The longest beginning of a text that fits into `n` bytes.** -/
structure Fits (n : Nat) (text shown : List Char) : Prop where
  initial : shown <+: text
  length_le : (bytes shown).length ≤ n
  longest : ∀ other, other <+: text → (bytes other).length ≤ n → other <+: shown

/-- There is only one. -/
theorem Fits.eq {other : List Char} (h : Fits n text shown) (h' : Fits n text other) :
    shown = other :=
  (h'.longest shown h.initial h.length_le).eq_of_length_le
    (h.longest other h'.initial h'.length_le).length_le

theorem length_bytes_cons (c : Char) (text : List Char) :
    (bytes (c :: text)).length = (String.utf8EncodeChar c).length + (bytes text).length := by
  unfold bytes
  rw [List.flatMap_cons, List.length_append]

/-- The characters kept whole are that beginning. -/
theorem fits_whole (n : Nat) (text : List Char) : Fits n text (whole n text) := by
  induction text generalizing n with
  | nil => exact ⟨List.prefix_rfl, Nat.zero_le n, fun other h _ => h⟩
  | cons c text ih =>
    unfold whole
    dsimp only
    by_cases hfit : (String.utf8EncodeChar c).length ≤ n
    · obtain ⟨hinitial, hlength, hlongest⟩ := ih (n - (String.utf8EncodeChar c).length)
      rw [if_pos hfit]
      refine ⟨List.cons_prefix_cons.2 ⟨rfl, hinitial⟩, ?_, fun other hother hle => ?_⟩
      · rw [length_bytes_cons]
        omega
      · rcases List.prefix_cons_iff.1 hother with rfl | ⟨more, rfl, hmore⟩
        · exact List.nil_prefix
        · rw [length_bytes_cons] at hle
          exact List.cons_prefix_cons.2 ⟨rfl, hlongest more hmore (by omega)⟩
    · rw [if_neg hfit]
      refine ⟨List.nil_prefix, Nat.zero_le n, fun other hother hle => ?_⟩
      rcases List.prefix_cons_iff.1 hother with rfl | ⟨more, rfl, -⟩
      · exact List.prefix_rfl
      · rw [length_bytes_cons] at hle
        omega

/-- **The first bytes of a text** are read as the characters that are whole, and one that cannot
be completed if there is a part of it. -/
theorem scan_take_bytes (n : Nat) (text : List Char) :
    scan ((bytes text).take n) = (whole n text).map some
      ++ if (bytes (whole n text)).length < min n (bytes text).length then [none] else [] := by
  induction text generalizing n with
  | nil => simp [bytes, whole, scan]
  | cons c text ih =>
    have hcons : bytes (c :: text) = String.utf8EncodeChar c ++ bytes text := List.flatMap_cons
    unfold whole
    dsimp only
    by_cases hfit : (String.utf8EncodeChar c).length ≤ n
    · rw [if_pos hfit, length_bytes_cons, length_bytes_cons, hcons, List.take_append,
        List.take_of_length_le hfit, scan_encodeChar_append, ih, List.map_cons, List.cons_append]
      congr 3
      rw [eq_iff_iff]
      omega
    · have hpart : (bytes (c :: text)).take n = (String.utf8EncodeChar c).take n := by
        rw [hcons, List.take_append_of_le_length (Nat.le_of_not_le hfit)]
      rw [if_neg hfit, hpart, length_bytes_cons]
      cases n with
      | zero => simp [scan]
      | succ n =>
        rw [scan_take_encodeChar (Nat.succ_pos n) (Nat.not_le.1 hfit), if_pos]
        · rfl
        · show 0 < _
          omega

/-- A text without zeros is written without zeros. -/
theorem ne_zero_of_mem_bytes (hnul : '\x00' ∉ text) : ∀ b ∈ bytes text, b ≠ 0 := by
  intro b hb
  obtain ⟨c, hc, hmem⟩ := List.mem_flatMap.1 hb
  exact ne_zero_of_mem_encodeChar (fun h => hnul (h ▸ hc)) hmem

end Utf8

namespace Field

variable {n : Nat} {text : String}

/-- The bytes of a field: those that are kept of a text, and zeros behind them. -/
theorem toList_ofText (n : Nat) (text : String) :
    (ofText n text).toList
      = kept n text ++ List.replicate (n - (kept n text).length) 0 := rfl

/-- **The bytes kept are what is read**, if none of them is zero and one place is left. -/
theorem takeWhile_ofText (hpos : 1 ≤ n) (hnul : '\x00' ∉ text.toList) :
    (ofText n text).toList.takeWhile (· != 0) = kept n text := by
  have hroom : n - (kept n text).length = n - (kept n text).length - 1 + 1 := by
    have hkept : (kept n text).length ≤ n - 1 := List.length_take_le _ _
    omega
  have hne : ∀ b ∈ kept n text, (b != 0) = true := fun b hb =>
    bne_iff_ne.2 (Utf8.ne_zero_of_mem_bytes hnul b (List.mem_of_mem_take hb))
  rw [toList_ofText, List.takeWhile_append_of_pos hne, hroom, List.replicate_succ,
    List.takeWhile_cons_of_neg (by decide), List.append_nil]

/-- What is kept leaves room for a zero byte. -/
theorem getLast?_ofText (hpos : 1 ≤ n) (text : String) :
    (ofText n text).toList.getLast? = some 0 := by
  have hkept : (kept n text).length ≤ n - 1 := List.length_take_le _ _
  rw [toList_ofText, List.getLast?_append, List.getLast?_replicate, if_neg (by omega)]
  rfl

/-- The first bytes of a text, read leniently. -/
theorem toList_decodeLossy_take (n : Nat) (text : List Char) :
    (Utf8.decodeLossy ((Utf8.bytes text).take n)).toList
      = Utf8.whole n text ++
        if (Utf8.bytes (Utf8.whole n text)).length < min n (Utf8.bytes text).length then ['\uFFFD']
        else [] := by
  unfold Utf8.decodeLossy
  rw [Utf8.scan_take_bytes, String.toList_ofList, List.map_append, List.map_map]
  congr 1
  · exact List.map_id _
  · split <;> rfl

/-- **What a field shows of a text** without zeros. The field ends in a zero byte. Of a text that
is shorter than the field all is shown. Otherwise it is the longest beginning, in whole characters,
that leaves room for the zero byte, and behind it a replacement character if the bytes that are
kept end inside of a character. So what is shown is a beginning of the text, unless they end inside
of a character that is no replacement character itself. -/
theorem toText_ofText (hpos : 1 ≤ n) (hnul : '\x00' ∉ text.toList) :
    ∃ shown, Utf8.Fits (n - 1) text.toList shown ∧
      let torn := (Utf8.bytes shown).length < min (n - 1) (Utf8.encode text).length
      let back := toText (ofText n text).toList
      (ofText n text).toList.getLast? = some 0 ∧
      back.toList = shown ++ (if torn then ['\uFFFD'] else []) ∧
      (back.toList <+: text.toList ↔
        (torn → ∃ rest, text.toList = shown ++ '\uFFFD' :: rest)) ∧
      ((Utf8.encode text).length < n → back = text) := by
  have hfits := Utf8.fits_whole (n - 1) text.toList
  refine ⟨Utf8.whole (n - 1) text.toList, hfits, ?_⟩
  intro torn back
  have hback : back.toList
      = Utf8.whole (n - 1) text.toList ++ if torn then ['\uFFFD'] else [] := by
    have hread : back = Utf8.decodeLossy (kept n text) :=
      congrArg Utf8.decodeLossy (takeWhile_ofText hpos hnul)
    rw [hread]
    exact toList_decodeLossy_take (n - 1) text.toList
  refine ⟨getLast?_ofText hpos text, hback, ?_, fun hshort => ?_⟩
  · rw [hback]
    by_cases htorn : torn
    · rw [if_pos htorn]
      constructor
      · rintro ⟨rest, hrest⟩ -
        exact ⟨rest, by simpa using hrest.symm⟩
      · intro h
        obtain ⟨rest, hrest⟩ := h htorn
        exact ⟨rest, by simpa using hrest.symm⟩
    · rw [if_neg htorn, List.append_nil]
      exact ⟨fun _ h => absurd h htorn, fun _ => hfits.initial⟩
  · -- the whole text fits, so it is the longest beginning that does
    have hall : Utf8.whole (n - 1) text.toList = text.toList :=
      hfits.initial.eq_of_length_le
        (hfits.longest text.toList List.prefix_rfl (Nat.le_sub_one_of_lt hshort)).length_le
    have htorn : ¬ torn := by
      show ¬ (Utf8.bytes (Utf8.whole (n - 1) text.toList)).length < _
      rw [hall]
      exact Nat.not_lt.2 (Nat.min_le_right _ _)
    rw [if_neg htorn, List.append_nil, hall] at hback
    exact String.toList_inj.1 hback

/-- A field of five bytes keeps two characters and a part of the third. -/
theorem toText_ofText_torn :
    1 ≤ 5 ∧ '\x00' ∉ "aüüb".toList ∧ (ofText 5 "aüüb").toList.getLast? = some 0 ∧
      (toText (ofText 5 "aüüb").toList).toList = ['a', 'ü', '\uFFFD'] := by
  have hnul : '\x00' ∉ "aüüb".toList := by decide
  obtain ⟨shown, hfits, hlast, hback, -, -⟩ := toText_ofText (n := 5) (by decide) hnul
  have hshown : shown = ['a', 'ü'] := by
    rw [hfits.eq (Utf8.fits_whole 4 "aüüb".toList)]
    decide
  rw [hshown] at hback
  exact ⟨by decide, hnul, hlast, hback.trans (by decide)⟩

/-- A field of two bytes keeps one of the two bytes of a character, and shows something that is not
in the text. -/
theorem not_initial_of_torn :
    ¬ ∀ (n : Nat) (text : String), 1 ≤ n → '\x00' ∉ text.toList →
      (ofText n text).toList.getLast? = some 0 ∧
      (toText (ofText n text).toList).toList <+: text.toList ∧
      ((Utf8.encode text).length < n → toText (ofText n text).toList = text) := by
  intro hall
  obtain ⟨-, hinitial, -⟩ := hall 2 "ü" (by decide) (by decide)
  revert hinitial
  decide +kernel

end Field

end ServoLink
