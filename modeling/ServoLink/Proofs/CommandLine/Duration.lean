import ServoLink.CommandLine.Duration
import ServoLink.Proofs.Text.Digits

/-!
# The durations that are understood

Blanks around a duration do not count (`Trimmed`). What is left is a numeral and a unit behind
it, which may be missing (`Duration.Written`). One unit ends like another, so it matters which
ending is looked for first; but a numeral ends in a digit, and so a duration is split where it
was put together (`Duration.splitUnit_append`). With that, the durations that are read are
those that are written (`Duration.parsed_iff_written`).
-/

namespace ServoLink

/-! ## The text between the blanks -/

/-- **A text without the blanks around it.** -/
structure Trimmed (text core : List Char) : Prop where
  around : ∃ before after, text = before ++ (core ++ after) ∧
    (∀ c ∈ before, isBlank c = true) ∧ ∀ c ∈ after, isBlank c = true
  head : ∀ c ∈ core.head?, isBlank c = false
  last : ∀ c ∈ core.getLast?, isBlank c = false

/-- What is left of a text when blanks are taken off its front does not begin with one. -/
theorem isBlank_head_dropWhile (text : List Char) :
    ∀ c ∈ (text.dropWhile isBlank).head?, isBlank c = false := by
  intro c hc
  have hnot := text.head?_dropWhile_not isBlank
  rw [Option.mem_def.1 hc] at hnot
  exact hnot

/-- Blanks are dropped up to the first character that is none. -/
theorem dropWhile_isBlank_append {before text : List Char}
    (hbefore : ∀ c ∈ before, isBlank c = true) (hhead : ∀ c ∈ text.head?, isBlank c = false) :
    (before ++ text).dropWhile isBlank = text := by
  rw [List.dropWhile_append_of_pos hbefore]
  cases text with
  | nil => rfl
  | cons c text => exact List.dropWhile_cons_of_neg (Bool.eq_false_iff.1 (hhead c rfl))

/-- Every text can be trimmed, -/
theorem trimmed_trimBlank (text : List Char) : Trimmed text (trimBlank text) := by
  let rest := text.dropWhile isBlank
  have hrest : trimBlank text ++ (rest.reverse.takeWhile isBlank).reverse = rest := by
    unfold trimBlank
    rw [← List.reverse_append, List.takeWhile_append_dropWhile, List.reverse_reverse]
  refine ⟨⟨text.takeWhile isBlank, (rest.reverse.takeWhile isBlank).reverse, ?_, ?_, ?_⟩, ?_, ?_⟩
  · rw [hrest, List.takeWhile_append_dropWhile]
  · exact List.all_eq_true.1 List.all_takeWhile
  · intro c hc
    exact List.all_eq_true.1 List.all_takeWhile c (List.mem_reverse.1 hc)
  · intro c hc
    refine isBlank_head_dropWhile text c ?_
    show rest.head? = some c
    rw [← hrest, List.head?_append, Option.mem_def.1 hc]
    rfl
  · intro c hc
    unfold trimBlank at hc
    rw [List.getLast?_reverse] at hc
    exact isBlank_head_dropWhile _ c hc

/-- and in one way only. -/
theorem trimmed_iff {text core : List Char} : Trimmed text core ↔ core = trimBlank text := by
  refine ⟨fun h => ?_, fun h => h ▸ trimmed_trimBlank text⟩
  obtain ⟨⟨before, after, rfl, hbefore, hafter⟩, hhead, hlast⟩ := h
  unfold trimBlank
  rw [List.dropWhile_append_of_pos hbefore]
  cases core with
  | nil =>
    -- all that there is are blanks, and they are all dropped from the front
    have hnone : after.dropWhile isBlank = [] := by
      have hdrop : (after ++ []).dropWhile isBlank = [] := dropWhile_isBlank_append hafter nofun
      rwa [List.append_nil] at hdrop
    rw [List.nil_append, hnone]
    rfl
  | cons c core =>
    have hfront : (c :: core ++ after).dropWhile isBlank = c :: core ++ after :=
      List.dropWhile_cons_of_neg (Bool.eq_false_iff.1 (hhead c rfl))
    have hback : ∀ d ∈ (c :: core).reverse.head?, isBlank d = false := by
      rw [List.head?_reverse]
      exact hlast
    rw [hfront, List.reverse_append, dropWhile_isBlank_append ?_ hback, List.reverse_reverse]
    exact fun d hd => hafter d (List.mem_reverse.1 hd)

/-! ## The unit -/

/-- An ending is taken off where it stands. -/
theorem stripEnd?_eq_some_iff {ending text front : List Char} :
    stripEnd? ending text = some front ↔ text = front ++ ending := by
  unfold stripEnd?
  rw [Option.ite_none_right_eq_some, List.isSuffixOf_iff_suffix, Option.some.injEq]
  constructor
  · rintro ⟨hsuffix, rfl⟩
    exact (List.suffix_iff_eq_append.1 hsuffix).symm
  · rintro rfl
    exact ⟨List.suffix_append front ending, by simp⟩

/-- An ending that is not there is not taken off. -/
theorem stripEnd?_eq_none {ending text : List Char} (h : ∀ front, text ≠ front ++ ending) :
    stripEnd? ending text = none :=
  Option.eq_none_iff_forall_ne_some.2 fun front hfront => h front (stripEnd?_eq_some_iff.1 hfront)

namespace Duration

/-- **A unit as it stands at the end of a duration**, with its length in milliseconds. Seconds
need not be written. -/
inductive Suffix : List Char → Nat → Prop
  | milliseconds : Suffix ['m', 's'] 1
  | seconds : Suffix ['s'] 1000
  | unwritten : Suffix [] 1000

/-- **A duration as it is written**: a numeral, with its value, and a unit behind it. -/
inductive Written : List Char → Nat → Nat → Prop
  | intro {numeral suffix : List Char} {value unit : Nat} (hnumeral : Numeral.Spelled numeral value)
    (hunit : Suffix suffix unit) : Written (numeral ++ suffix) value unit

/-- The unit split off a text has stood at its end. -/
theorem suffix_of_splitUnit {text numeral : List Char} {unit : Nat}
    (h : splitUnit text = (unit, numeral)) :
    ∃ suffix, Suffix suffix unit ∧ text = numeral ++ suffix := by
  unfold splitUnit at h
  split at h
  · rename_i front hfront
    cases h
    exact ⟨_, .milliseconds, stripEnd?_eq_some_iff.1 hfront⟩
  · split at h
    · rename_i front hfront
      cases h
      exact ⟨_, .seconds, stripEnd?_eq_some_iff.1 hfront⟩
    · cases h
      exact ⟨_, .unwritten, (List.append_nil _).symm⟩

/-- **The unit is split off a duration**, whatever it is. -/
theorem splitUnit_append {numeral suffix : List Char} {value unit : Nat}
    (hnumeral : Numeral.Spelled numeral value) (hunit : Suffix suffix unit) :
    splitUnit (numeral ++ suffix) = (unit, numeral) := by
  have hletter {c : Char} (hc : c.isDigit = false) : numeral.getLast? ≠ some c := fun hlast =>
    Bool.eq_false_iff.1 hc (hnumeral.isDigit_of_getLast? hlast)
  unfold splitUnit
  cases hunit with
  | milliseconds =>
    rw [stripEnd?_eq_some_iff.2 rfl]
  | seconds =>
    -- in front of this unit stands a digit, and so it does not end like the other one
    have hms : stripEnd? ['m', 's'] (numeral ++ ['s']) = none := by
      refine stripEnd?_eq_none fun front hfront => hletter (c := 'm') (by decide) ?_
      rw [List.append_cons front 'm' ['s']] at hfront
      rw [List.append_cancel_right hfront, List.getLast?_concat]
    rw [hms, stripEnd?_eq_some_iff.2 rfl]
  | unwritten =>
    have hnone {front ending : List Char} (hs : ending.getLast? = some 's') :
        numeral ++ [] ≠ front ++ ending := by
      intro hfront
      refine hletter (c := 's') (by decide) ?_
      rw [← List.append_nil numeral, hfront, List.getLast?_append, hs]
      rfl
    rw [stripEnd?_eq_none fun _ => hnone rfl, stripEnd?_eq_none fun _ => hnone rfl, List.append_nil]

/-- **What is split and read as a numeral is a duration as it is written.** -/
theorem written_iff {text numeral : List Char} {unit : Nat} (h : splitUnit text = (unit, numeral))
    (value unit' : Nat) :
    Written text value unit' ↔ unit' = unit ∧ Numeral.Spelled numeral value := by
  constructor
  · rintro ⟨hnumeral, hunit⟩
    obtain ⟨rfl, rfl⟩ := Prod.mk.inj ((splitUnit_append hnumeral hunit).symm.trans h)
    exact ⟨rfl, hnumeral⟩
  · rintro ⟨rfl, hnumeral⟩
    obtain ⟨suffix, hunit, rfl⟩ := suffix_of_splitUnit h
    exact ⟨hnumeral, hunit⟩

/-- **Why a text is no duration**, and what is said about it. -/
inductive Refused (text : List Char) : CommandError → Prop
  | empty (h : text = []) : Refused text { code := 64, message := "duration must not be empty" }
  | zero {unit : Nat} (h : Written text 0 unit) :
    Refused text { code := 64, message := "duration must be greater than zero" }
  | invalid (hsome : text ≠ []) (h : ∀ value unit, Written text value unit → 2 ^ 64 ≤ value) :
    Refused text
      { code := 64, message := "invalid duration value: " ++ String.ofList text }

/-- It is refused with the code for what is not understood. -/
theorem Refused.code {text : List Char} {e : CommandError} (h : Refused text e) : e.code = 64 := by
  cases h <;> rfl

variable {input : String}

/-- Nothing is no duration. -/
theorem Written.ne_nil {text : List Char} {value unit : Nat} (h : Written text value unit) :
    text ≠ [] := by
  obtain ⟨hnumeral, -⟩ := h
  cases hnumeral with
  | plain hrow => exact List.append_ne_nil_of_left_ne_nil hrow.ne_nil _
  | signed => exact List.cons_ne_nil _ _

/-- **A duration is read as it is written**, -/
theorem parse_of_written {value unit : Nat} (h : Written (trimBlank input.toList) value unit)
    (hpos : 1 ≤ value) (hlt : value < 2 ^ 64) : parse input = .ok (value * unit) := by
  obtain ⟨unit', numeral, hsplit⟩ :
    ∃ unit numeral, splitUnit (trimBlank input.toList) = (unit, numeral) := ⟨_, _, rfl⟩
  obtain ⟨rfl, hnumeral⟩ := (written_iff hsplit value unit).1 h
  obtain ⟨n, rfl⟩ := Nat.exists_eq_add_of_le' hpos
  unfold parse
  dsimp only
  rw [if_neg (by simpa using h.ne_nil), hsplit]
  dsimp only
  rw [Numeral.unsigned?_eq_some_iff.2 ⟨hnumeral, hlt⟩]
  rfl

/-- and what is not written as one is refused. -/
theorem parse_of_not_written (h : ∀ value unit, Written (trimBlank input.toList) value unit →
    1 ≤ value → 2 ^ 64 ≤ value) :
    ∃ e, parse input = .error e ∧ Refused (trimBlank input.toList) e := by
  obtain ⟨unit, numeral, hsplit⟩ :
    ∃ unit numeral, splitUnit (trimBlank input.toList) = (unit, numeral) := ⟨_, _, rfl⟩
  have hwritten := written_iff hsplit
  unfold parse
  dsimp only
  by_cases hempty : trimBlank input.toList = []
  · rw [if_pos (List.isEmpty_iff.2 hempty)]
    exact ⟨_, rfl, .empty hempty⟩
  rw [if_neg (by simpa using hempty), hsplit]
  dsimp only
  rcases hread : Numeral.unsigned? numeral with _ | value
  · refine ⟨_, rfl, .invalid hempty fun value unit' hvalue => Nat.le_of_not_lt fun hlt => ?_⟩
    have hsome := Numeral.unsigned?_eq_some_iff.2 ⟨((hwritten value unit').1 hvalue).2, hlt⟩
    cases hread.symm.trans hsome
  · obtain ⟨hspelled, hlt⟩ := Numeral.unsigned?_eq_some_iff.1 hread
    have hvalue := (hwritten value unit).2 ⟨rfl, hspelled⟩
    cases value with
    | zero => exact ⟨_, rfl, .zero hvalue⟩
    | succ n => exact absurd (h _ _ hvalue (Nat.succ_pos n)) (Nat.not_le.2 hlt)

/-- **The durations that are read are those that are written**, with blanks around them. A text
has one part between its blanks. If this is a numeral with a unit behind it, and the number is not
zero and one of 64 bits, the text is read as this number of milliseconds or of seconds; with no
unit they are seconds. Otherwise it is refused with code 64, and said to be empty, to be zero, or
not to be a duration. -/
theorem parsed_iff_written (input : String) :
    ∃ text, (∀ other, Trimmed input.toList other ↔ other = text) ∧
      (∀ n, parse input = .ok n ↔ ∃ value unit, Written text value unit ∧ 1 ≤ value ∧
        value < 2 ^ 64 ∧ n = value * unit) ∧
      ((¬ ∃ value unit, Written text value unit ∧ 1 ≤ value ∧ value < 2 ^ 64) →
        ∃ e, parse input = .error e ∧ Refused text e ∧ e.code = 64) := by
  have hrefused (hnot : ¬ ∃ value unit, Written (trimBlank input.toList) value unit ∧ 1 ≤ value ∧
      value < 2 ^ 64) : ∃ e, parse input = .error e ∧ Refused (trimBlank input.toList) e :=
    parse_of_not_written fun value unit h hpos =>
      Nat.le_of_not_lt fun hlt => hnot ⟨value, unit, h, hpos, hlt⟩
  refine ⟨trimBlank input.toList, fun other => trimmed_iff, fun n => ⟨fun hread => ?_, ?_⟩, ?_⟩
  · by_cases hsome : ∃ value unit, Written (trimBlank input.toList) value unit ∧ 1 ≤ value ∧
        value < 2 ^ 64
    · obtain ⟨value, unit, h, hpos, hlt⟩ := hsome
      exact ⟨value, unit, h, hpos, hlt,
        Except.ok.inj (hread.symm.trans (parse_of_written h hpos hlt))⟩
    · obtain ⟨e, he, -⟩ := hrefused hsome
      cases hread.symm.trans he
  · rintro ⟨value, unit, h, hpos, hlt, rfl⟩
    exact parse_of_written h hpos hlt
  · intro hnot
    obtain ⟨e, he, hwhy⟩ := hrefused hnot
    exact ⟨e, he, hwhy, hwhy.code⟩

end Duration

end ServoLink
