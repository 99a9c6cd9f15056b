import Mathlib.Data.List.Basic
import ServoLink.Proofs.Text.Digits
import ServoLink.Text.Json

/-!
# JSON text is read in one way

Different values have different texts, and where something stands behind them it is clear where
they end (`Json.Proper.render_append_inj`). What a text starts with tells the kind of the value. A
string ends at the first quote outside of an escape, and no escape is the beginning of another
(`Json.escape_append_inj`). Arrays and objects end in a bracket. Only a number has no end of its
own. It has to be written like a number (`Json.Proper`), and what stands behind it must not look
like more of it (`Json.Stops`).
-/

namespace ServoLink

namespace Json

/-- Numbers that are shown alike are the same. -/
theorem nat_inj {n m : Nat} : nat n = nat m ↔ n = m := by
  refine ⟨fun h => ?_, congrArg nat⟩
  have htext : toString n = toString m := Json.number.inj h
  rw [← (Numeral.row_toString n).value, htext, (Numeral.row_toString m).value]

/-! ## Strings -/

/-- The characters that are escaped. -/
def escaped : List Char :=
  '"' :: '\\' :: (List.range 32).map Char.ofNat

/-- An escape starts with a backslash. -/
theorem head?_escape_of_mem {c : Char} (hc : c ∈ escaped) : (escape c).head? = some '\\' := by
  have hall : escaped.all (fun c => (escape c).head? == some '\\') = true := by decide
  exact beq_iff_eq.1 (List.all_eq_true.1 hall c hc)

/-- **No escape is the beginning of another.** -/
theorem eq_of_prefix_escape {c d : Char} (hc : c ∈ escaped) (hd : d ∈ escaped)
    (h : escape c <+: escape d) : c = d := by
  have hall : escaped.all (fun c => escaped.all fun d =>
      !(escape c).isPrefixOf (escape d) || c == d) = true := by decide
  have hpair := List.all_eq_true.1 (List.all_eq_true.1 hall c hc) d hd
  rw [List.isPrefixOf_iff_prefix.2 h, Bool.not_true, Bool.false_or] at hpair
  exact beq_iff_eq.1 hpair

/-- The other characters stand for themselves. -/
theorem escape_of_not_mem {c : Char} (h : c ∉ escaped) :
    escape c = [c] ∧ c ≠ '"' ∧ c ≠ '\\' := by
  have hhigh : ¬ c.toNat < 32 := fun hlt => h <| List.mem_cons_of_mem _ <|
    List.mem_cons_of_mem _ <| List.mem_map.2 ⟨c.toNat, List.mem_range.2 hlt, c.ofNat_toNat⟩
  have hquote : c ≠ '"' := fun heq => h (heq ▸ List.mem_cons_self)
  have hslash : c ≠ '\\' := fun heq => h (heq ▸ List.mem_cons_of_mem _ List.mem_cons_self)
  refine ⟨?_, hquote, hslash⟩
  unfold escape
  rw [if_neg hquote, if_neg hslash, if_neg (by omega), if_neg (by omega), if_neg (by omega),
    if_neg (by omega), if_neg (by omega), if_neg hhigh]

variable {c d : Char} {a b r s : List Char}

/-- What a character is written with starts with a backslash, or is the character itself. -/
theorem head?_escape_append (c : Char) (r : List Char) :
    (escape c ++ r).head? = some (if c ∈ escaped then '\\' else c) := by
  rw [List.head?_append]
  split
  · next h => rw [head?_escape_of_mem h]; rfl
  · next h => rw [(escape_of_not_mem h).1]; rfl

/-- **A character of a string** is read in one way, whatever stands behind it. -/
theorem escape_append_inj (h : escape c ++ r = escape d ++ s) : c = d ∧ r = s := by
  have hhead := congrArg List.head? h
  rw [head?_escape_append, head?_escape_append, Option.some.injEq] at hhead
  have hchar : c = d := by
    by_cases hc : c ∈ escaped <;> by_cases hd : d ∈ escaped
    · -- one of the two escapes is the beginning of the other
      rcases List.prefix_or_prefix_of_prefix (List.prefix_append (escape c) r)
        (h ▸ List.prefix_append (escape d) s) with hle | hle
      · exact eq_of_prefix_escape hc hd hle
      · exact (eq_of_prefix_escape hd hc hle).symm
    · rw [if_pos hc, if_neg hd] at hhead
      exact absurd hhead.symm (escape_of_not_mem hd).2.2
    · rw [if_neg hc, if_pos hd] at hhead
      exact absurd hhead (escape_of_not_mem hc).2.2
    · rwa [if_neg hc, if_neg hd] at hhead
  exact ⟨hchar, List.append_cancel_left (hchar ▸ h)⟩

/-- No character is written with a quote in front. -/
theorem escape_append_ne_quote (c : Char) (r s : List Char) : escape c ++ r ≠ '"' :: s := by
  intro h
  have hhead := congrArg List.head? h
  rw [head?_escape_append, List.head?_cons, Option.some.injEq] at hhead
  split at hhead
  · exact absurd hhead (by decide)
  · next hc => exact (escape_of_not_mem hc).2.1 hhead

/-- **A string is read up to its last quote.** -/
theorem flatMap_escape_inj (h : a.flatMap escape ++ '"' :: r = b.flatMap escape ++ '"' :: s) :
    a = b ∧ r = s := by
  induction a generalizing b with
  | nil =>
    cases b with
    | nil => exact ⟨rfl, (List.cons.inj h).2⟩
    | cons d b =>
      rw [List.flatMap_cons, List.append_assoc] at h
      exact absurd h.symm (escape_append_ne_quote d _ _)
  | cons c a ih =>
    rw [List.flatMap_cons, List.append_assoc] at h
    cases b with
    | nil => exact absurd h (escape_append_ne_quote c _ _)
    | cons d b =>
      rw [List.flatMap_cons, List.append_assoc] at h
      obtain ⟨rfl, hrest⟩ := escape_append_inj h
      obtain ⟨rfl, hbehind⟩ := ih hrest
      exact ⟨rfl, hbehind⟩

/-- What is between quotes is read back. -/
theorem quote_append_inj {text text' : String}
    (h : (quote text).toList ++ r = (quote text').toList ++ s) : text = text' ∧ r = s := by
  simp only [quote, String.toList_ofList, List.cons_append, List.append_assoc, List.nil_append,
    List.cons.injEq, true_and] at h
  obtain ⟨htext, hrest⟩ := flatMap_escape_inj h
  exact ⟨String.toList_inj.1 htext, hrest⟩

/-! ## Numbers -/

/-- The characters that numbers are written with. -/
def inNumber (c : Char) : Bool :=
  c.isDigit || c == '-' || c == '+' || c == '.' || c == 'e'

/-- **A text that looks like a number.** -/
structure Numeric (text : List Char) : Prop where
  ne_nil : text ≠ []
  chars : ∀ c ∈ text, inNumber c = true

theorem Numeric.cons (hc : inNumber c = true) (h : Numeric a) : Numeric (c :: a) where
  ne_nil := List.cons_ne_nil c a
  chars := List.forall_mem_cons.2 ⟨hc, h.chars⟩

theorem Numeric.append (h : Numeric a) (h' : Numeric b) : Numeric (a ++ b) where
  ne_nil := List.append_ne_nil_of_left_ne_nil h.ne_nil b
  chars := List.forall_mem_append.2 ⟨h.chars, h'.chars⟩

/-- A digit may stand in a number. -/
theorem inNumber_of_isDigit (h : c.isDigit = true) : inNumber c = true := by
  simp [inNumber, h]

theorem numeric_of_row {n : Nat} (h : Numeral.Row a n) : Numeric a where
  ne_nil := h.ne_nil
  chars := fun c hc => inNumber_of_isDigit (h.digits c hc)

/-- **What stands behind a number is not more of it.** -/
def Stops (rest : List Char) : Prop :=
  ∀ c ∈ rest.head?, inNumber c = false

theorem stops_cons (h : inNumber c = false) (rest : List Char) : Stops (c :: rest) := by
  intro c' hc'
  rwa [← Option.some.inj hc']

/-- **A number goes on as long as it can.** -/
theorem Numeric.takeWhile (ha : Numeric a) (hr : Stops r) :
    (a ++ r).takeWhile inNumber = a := by
  rw [List.takeWhile_append_of_pos ha.chars]
  cases r with
  | nil => exact List.append_nil a
  | cons c r => rw [List.takeWhile_cons_of_neg (by rw [hr c rfl]; decide), List.append_nil]

theorem Numeric.append_inj (ha : Numeric a) (hb : Numeric b) (hr : Stops r) (hs : Stops s)
    (h : a ++ r = b ++ s) : a = b ∧ r = s := by
  have hdigits : a = b := by
    rw [← ha.takeWhile hr, h, hb.takeWhile hs]
  exact ⟨hdigits, List.append_cancel_left (hdigits ▸ h)⟩

/-! ## Values with commas between them -/

section

variable {α : Type} {text : α → List Char} {close : Char}

/-- Texts with commas between them. -/
def row (text : α → List Char) (items : List α) : List Char :=
  [','].intercalate (items.map text)

/-- What stands behind the first of them. -/
def others (text : α → List Char) : List α → List Char
  | [] => []
  | item :: rest => ',' :: row text (item :: rest)

theorem row_cons (item : α) (rest : List α) :
    row text (item :: rest) = text item ++ others text rest := by
  cases rest with
  | nil => exact List.intercalate_singleton.trans (List.append_nil _).symm
  | cons next rest =>
    exact List.intercalate_cons_cons.trans (List.append_assoc ..)

/-- A comma ends a number, and so does a bracket. -/
theorem stops_others (hclose : inNumber close = false) (rest : List α) :
    Stops (others text rest ++ close :: r) := by
  cases rest with
  | nil => exact stops_cons hclose r
  | cons item rest => exact stops_cons (by decide) _

/-- **Values with commas between them are read one by one**, if each of them is read in one way
and none looks like the bracket behind them. -/
theorem row_append_inj {items items' : List α} (hclose : inNumber close = false)
    (hcomma : close ≠ ',')
    (hstart : ∀ x ∈ items, ∀ rest behind, text x ++ rest ≠ close :: behind)
    (hstart' : ∀ y ∈ items', ∀ rest behind, text y ++ rest ≠ close :: behind)
    (hread : ∀ x ∈ items, ∀ y ∈ items', ∀ r s, Stops r → Stops s →
      text x ++ r = text y ++ s → x = y ∧ r = s)
    (h : row text items ++ close :: r = row text items' ++ close :: s) :
    items = items' ∧ r = s := by
  induction items generalizing items' with
  | nil =>
    cases items' with
    | nil => exact ⟨rfl, (List.cons.inj h).2⟩
    | cons y items' =>
      rw [row_cons, List.append_assoc] at h
      exact absurd h.symm (hstart' y List.mem_cons_self _ _)
  | cons x items ih =>
    rw [row_cons, List.append_assoc] at h
    cases items' with
    | nil => exact absurd h (hstart x List.mem_cons_self _ _)
    | cons y items' =>
      rw [row_cons, List.append_assoc] at h
      obtain ⟨rfl, hothers⟩ := hread x List.mem_cons_self y List.mem_cons_self _ _
        (stops_others hclose items) (stops_others hclose items') h
      -- either there are more on both sides, or on none
      cases items <;> cases items' <;> simp only [others] at hothers
      · exact ⟨rfl, (List.cons.inj hothers).2⟩
      · exact absurd (List.cons.inj hothers).1 hcomma
      · exact absurd (List.cons.inj hothers).1.symm hcomma
      · obtain ⟨hrest, hbehind⟩ := ih (fun z hz => hstart z (List.mem_cons_of_mem _ hz))
          (fun z hz => hstart' z (List.mem_cons_of_mem _ hz))
          (fun z hz w hw => hread z (List.mem_cons_of_mem _ hz) w (List.mem_cons_of_mem _ hw))
          (List.cons.inj hothers).2
        exact ⟨congrArg (x :: ·) hrest, hbehind⟩

end

/-- The items of an array are written in a row. -/
theorem toList_renderItems (items : List Json) :
    (renderItems items).toList = row (fun item => item.render.toList) items := by
  induction items with
  | nil => rfl
  | cons item items ih =>
    rw [row_cons]
    cases items with
    | nil => exact (List.append_nil _).symm
    | cons next items =>
      rw [renderItems, String.toList_append, String.toList_append, List.append_assoc, ih]
      · rfl
      · nofun

theorem toList_render_array (items : List Json) :
    (array items).render.toList = '[' :: (row (fun item => item.render.toList) items ++ [']']) := by
  rw [render, String.toList_append, String.toList_append, toList_renderItems]
  rfl

/-- The text of a field. -/
def fieldText (field : String × Json) : List Char :=
  (quote field.1).toList ++ ':' :: field.2.render.toList

/-- It starts with a quote. -/
theorem fieldText_append_ne (field : String × Json) (hc : c ≠ '"') (rest behind : List Char) :
    fieldText field ++ rest ≠ c :: behind := by
  intro h
  rw [fieldText, quote, String.toList_ofList] at h
  exact hc (List.cons.inj h).1.symm

/-- A field is read in one way if its value is. -/
theorem fieldText_append_inj {field field' : String × Json}
    (hvalue : ∀ r s, Stops r → Stops s →
      field.2.render.toList ++ r = field'.2.render.toList ++ s → field.2 = field'.2 ∧ r = s)
    (hr : Stops r) (hs : Stops s) (h : fieldText field ++ r = fieldText field' ++ s) :
    field = field' ∧ r = s := by
  rw [fieldText, fieldText, List.append_assoc, List.append_assoc] at h
  obtain ⟨hname, hbehind⟩ := quote_append_inj h
  obtain ⟨hvalue, hrest⟩ := hvalue r s hr hs (List.cons.inj hbehind).2
  exact ⟨Prod.ext hname hvalue, hrest⟩

/-- The fields of an object are written in a row. -/
theorem toList_renderFields (fields : List (String × Json)) :
    (renderFields fields).toList = row fieldText fields := by
  have hfield (field : String × Json) :
      (quote field.1 ++ ":" ++ field.2.render).toList = fieldText field := by
    rw [String.toList_append, String.toList_append, List.append_assoc]
    rfl
  induction fields with
  | nil => rfl
  | cons field fields ih =>
    rw [row_cons, ← hfield]
    cases fields with
    | nil => exact (List.append_nil _).symm
    | cons next fields =>
      rw [renderFields, String.toList_append, String.toList_append, List.append_assoc, ih]
      · rfl
      · nofun

theorem toList_render_object (fields : List (String × Json)) :
    (object fields).render.toList = '\x7b' :: (row fieldText fields ++ ['\x7d']) := by
  rw [render, String.toList_append, String.toList_append, toList_renderFields]
  rfl

/-! ## Kinds of values -/

/-- The kinds of values. -/
inductive Kind where
  | null
  | bool
  | number
  | string
  | array
  | object

/-- The kind of a value. -/
def kind : Json → Kind
  | .null => .null
  | .bool _ => .bool
  | .number _ => .number
  | .string _ => .string
  | .array _ => .array
  | .object _ => .object

/-- The kind of value whose text starts with a character. -/
def kindOf? (c : Char) : Option Kind :=
  if inNumber c then some .number
  else if c = 'n' then some .null
  else if c = 't' ∨ c = 'f' then some .bool
  else if c = '"' then some .string
  else if c = '[' then some .array
  else if c = '\x7b' then some .object
  else none

/-- **A value whose numbers are written like numbers.** -/
inductive Proper : Json → Prop
  | null : Proper .null
  | bool (b : Bool) : Proper (.bool b)
  | number {digits : String} (h : Numeric digits.toList) : Proper (.number digits)
  | string (text : String) : Proper (.string text)
  | array {items : List Json} (h : ∀ item ∈ items, Proper item) : Proper (.array items)
  | object {fields : List (String × Json)} (h : ∀ field ∈ fields, Proper field.2) :
    Proper (.object fields)

/-- Natural numbers are written with digits, -/
theorem proper_nat (n : Nat) : (nat n).Proper :=
  .number (numeric_of_row (Numeral.row_toString n))

/-- and integers with digits and perhaps a sign. -/
theorem proper_int (n : Int) : (int n).Proper := by
  refine .number ?_
  cases n with
  | ofNat n => exact numeric_of_row (Numeral.row_toString n)
  | negSucc n =>
    have htext : (toString (Int.negSucc n)).toList = '-' :: (toString (n + 1)).toList :=
      String.toList_append
    rw [htext]
    exact .cons (by decide) (numeric_of_row (Numeral.row_toString (n + 1)))

variable {v w : Json}

/-- **What a text starts with tells the kind of the value.** -/
theorem Proper.kindOf?_head (h : v.Proper) (rest : List Char) :
    (v.render.toList ++ rest).head?.bind kindOf? = some v.kind := by
  cases h with
  | null => rfl
  | bool b => cases b <;> rfl
  | number hdigits =>
    rename_i digits
    obtain ⟨c, cs, htext⟩ := List.exists_cons_of_ne_nil hdigits.ne_nil
    have hrender : (Json.number digits).render.toList = c :: cs := htext
    rw [hrender]
    exact if_pos (hdigits.chars c (htext ▸ List.mem_cons_self))
  | string text =>
    rw [render, quote, String.toList_ofList]
    rfl
  | array =>
    rw [toList_render_array]
    rfl
  | object =>
    rw [toList_render_object]
    rfl

/-- Values whose texts start alike are of one kind. -/
theorem Proper.kind_eq (hv : v.Proper) (hw : w.Proper)
    (h : v.render.toList ++ r = w.render.toList ++ s) : v.kind = w.kind :=
  Option.some.inj <| by rw [← hv.kindOf?_head r, h, hw.kindOf?_head]

/-- A text starts with no other character, such as a closing bracket. -/
theorem Proper.render_append_ne (hv : v.Proper) (hc : kindOf? c = none) (rest behind : List Char) :
    v.render.toList ++ rest ≠ c :: behind := by
  intro h
  have hkind := hv.kindOf?_head rest
  rw [h, List.head?_cons, Option.bind_some, hc] at hkind
  cases hkind

/-- **A text is read in one way**, if what stands behind it does not look like more of it. -/
theorem Proper.render_append_inj (hv : v.Proper) (hw : w.Proper) (hr : Stops r) (hs : Stops s)
    (h : v.render.toList ++ r = w.render.toList ++ s) : v = w ∧ r = s := by
  induction hv generalizing w r s with
  | null =>
    have hkind := Proper.null.kind_eq hw h
    cases hw with
    | null => exact ⟨rfl, List.append_cancel_left h⟩
    | bool | number | string | array | object => cases hkind
  | bool b =>
    have hkind := (Proper.bool b).kind_eq hw h
    cases hw with
    | bool b' =>
      cases b <;> cases b'
      · exact ⟨rfl, List.append_cancel_left h⟩
      · exact absurd (List.cons.inj h).1 (by decide)
      · exact absurd (List.cons.inj h).1 (by decide)
      · exact ⟨rfl, List.append_cancel_left h⟩
    | null | number | string | array | object => cases hkind
  | number hdigits =>
    have hkind := (Proper.number hdigits).kind_eq hw h
    cases hw with
    | number hdigits' =>
      obtain ⟨htext, hrest⟩ := hdigits.append_inj hdigits' hr hs h
      exact ⟨congrArg Json.number (String.toList_inj.1 htext), hrest⟩
    | null | bool | string | array | object => cases hkind
  | string text =>
    have hkind := (Proper.string text).kind_eq hw h
    cases hw with
    | string text' =>
      obtain ⟨rfl, hrest⟩ := quote_append_inj h
      exact ⟨rfl, hrest⟩
    | null | bool | number | array | object => cases hkind
  | array hitems ih =>
    have hkind := (Proper.array hitems).kind_eq hw h
    cases hw with
    | array hitems' =>
      rw [toList_render_array, toList_render_array, List.cons_append, List.cons_append,
        List.append_assoc, List.append_assoc] at h
      obtain ⟨rfl, hrest⟩ := row_append_inj (by decide) (by decide)
        (fun x hx => (hitems x hx).render_append_ne (by decide))
        (fun y hy => (hitems' y hy).render_append_ne (by decide))
        (fun x hx y hy r s hr hs h => ih x hx (hitems' y hy) hr hs h) (List.cons.inj h).2
      exact ⟨rfl, hrest⟩
    | null | bool | number | string | object => cases hkind
  | object hfields ih =>
    have hkind := (Proper.object hfields).kind_eq hw h
    cases hw with
    | object hfields' =>
      rw [toList_render_object, toList_render_object, List.cons_append, List.cons_append,
        List.append_assoc, List.append_assoc] at h
      obtain ⟨rfl, hrest⟩ := row_append_inj (by decide) (by decide)
        (fun x _ => fieldText_append_ne x (by decide))
        (fun y _ => fieldText_append_ne y (by decide))
        (fun x hx y hy r s hr hs h => fieldText_append_inj
          (fun r s hr hs h => ih x hx (hfields' y hy) hr hs h) hr hs h) (List.cons.inj h).2
      exact ⟨rfl, hrest⟩
    | null | bool | number | string | array => cases hkind

end Json

end ServoLink
