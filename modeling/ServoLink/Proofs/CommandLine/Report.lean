import ServoLink.CommandLine.Decode
import ServoLink.CommandLine.Encode
import ServoLink.Proofs.Device.Display
import ServoLink.Proofs.Text.Json
import ServoLink.Proofs.Text.Utf8

/-!
# Reports are read in one way

A report in JSON is a row of values, each on a line of its own. All numbers in it are written like
numbers: natural numbers and integers with their digits, numbers of single precision as decimals
(`Display.proper_json`). So the bytes of a report tell what values it has
(`Report.flatMap_json_inj`).
-/

namespace ServoLink

/-- Texts with the same bytes are the same. -/
theorem Utf8.encode_inj {text text' : String} (h : encode text = encode text') : text = text' := by
  rw [← Option.some_inj, ← decode?_encode, h, decode?_encode]

/-! ## What is displayed is written like numbers -/

namespace Decimal

open Json

variable {text : List Char} {q : ℚ}

theorem Plain.numeric (h : Plain text q) : Numeric text := by
  cases h with
  | whole h => exact numeric_of_row h
  | point hwhole hpart h =>
    have hdigits := (numeric_of_row h).chars
    rw [List.forall_mem_append] at hdigits
    exact .append ⟨hwhole, hdigits.1⟩ (.cons (by decide) ⟨hpart, hdigits.2⟩)

theorem Scaled.numeric (h : Scaled text q) : Numeric text := by
  cases h with
  | plain h => exact h.numeric
  | up h hk | down h hk =>
    exact h.numeric.append (.cons (by decide) (.cons (by decide) (numeric_of_row hk)))

/-- A number in writing looks like a number. -/
theorem Written.numeric {negative : Bool} (h : Written negative text q) : Numeric text := by
  cases h with
  | plain h => exact h.numeric
  | minus h => exact .cons (by decide) h.numeric

end Decimal

namespace Display

open Json

theorem proper_single (x : Single) : (single x).Proper := by
  unfold single
  by_cases hx : x.IsFinite
  · obtain ⟨digits, hdigits, shown, hwritten, -⟩ := Single.exists_writtenAs hx
    rw [hdigits]
    exact .number hwritten.numeric
  · rw [(Single.ofSingle?_eq_none_iff x).2 hx]
    exact .null

mutual

/-- **A datum is shown with numbers that are written like numbers**, -/
theorem proper_json : (d : Datum) → (json d).Proper
  | .int n => proper_int n
  | .single x => proper_single x
  | .bytes data => .array fun item hitem => by
    obtain ⟨b, -, rfl⟩ := List.mem_map.1 hitem
    exact proper_nat b.toNat
  | .text data => .string _
  | .name name => .string name
  | .code code => .object fun field hfield => by
    obtain rfl := List.mem_singleton.1 hfield
    exact proper_nat code.toNat
  | .list items => .array (proper_jsonItems items)
  | .record fields => .object fun field hfield =>
    proper_jsonFields fields field ((perm_sortFields _).mem_iff.1 hfield)

/-- and so are the items of a list -/
theorem proper_jsonItems : (items : List Datum) → ∀ item ∈ jsonItems items, item.Proper
  | [] => nofun
  | item :: items => List.forall_mem_cons.2 ⟨proper_json item, proper_jsonItems items⟩

/-- and the fields of a record. -/
theorem proper_jsonFields : (fields : List (String × Datum)) →
    ∀ field ∈ jsonFields fields, field.2.Proper
  | [] => nofun
  | (_, value) :: fields => List.forall_mem_cons.2 ⟨proper_json value, proper_jsonFields fields⟩

end

end Display

/-! ## Reports -/

namespace Report

open Json

/-- So is the report of the encode command. -/
theorem proper_reportJson (c : EncodeCommand) (wire : Bytes) : (c.reportJson wire).Proper :=
  .object (by simp [proper_nat, Proper.bool, Proper.string])

/-- The lines of a report, as one text. -/
theorem flatMap_json (values : List Json) : values.flatMap json
    = Utf8.encode (String.ofList (values.flatMap fun v => v.render.toList ++ ['\n'])) := by
  have hline (v : Json) :
      json v = (v.render.toList ++ ['\n']).flatMap String.utf8EncodeChar := by
    unfold json line Utf8.encode
    rw [String.toList_append]
    rfl
  unfold Utf8.encode
  rw [String.toList_ofList, List.flatMap_assoc]
  exact List.flatMap_congr fun v _ => hline v

/-- **A report is read in one way**: its bytes tell what values it has. -/
theorem flatMap_json_inj {values values' : List Json} (h : ∀ v ∈ values, v.Proper)
    (h' : ∀ v ∈ values', v.Proper) (hbytes : values.flatMap json = values'.flatMap json) :
    values = values' := by
  rw [flatMap_json, flatMap_json] at hbytes
  have htext := String.ofList_injective (Utf8.encode_inj hbytes)
  clear hbytes
  induction values generalizing values' with
  | nil =>
    cases values' with
    | nil => rfl
    | cons v' values' => simp at htext
  | cons v values ih =>
    cases values' with
    | nil => simp at htext
    | cons v' values' =>
      rw [List.forall_mem_cons] at h h'
      rw [List.flatMap_cons, List.flatMap_cons, List.append_assoc, List.append_assoc] at htext
      obtain ⟨rfl, hrest⟩ := h.1.render_append_inj h'.1 (stops_cons (by decide) _)
        (stops_cons (by decide) _) htext
      rw [ih h.2 h'.2 (List.cons.inj hrest).2]

end Report

end ServoLink
