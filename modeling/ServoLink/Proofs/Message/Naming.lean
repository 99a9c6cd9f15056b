import Mathlib.Tactic.FinCases
import Mathlib.Tactic.SplitIfs
import ServoLink.Message.Fields
import ServoLink.Proofs.Message.Layout

/-!
# Values by name

A value that travels as a code may have a name, or be known by its code only. Some values
without a name carry a code that a named one has, and these do not survive the wire: the
named value comes back. A value is canonical if it is none of those
(`Coded.Canonical`), and `Coded.byName` puts the named value in the place of one that
is not.

A message is canonical if all its values are (`Kind.Canonical`). What a layout reads of a
message that it has written is this message with its values by name (`Kind.canon_eq`), and
that is the message itself if it is canonical (`Kind.byName_of_canonical`).
-/

namespace ServoLink

/-- **Values that travel as a code**: some have names, and any code may come without
one. -/
class Coded (α : Type) where
  code : α → UInt8
  /-- The value that has this code and no name. -/
  other : UInt8 → α
  /-- The values that have names. -/
  named : List α
  code_other : ∀ n, code (other n) = n
  code_injective : ∀ v ∈ named, ∀ w ∈ named, code v = code w → v = w
  mem_named_or : ∀ v, v ∈ named ∨ ∃ n, v = other n

namespace Coded

variable {α : Type} [Coded α]

/-- **A value in canonical form**: it has a name, or there is none for its code. -/
def Canonical (v : α) : Prop :=
  ∀ n, v = other n → ∀ w ∈ (named : List α), code w ≠ n

/-- The value with a name that has the same code, if there is one, and otherwise the value
itself. -/
def byName (v : α) : α :=
  (named.find? fun w => code w == code v).getD v

/-- **Of the values with one code, the canonical one is the one by name.** -/
theorem Canonical.eq_byName {v w : α} (h : Canonical w) (hcode : code w = code v) :
    w = byName v := by
  unfold byName
  rcases hfound : named.find? fun u => code u == code v with _ | u
  · -- no named value has the code, and so neither of the two is one
    have hnone : ∀ u ∈ (named : List α), code u ≠ code v := by simpa using hfound
    obtain ⟨n, rfl⟩ := (mem_named_or w).resolve_left fun hw => hnone w hw hcode
    obtain ⟨m, rfl⟩ := (mem_named_or v).resolve_left fun hv => hnone v hv rfl
    rw [code_other, code_other] at hcode
    rw [hcode]
    rfl
  · have hmem : u ∈ named := List.mem_of_find?_eq_some hfound
    have hsame : code u = code v := by simpa using List.find?_some hfound
    rcases mem_named_or w with hw | ⟨n, rfl⟩
    · exact code_injective w hw u hmem (hcode.trans hsame.symm)
    · rw [code_other] at hcode
      exact absurd (hsame.trans hcode.symm) (h n rfl u hmem)

end Coded

instance : Coded MotorErrorCode where
  code := MotorErrorCode.code
  other := .other
  named := MotorErrorCode.names.map Prod.snd
  code_other _ := rfl
  code_injective := by decide
  mem_named_or v := by cases v <;> simp [MotorErrorCode.names]

instance : Coded MotorMode where
  code := MotorMode.code
  other := .other
  named := MotorMode.names.map Prod.snd
  code_other _ := rfl
  code_injective := by decide
  mem_named_or v := by cases v <;> simp [MotorMode.names]

instance : Coded EncoderErrorCode where
  code := EncoderErrorCode.code
  other := .other
  named := EncoderErrorCode.names.map Prod.snd
  code_other _ := rfl
  code_injective := by decide
  mem_named_or v := by cases v <;> simp [EncoderErrorCode.names]

/-! ## Codes read back -/

/-- **A code is read as a value in canonical form.** -/
theorem MotorErrorCode.canonical_ofCode (code : UInt8) : Coded.Canonical (ofCode code) := by
  intro n hn w hw
  unfold ofCode at hn
  split_ifs at hn with h0 h1 h255
  obtain rfl := MotorErrorCode.other.inj hn
  fin_cases hw
  · exact Ne.symm h0
  · exact Ne.symm h1
  · exact Ne.symm h255

theorem MotorMode.canonical_ofCode (code : UInt8) : Coded.Canonical (ofCode code) := by
  intro n hn w hw
  unfold ofCode at hn
  split_ifs at hn with h0 h1 h2 h3
  obtain rfl := MotorMode.other.inj hn
  fin_cases hw
  · exact Ne.symm h0
  · exact Ne.symm h1
  · exact Ne.symm h2
  · exact Ne.symm h3

theorem EncoderErrorCode.canonical_ofCode (code : UInt8) : Coded.Canonical (ofCode code) := by
  intro n hn w hw
  unfold ofCode at hn
  split_ifs at hn with h0 h1 h2 h3 h255
  obtain rfl := EncoderErrorCode.other.inj hn
  fin_cases hw
  · exact Ne.symm h0
  · exact Ne.symm h1
  · exact Ne.symm h2
  · exact Ne.symm h3
  · exact Ne.symm h255

/-! ## Messages -/

namespace Kind

/-- **A message in canonical form**: no value in it is without a name where there is one
for its code. -/
def Canonical : (k : Kind) → k.Value → Prop
  | .motorFeedback, m => Coded.Canonical (MotorFeedback.errorCode m)
  | .motorSettings, m => Coded.Canonical (MotorSettings.mode m)
  | .encoderFeedback, m => Coded.Canonical (EncoderFeedback.errorCode m)
  | .table item _, v => ∀ m ∈ v, item.Canonical m
  | _, _ => True

/-- A message with its values by name. -/
def byName : (k : Kind) → k.Value → k.Value
  | .motorFeedback, m =>
    { (m : MotorFeedback) with errorCode := Coded.byName (MotorFeedback.errorCode m) }
  | .motorSettings, m =>
    { (m : MotorSettings) with mode := Coded.byName (MotorSettings.mode m) }
  | .encoderFeedback, m =>
    { (m : EncoderFeedback) with errorCode := Coded.byName (EncoderFeedback.errorCode m) }
  | .table item _, v => Vector.map item.byName v
  | _, v => v

/-- **A message in canonical form is the one with its values by name.** -/
theorem byName_of_canonical (k : Kind) (v : k.Value) (h : k.Canonical v) : k.byName v = v := by
  induction k with
  | motorFeedback | motorSettings | encoderFeedback =>
    unfold byName
    rw [← Coded.Canonical.eq_byName h rfl]
  | table item count ih =>
    refine (Vector.map_congr_left fun m hm => ?_).trans (Vector.map_id v)
    exact ih m (h m hm)
  | _ => rfl

/-- Every layout is lawful. -/
@[reducible] def lawful : (k : Kind) → @Message.Lawful k.Value k.message
  | .uint8 => inferInstanceAs (Message.Lawful UInt8)
  | .int8 => inferInstanceAs (Message.Lawful Int8)
  | .uint16 => inferInstanceAs (Message.Lawful UInt16)
  | .int16 => inferInstanceAs (Message.Lawful Int16)
  | .uint32 => inferInstanceAs (Message.Lawful UInt32)
  | .int32 => inferInstanceAs (Message.Lawful Int32)
  | .single => inferInstanceAs (Message.Lawful Single)
  | .motorFeedback => inferInstanceAs (Message.Lawful MotorFeedback)
  | .motorInfo => inferInstanceAs (Message.Lawful MotorInfo)
  | .motorSettings => inferInstanceAs (Message.Lawful MotorSettings)
  | .motorSetpoint => inferInstanceAs (Message.Lawful MotorSetpoint)
  | .pidParams => inferInstanceAs (Message.Lawful PidParams)
  | .motorPid => inferInstanceAs (Message.Lawful MotorPid)
  | .encoderFeedback => inferInstanceAs (Message.Lawful EncoderFeedback)
  | .encoderInfo => inferInstanceAs (Message.Lawful EncoderInfo)
  | .encoderSettings => inferInstanceAs (Message.Lawful EncoderSettings)
  | .firmwareChunk => inferInstanceAs (Message.Lawful FirmwareChunk)
  | .firmwareCrc => inferInstanceAs (Message.Lawful FirmwareCrc)
  | .table item count => @Message.tableLawful item.Value item.message item.lawful count

instance (k : Kind) : Message.Lawful k.Value := k.lawful

/-- **What is read of a message written is the message with its values by name.** -/
theorem canon_eq (k : Kind) (v : k.Value) : Message.Lawful.canon v = k.byName v := by
  induction k with
  | motorFeedback =>
    exact congrArg (fun c => { (v : MotorFeedback) with errorCode := c })
      ((MotorErrorCode.canonical_ofCode _).eq_byName (MotorErrorCode.code_ofCode _))
  | motorSettings =>
    exact congrArg (fun c => { (v : MotorSettings) with mode := c })
      ((MotorMode.canonical_ofCode _).eq_byName (MotorMode.code_ofCode _))
  | encoderFeedback =>
    exact congrArg (fun c => { (v : EncoderFeedback) with errorCode := c })
      ((EncoderErrorCode.canonical_ofCode _).eq_byName (EncoderErrorCode.code_ofCode _))
  | table item count ih => exact Vector.map_congr_left fun m _ => ih m
  | _ => rfl

end Kind

end ServoLink
