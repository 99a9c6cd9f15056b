import ServoLink.Proofs.Message.Naming

/-!
# Every payload of the right size is a message

No layout leaves a byte unused or asks two fields to agree: whatever bytes of its size come
in, some message is written as them (`Message.Onto`). The bytes are cut where the fields
end, and each piece is what its field writes. So a payload is read as a message if it has
the size of the layout, and writing this message gives the payload back
(`Message.write_of_ofPayload`).

With the laws of reading what was written this makes every layout a codec of fixed size
that loses nothing (`Kind.faithful`). A table is read by reading its items: it asks
for as many as it needs, so there are never more or fewer (`Reader.length_of_run_many`).
-/

namespace ServoLink

variable {α : Type}

namespace Reader

/-- **Reading a number of items yields that number of items.** -/
theorem length_of_run_many {item : Reader α} {n : Nat} {source rest : Bytes} {items : List α}
    (h : (many item n).run source = .ok (items, rest)) : items.length = n := by
  induction n generalizing source rest items with
  | zero =>
    cases h
    rfl
  | succ n ih =>
    unfold many at h
    rw [StateT.run_bind] at h
    rcases hfirst : item.run source with err | ⟨first, source'⟩ <;> rw [hfirst] at h
    · cases h
    · replace h : (many item n >>= fun others => pure (first :: others)).run source'
        = .ok (items, rest) := h
      rw [StateT.run_bind] at h
      rcases hothers : (many item n).run source' with err | ⟨others, source''⟩ <;>
        rw [hothers] at h
      · cases h
      · cases h
        rw [List.length_cons, ih hothers]

end Reader

namespace Message

open Lawful

/-- **A layout with a message for every payload of its size.** -/
class Onto (α : Type) [Message α] : Prop where
  exists_write : ∀ payload : Bytes, payload.length = size α → ∃ m : α, write m = payload

export Onto (exists_write)

/-- The first message is cut off the front. -/
theorem exists_write_append (α : Type) [Message α] [Onto α] {source : Bytes} {n : Nat}
    (h : source.length = size α + n) :
    ∃ (m : α) (rest : Bytes), source = write m ++ rest ∧ rest.length = n := by
  have hfront : (source.take (size α)).length = size α := by
    rw [List.length_take, h]
    exact Nat.min_eq_left (Nat.le_add_right _ _)
  obtain ⟨m, hm⟩ := exists_write (α := α) _ hfront
  refine ⟨m, source.drop (size α), ?_, ?_⟩
  · rw [hm, List.take_append_drop]
  · rw [List.length_drop, h]
    exact Nat.add_sub_cancel_left _ _

/-! ## Single numbers -/

instance : Onto UInt8 where
  exists_write payload h := by
    obtain ⟨b, rfl⟩ := List.length_eq_one_iff.1 h
    exact ⟨b, rfl⟩

instance : Onto UInt16 where
  exists_write payload h := by
    obtain ⟨b0, b1, rfl⟩ := List.length_eq_two.1 h
    exact ⟨_, LittleEndian.bytes16_word16 b0 b1⟩

instance : Onto UInt32 where
  exists_write payload h := by
    obtain ⟨b0, b1, b2, b3, rfl⟩ : ∃ b0 b1 b2 b3, payload = [b0, b1, b2, b3] := by
      match payload, h with
      | [b0, b1, b2, b3], _ => exact ⟨b0, b1, b2, b3, rfl⟩
    exact ⟨_, LittleEndian.bytes32_word32 b0 b1 b2 b3⟩

/-- A signed number is written as the word with the same bits. -/
instance : Onto Int8 where
  exists_write payload h := by
    obtain ⟨w, hw⟩ := exists_write (α := UInt8) payload h
    exact ⟨w.toInt8, hw⟩

instance : Onto Int16 where
  exists_write payload h := by
    obtain ⟨w, hw⟩ := exists_write (α := UInt16) payload h
    exact ⟨w.toInt16, hw⟩

instance : Onto Int32 where
  exists_write payload h := by
    obtain ⟨w, hw⟩ := exists_write (α := UInt32) payload h
    exact ⟨w.toInt32, hw⟩

instance : Onto Single where
  exists_write payload h := by
    obtain ⟨w, hw⟩ := exists_write (α := UInt32) payload h
    exact ⟨⟨w⟩, hw⟩

/-! ## Rows and tables -/

instance bytesOnto (n : Nat) : Onto (Vector UInt8 n) where
  exists_write payload h := ⟨⟨payload.toArray, h⟩, rfl⟩

/-- Bytes for a number of messages are cut into these. -/
theorem exists_flatMap_write [Message α] [Onto α] (n : Nat) {payload : Bytes}
    (h : payload.length = size α * n) :
    ∃ ms : List α, ms.length = n ∧ ms.flatMap write = payload := by
  induction n generalizing payload with
  | zero => exact ⟨[], rfl, (List.length_eq_zero_iff.1 h).symm⟩
  | succ n ih =>
    rw [Nat.mul_succ, Nat.add_comm] at h
    obtain ⟨m, rest, rfl, hrest⟩ := exists_write_append α h
    obtain ⟨ms, hcount, hms⟩ := ih hrest
    exact ⟨m :: ms, congrArg (· + 1) hcount, by rw [List.flatMap_cons, hms]⟩

/-- **A table has a message for every payload of its size**, if its items have. -/
theorem tableOnto (α : Type) [Message α] [Onto α] (n : Nat) :
    @Onto (Vector α n) (table α n) :=
  letI := table α n
  { exists_write := fun payload h => by
      obtain ⟨ms, hcount, hms⟩ := exists_flatMap_write n h
      exact ⟨⟨ms.toArray, hcount⟩, hms⟩ }

/-! ## Messages of the components -/

instance : Onto MotorFeedback where
  exists_write payload h := by
    obtain ⟨position, rest, rfl, h₁⟩ := exists_write_append UInt16 (n := 6) h
    obtain ⟨speed, rest, rfl, h₂⟩ := exists_write_append Int16 (n := 4) h₁
    obtain ⟨current, rest, rfl, h₃⟩ := exists_write_append UInt16 (n := 2) h₂
    obtain ⟨temperature, rest, rfl, h₄⟩ := exists_write_append Int8 (n := 1) h₃
    obtain ⟨code, rfl⟩ := List.length_eq_one_iff.1 h₄
    refine ⟨{ position, speed, current, temperature, errorCode := .ofCode code }, ?_⟩
    simp only [write, MotorErrorCode.code_ofCode, List.append_assoc]

instance : Onto MotorInfo where
  exists_write payload h := by
    obtain ⟨motorId, rest, rfl, h₁⟩ := exists_write_append UInt8 (n := 72) h
    obtain ⟨ratio, rest, rfl, h₂⟩ := exists_write_append Single (n := 68) h₁
    obtain ⟨maxSpeed, rest, rfl, h₃⟩ := exists_write_append Single (n := 64) h₂
    obtain ⟨maxCurrent, rest, rfl, h₄⟩ := exists_write_append Single (n := 60) h₃
    obtain ⟨torqueConstant, rest, rfl, h₅⟩ := exists_write_append Single (n := 56) h₄
    obtain ⟨maxPosition, rest, rfl, h₆⟩ := exists_write_append UInt32 (n := 52) h₅
    obtain ⟨runTime, rest, rfl, h₇⟩ := exists_write_append UInt32 (n := 48) h₆
    obtain ⟨model, rest, rfl, h₈⟩ := exists_write_append (Vector UInt8 32) (n := 16) h₇
    obtain ⟨serial, rest, rfl, h₉⟩ := exists_write_append (Vector UInt8 12) (n := 4) h₈
    obtain ⟨firmwareVersion, rfl⟩ := exists_write (α := UInt32) rest h₉
    refine ⟨
      { motorId, ratio, maxSpeed, maxCurrent, torqueConstant, maxPosition, runTime, model,
        serial, firmwareVersion }, ?_⟩
    simp only [write, List.append_assoc]

instance : Onto MotorSettings where
  exists_write payload h := by
    obtain ⟨motorId, rest, rfl, h₁⟩ := exists_write_append UInt8 (n := 3) h
    obtain ⟨feedbackInterval, rest, rfl, h₂⟩ := exists_write_append UInt8 (n := 2) h₁
    obtain ⟨resetId, rest, rfl, h₃⟩ := exists_write_append UInt8 (n := 1) h₂
    obtain ⟨code, rfl⟩ := List.length_eq_one_iff.1 h₃
    refine ⟨{ motorId, feedbackInterval, resetId, mode := .ofCode code }, ?_⟩
    simp only [write, MotorMode.code_ofCode]
    rfl

instance : Onto MotorSetpoint where
  exists_write payload h := by
    obtain ⟨set, rest, rfl, h₁⟩ := exists_write_append Int16 (n := 4) h
    obtain ⟨setExtra, rest, rfl, h₂⟩ := exists_write_append Int16 (n := 2) h₁
    obtain ⟨setExtra2, rfl⟩ := exists_write (α := Int16) rest h₂
    refine ⟨{ set, setExtra, setExtra2 }, ?_⟩
    simp only [write, List.append_assoc]

instance : Onto PidParams where
  exists_write payload h := by
    obtain ⟨kp, rest, rfl, h₁⟩ := exists_write_append Single (n := 24) h
    obtain ⟨ki, rest, rfl, h₂⟩ := exists_write_append Single (n := 20) h₁
    obtain ⟨kd, rest, rfl, h₃⟩ := exists_write_append Single (n := 16) h₂
    obtain ⟨feedForward, rest, rfl, h₄⟩ := exists_write_append Single (n := 12) h₃
    obtain ⟨integralLimit, rest, rfl, h₅⟩ := exists_write_append Single (n := 8) h₄
    obtain ⟨outputLimit, rest, rfl, h₆⟩ := exists_write_append Single (n := 4) h₅
    obtain ⟨deadband, rfl⟩ := exists_write (α := Single) rest h₆
    refine ⟨{ kp, ki, kd, feedForward, integralLimit, outputLimit, deadband }, ?_⟩
    simp only [write, List.append_assoc]

instance : Onto MotorPid where
  exists_write payload h := by
    obtain ⟨motorId, rest, rfl, h₁⟩ := exists_write_append UInt8 (n := 84) h
    obtain ⟨current, rest, rfl, h₂⟩ := exists_write_append PidParams (n := 56) h₁
    obtain ⟨speed, rest, rfl, h₃⟩ := exists_write_append PidParams (n := 28) h₂
    obtain ⟨position, rfl⟩ := exists_write (α := PidParams) rest h₃
    refine ⟨{ motorId, current, speed, position }, ?_⟩
    simp only [write, List.append_assoc]

instance : Onto MotorFeedbackTable := tableOnto MotorFeedback motorCount

instance : Onto MotorSetpointTable := tableOnto MotorSetpoint motorCount

instance : Onto EncoderFeedback where
  exists_write payload h := by
    obtain ⟨position, rest, rfl, h₁⟩ := exists_write_append UInt16 (n := 5) h
    obtain ⟨velocity, rest, rfl, h₂⟩ := exists_write_append Int32 (n := 1) h₁
    obtain ⟨code, rfl⟩ := List.length_eq_one_iff.1 h₂
    refine ⟨{ position, velocity, errorCode := .ofCode code }, ?_⟩
    simp only [write, EncoderErrorCode.code_ofCode, List.append_assoc]

instance : Onto EncoderInfo where
  exists_write payload h := by
    obtain ⟨encoderId, rest, rfl, h₁⟩ := exists_write_append UInt8 (n := 61) h
    obtain ⟨resolution, rest, rfl, h₂⟩ := exists_write_append UInt8 (n := 60) h₁
    obtain ⟨maxVelocity, rest, rfl, h₃⟩ := exists_write_append UInt32 (n := 56) h₂
    obtain ⟨maxPosition, rest, rfl, h₄⟩ := exists_write_append UInt32 (n := 52) h₃
    obtain ⟨runTime, rest, rfl, h₅⟩ := exists_write_append UInt32 (n := 48) h₄
    obtain ⟨model, rest, rfl, h₆⟩ := exists_write_append (Vector UInt8 32) (n := 16) h₅
    obtain ⟨serial, rest, rfl, h₇⟩ := exists_write_append (Vector UInt8 12) (n := 4) h₆
    obtain ⟨firmwareVersion, rfl⟩ := exists_write (α := UInt32) rest h₇
    refine ⟨
      { encoderId, resolution, maxVelocity, maxPosition, runTime, model, serial,
        firmwareVersion }, ?_⟩
    simp only [write, List.append_assoc]

instance : Onto EncoderSettings where
  exists_write payload h := by
    obtain ⟨feedbackInterval, resetId, rfl⟩ := List.length_eq_two.1 h
    exact ⟨{ feedbackInterval, resetId }, rfl⟩

instance : Onto EncoderFeedbackTable := tableOnto EncoderFeedback encoderCount

instance : Onto FirmwareChunk where
  exists_write payload h := ⟨{ data := ⟨payload.toArray, h⟩ }, rfl⟩

instance : Onto FirmwareCrc where
  exists_write payload h := by
    obtain ⟨crc16, hcrc⟩ := exists_write (α := UInt16) payload h
    exact ⟨{ crc16 }, hcrc⟩

/-! ## Payloads -/

/-- **A table is refused only where one of its items is.** -/
theorem run_many_of_table_error [Message α] {n : Nat} {source : Bytes} {err : PayloadError}
    (h : (table α n).read.run source = .error err) :
    (Reader.many (read : Reader α) n).run source = .error err := by
  rcases hmany : (Reader.many (read : Reader α) n).run source with err' | ⟨items, rest⟩
  · have hread : (table α n).read.run source = .error err' := by
      show (Reader.many (read : Reader α) n >>= _).run source = _
      rw [StateT.run_bind, hmany]
      rfl
    exact congrArg _ (Except.error.inj (hread.symm.trans h))
  · -- as many items were read as were asked for
    have hread : (table α n).read.run source
        = .ok (⟨items.toArray, Reader.length_of_run_many hmany⟩, rest) := by
      show (Reader.many (read : Reader α) n >>= _).run source = _
      rw [StateT.run_bind, hmany]
      show StateT.run (if h : _ then _ else _) rest = _
      rw [dif_pos (Reader.length_of_run_many hmany)]
      rfl
    cases hread.symm.trans h

variable [Message α] [Lawful α] [Onto α]

/-- **A payload of the size of the layout is the payload of the message that it is read
as.** -/
theorem exists_ofPayload {payload : Bytes} (h : payload.length = size α) :
    ∃ m : α, ofPayload payload = .ok m ∧ write m = payload := by
  obtain ⟨m, rfl⟩ := exists_write (α := α) payload h
  exact ⟨canon m, ofPayload_write m, write_canon m⟩

/-- **Writing what was read gives the payload again.** -/
theorem write_of_ofPayload {payload : Bytes} {m : α} (h : ofPayload payload = .ok m) :
    write m = payload := by
  obtain ⟨m', hm', hwrite⟩ := exists_ofPayload (length_of_ofPayload h)
  obtain rfl := Except.ok.inj (h.symm.trans hm')
  exact hwrite

end Message

namespace Kind

open Message

/-- Every layout has a message for every payload of its size. -/
theorem onto (k : Kind) : Onto k.Value := by
  induction k with
  | uint8 => exact inferInstanceAs (Onto UInt8)
  | int8 => exact inferInstanceAs (Onto Int8)
  | uint16 => exact inferInstanceAs (Onto UInt16)
  | int16 => exact inferInstanceAs (Onto Int16)
  | uint32 => exact inferInstanceAs (Onto UInt32)
  | int32 => exact inferInstanceAs (Onto Int32)
  | single => exact inferInstanceAs (Onto Single)
  | motorFeedback => exact inferInstanceAs (Onto MotorFeedback)
  | motorInfo => exact inferInstanceAs (Onto MotorInfo)
  | motorSettings => exact inferInstanceAs (Onto MotorSettings)
  | motorSetpoint => exact inferInstanceAs (Onto MotorSetpoint)
  | pidParams => exact inferInstanceAs (Onto PidParams)
  | motorPid => exact inferInstanceAs (Onto MotorPid)
  | encoderFeedback => exact inferInstanceAs (Onto EncoderFeedback)
  | encoderInfo => exact inferInstanceAs (Onto EncoderInfo)
  | encoderSettings => exact inferInstanceAs (Onto EncoderSettings)
  | firmwareChunk => exact inferInstanceAs (Onto FirmwareChunk)
  | firmwareCrc => exact inferInstanceAs (Onto FirmwareCrc)
  | table item count ih => exact @tableOnto item.Value item.message ih count

/-- **Every layout is a faithful codec of fixed size.** Every message is written with the
size of its layout. A payload is read as a message if and only if it has this size, and
then writing the message gives the payload back, byte for byte. A message that was written
is read as this message with its values by name, which is the message itself if it is in
canonical form. And a table, of whatever messages, is refused only where reading its items
one after the other is: never for their number. -/
theorem faithful (k : Kind) :
    (∀ v : k.Value, (write v).length = size k.Value) ∧
      (∀ payload, (∃ v : k.Value, ofPayload payload = .ok v) ↔ payload.length = size k.Value) ∧
      (∀ payload (v : k.Value), ofPayload payload = .ok v → write v = payload) ∧
      (∀ v : k.Value, ofPayload (write v) = .ok (k.byName v)) ∧
      (∀ v : k.Value, k.Canonical v → ofPayload (write v) = .ok v) ∧
      ∀ (α : Type) [Message α] (n : Nat) (source : Bytes) (err : PayloadError),
        (Message.table α n).read.run source = .error err →
          (Reader.many (read : Reader α) n).run source = .error err := by
  have := k.onto
  have hread : ∀ v : k.Value, ofPayload (write v) = .ok (k.byName v) := fun v =>
    k.canon_eq v ▸ ofPayload_write v
  refine ⟨length_write, fun payload => ⟨fun ⟨v, hv⟩ => length_of_ofPayload hv, fun h => ?_⟩,
    fun _ _ => write_of_ofPayload, hread, fun v hv => ?_, fun _ _ _ _ _ => run_many_of_table_error⟩
  · obtain ⟨v, hv, -⟩ := exists_ofPayload (α := k.Value) h
    exact ⟨v, hv⟩
  · rw [hread, k.byName_of_canonical v hv]

/-- Feedback of two motors, the first with the code of a named error but without its name,
the second with a code that has no name: the first comes back by name, and from then on
nothing changes. Three bytes are one number and a half. -/
theorem faithful_other_code :
    let k : Kind := .table .motorFeedback 2
    let sent : k.Value := #v[{ position := 7, errorCode := .other 1 }, { errorCode := .other 9 }]
    let named : k.Value := #v[{ position := 7, errorCode := .overHeat }, { errorCode := .other 9 }]
    ¬ k.Canonical sent ∧ k.Canonical named ∧
      @ofPayload _ k.message (k.message.write sent) = .ok named ∧
      @ofPayload _ k.message (k.message.write named) = .ok named ∧
      k.message.write named = k.message.write sent ∧ (k.message.write sent).length = 16 ∧
      (Reader.many (read : Reader UInt16) 2).run [1, 2, 3] = .error (.length 2 1) := by
  intro k sent named
  obtain ⟨hlength, -, hagain, hread, hcanonical, htable⟩ := k.faithful
  have hname : k.byName sent = named := by decide +kernel
  have hsent : @ofPayload _ k.message (k.message.write sent) = .ok named := hname ▸ hread sent
  have hnamed : k.Canonical named := by
    intro m hm
    obtain rfl | rfl : m = { position := 7, errorCode := .overHeat } ∨
        m = { errorCode := .other 9 } := by simpa [named] using hm
    · exact MotorErrorCode.canonical_ofCode 1
    · exact MotorErrorCode.canonical_ofCode 9
  refine ⟨fun h => ?_, hnamed, hsent, hcanonical named hnamed, hagain _ named hsent,
    hlength sent, htable UInt16 2 [1, 2, 3] _ rfl⟩
  exact h { position := 7, errorCode := .other 1 } (by simp [sent]) 1 rfl .overHeat
    (by decide) rfl

end Kind

end ServoLink
