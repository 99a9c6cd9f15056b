import Mathlib.Tactic.SplitIfs
import ServoLink.Message.Kind

/-!
# A message written is a message read

Every message layout is lawful: what its writer writes has the size that the layout
states, and the reader takes exactly that from the front of whatever stands there
(`Message.Lawful`). The message read is the message written, but for named values:
a value that carries the code of a named one is read as the named one, and writes
the same code. `Message.canon` is the message that is read.

So a payload that a message was written to is read as that message
(`Message.ofPayload_write`), and writing what was read gives the payload again
(`Message.write_canon`).
-/

namespace ServoLink

variable {α β : Type}

/-! ## Named values -/

/-- The value that a code is read as has that code. -/
theorem MotorErrorCode.code_ofCode (code : UInt8) : (ofCode code).code = code := by
  unfold ofCode
  split_ifs with h0 h1 h255
  · exact h0.symm
  · exact h1.symm
  · exact h255.symm
  · rfl

theorem MotorMode.code_ofCode (code : UInt8) : (ofCode code).code = code := by
  unfold ofCode
  split_ifs with h0 h1 h2 h3
  · exact h0.symm
  · exact h1.symm
  · exact h2.symm
  · exact h3.symm
  · rfl

theorem EncoderErrorCode.code_ofCode (code : UInt8) : (ofCode code).code = code := by
  unfold ofCode
  split_ifs with h0 h1 h2 h3 h255
  · exact h0.symm
  · exact h1.symm
  · exact h2.symm
  · exact h3.symm
  · exact h255.symm
  · rfl

namespace Message

/-- A payload that is read as a message has its length. -/
theorem length_of_ofPayload [Message α] {payload : Bytes} {m : α}
    (h : ofPayload payload = .ok m) : payload.length = size α := by
  unfold ofPayload at h
  split at h
  · cases h
  · rename_i hlength
    exact Decidable.not_not.1 hlength

/-! ## Lawful layouts -/

/-- **A layout that reads what it writes.** -/
class Lawful (α : Type) [Message α] where
  /-- The message with every value that has a name under its name. -/
  canon : α → α
  length_write : ∀ m : α, (write m).length = size α
  read_write : ∀ (m : α) (rest : Bytes),
    (read : Reader α).run (write m ++ rest) = .ok (canon m, rest)
  write_canon : ∀ m : α, write (canon m) = write m

export Lawful (canon length_write read_write write_canon)

variable [Message α] [Lawful α]

/-- Reading goes on behind the first message. -/
theorem run_read_bind (m : α) (go : α → Reader β) (rest : Bytes) :
    ((read : Reader α) >>= go).run (write m ++ rest) = (go (canon m)).run rest := by
  rw [StateT.run_bind, read_write]
  rfl

/-- **A payload that was written is read as the message.** -/
theorem ofPayload_write (m : α) : ofPayload (write m) = .ok (canon m) := by
  have hread := read_write m []
  rw [List.append_nil] at hread
  unfold ofPayload
  rw [if_neg (fun h => h (length_write m)), hread]
  rfl

/-! ## Single numbers -/

instance : Lawful UInt8 where
  canon := id
  length_write _ := rfl
  read_write _ _ := rfl
  write_canon _ := rfl

instance : Lawful UInt16 where
  canon := id
  length_write _ := rfl
  read_write v rest := congrArg (fun w => Except.ok (w, rest)) (LittleEndian.word16_bytes16 v)
  write_canon _ := rfl

instance : Lawful UInt32 where
  canon := id
  length_write _ := rfl
  read_write v rest := congrArg (fun w => Except.ok (w, rest)) (LittleEndian.word32_bytes32 v)
  write_canon _ := rfl

instance : Lawful Int8 where
  canon := id
  length_write _ := rfl
  read_write v := run_read_bind v.toUInt8 _
  write_canon _ := rfl

instance : Lawful Int16 where
  canon := id
  length_write _ := rfl
  read_write v := run_read_bind v.toUInt16 _
  write_canon _ := rfl

instance : Lawful Int32 where
  canon := id
  length_write _ := rfl
  read_write v := run_read_bind v.toUInt32 _
  write_canon _ := rfl

instance : Lawful Single where
  canon := id
  length_write _ := rfl
  read_write v := run_read_bind v.bits _
  write_canon _ := rfl

/-! ## Rows and tables -/

instance bytesLawful (n : Nat) : Lawful (Vector UInt8 n) where
  canon := id
  length_write v := v.length_toList
  read_write v rest := by
    have hlength : v.toList.length = n := v.length_toList
    have hfit : n ≤ (v.toList ++ rest).length := by
      rw [List.length_append, hlength]
      exact Nat.le_add_right _ _
    show Reader.bytes n (v.toList ++ rest) = .ok (v, rest)
    unfold Reader.bytes
    rw [dif_pos hfit]
    congr
    · exact (List.take_left' hlength)
    · exact List.drop_left' hlength
  write_canon _ := rfl

/-- Reading goes on behind a row of bytes. -/
theorem run_bytes_bind {n : Nat} (v : Vector UInt8 n) (go : Vector UInt8 n → Reader β)
    (rest : Bytes) : (Reader.bytes n >>= go).run (v.toList ++ rest) = (go v).run rest :=
  run_read_bind v go rest

/-- Messages written back to back are read one after the other. -/
theorem run_many (ms : List α) (rest : Bytes) :
    (Reader.many read ms.length).run (ms.flatMap write ++ rest) = .ok (ms.map canon, rest) := by
  induction ms with
  | nil => rfl
  | cons m ms ih =>
    rw [List.flatMap_cons, List.append_assoc]
    refine (run_read_bind m _ _).trans ?_
    rw [StateT.run_bind, ih]
    rfl

/-- Messages written back to back take as much room as their number asks for. -/
theorem length_flatMap_write (ms : List α) :
    (ms.flatMap write).length = size α * ms.length := by
  induction ms with
  | nil => rfl
  | cons m ms ih =>
    rw [List.flatMap_cons, List.length_append, length_write, ih, List.length_cons, Nat.mul_succ,
      Nat.add_comm]

/-- A table of lawful messages is lawful. -/
@[reducible] def tableLawful (α : Type) [Message α] [Lawful α] (n : Nat) :
    @Lawful (Vector α n) (table α n) :=
  letI := table α n
  { canon := fun v => v.map canon
    length_write := fun v => by
      show (v.toList.flatMap write).length = size α * n
      rw [length_flatMap_write, v.length_toList]
    read_write := fun v rest => by
      have hmany := run_many v.toList rest
      rw [v.length_toList] at hmany
      have hlength : (v.toList.map canon).length = n := by rw [List.length_map, v.length_toList]
      show (Reader.many read n >>= _).run (v.toList.flatMap write ++ rest) = _
      rw [StateT.run_bind, hmany]
      show StateT.run (if h : _ then _ else _) rest = _
      rw [dif_pos hlength]
      have htable : (⟨(v.toList.map canon).toArray, by simp⟩ : Vector α n) = v.map canon :=
        Vector.toList_inj.1 v.toList_map.symm
      exact congrArg (fun t => Except.ok (t, rest)) htable
    write_canon := fun v => by
      show (v.map canon).toList.flatMap write = v.toList.flatMap write
      rw [Vector.toList_map, List.flatMap_map]
      exact congrArg (List.flatMap · v.toList) (funext write_canon) }

/-! ## Messages of the components -/

instance : Lawful MotorFeedback where
  canon m := { m with errorCode := .ofCode m.errorCode.code }
  length_write _ := rfl
  read_write m rest := by
    delta instMessageMotorFeedback
    simp only [List.append_assoc, run_read_bind]
    rfl
  write_canon m := congrArg (_ ++ [·]) (MotorErrorCode.code_ofCode m.errorCode.code)

instance : Lawful MotorInfo where
  canon := id
  length_write m := by
    delta instMessageMotorInfo
    simp only [List.length_append, length_write, Vector.length_toList]
    rfl
  read_write m rest := by
    delta instMessageMotorInfo
    simp only [List.append_assoc, run_read_bind, run_bytes_bind]
    rfl
  write_canon _ := rfl

instance : Lawful MotorSettings where
  canon m := { m with mode := .ofCode m.mode.code }
  length_write _ := rfl
  read_write _ _ := rfl
  write_canon m := congrArg ([m.motorId, m.feedbackInterval, m.resetId, ·])
    (MotorMode.code_ofCode m.mode.code)

instance : Lawful MotorSetpoint where
  canon := id
  length_write _ := rfl
  read_write m rest := by
    delta instMessageMotorSetpoint
    simp only [List.append_assoc, run_read_bind]
    rfl
  write_canon _ := rfl

instance : Lawful PidParams where
  canon := id
  length_write _ := rfl
  read_write m rest := by
    delta instMessagePidParams
    simp only [List.append_assoc, run_read_bind]
    rfl
  write_canon _ := rfl

instance : Lawful MotorPid where
  canon := id
  length_write _ := rfl
  read_write m rest := by
    delta instMessageMotorPid
    simp only [List.append_assoc, run_read_bind]
    rfl
  write_canon _ := rfl

instance : Lawful MotorFeedbackTable := tableLawful MotorFeedback motorCount

instance : Lawful MotorSetpointTable := tableLawful MotorSetpoint motorCount

instance : Lawful EncoderFeedback where
  canon m := { m with errorCode := .ofCode m.errorCode.code }
  length_write _ := rfl
  read_write m rest := by
    delta instMessageEncoderFeedback
    simp only [List.append_assoc, run_read_bind]
    rfl
  write_canon m := congrArg (_ ++ [·]) (EncoderErrorCode.code_ofCode m.errorCode.code)

instance : Lawful EncoderInfo where
  canon := id
  length_write m := by
    delta instMessageEncoderInfo
    simp only [List.length_append, length_write, Vector.length_toList]
    rfl
  read_write m rest := by
    delta instMessageEncoderInfo
    simp only [List.append_assoc, run_read_bind, run_bytes_bind]
    rfl
  write_canon _ := rfl

instance : Lawful EncoderSettings where
  canon := id
  length_write _ := rfl
  read_write _ _ := rfl
  write_canon _ := rfl

instance : Lawful EncoderFeedbackTable := tableLawful EncoderFeedback encoderCount

instance : Lawful FirmwareChunk where
  canon := id
  length_write m := m.data.length_toList
  read_write m := run_bytes_bind m.data _
  write_canon _ := rfl

instance : Lawful FirmwareCrc where
  canon := id
  length_write _ := rfl
  read_write m := run_read_bind m.crc16 _
  write_canon _ := rfl

end Message

end ServoLink
