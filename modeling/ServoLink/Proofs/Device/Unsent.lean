import ServoLink.Device.Station
import ServoLink.Proofs.Link.Outbox

/-!
# Values that were set but not sent

A component sets a value first and sends it then, and it does not look back: if
the link refuses the frame, the value stays set although nobody was told. So a
failed call leaves the values as they were in two cases only, if it failed
before it came to the link, or if the value set was the one that stood there
anyway (`Station.Call.unchanged_iff_of_error`). In every other case the
component holds what was neither sent nor received.

All calls of all components come to one of three outcomes, which are told apart
by the answer (`Station.Call.outcome`).
-/

namespace ServoLink

variable {σ α β : Type}

/-- Whether a call failed before it came to the link. -/
def DeviceError.isLocal : DeviceError → Bool
  | .link _ => false
  | .instanceOutOfRange .. | .modeMismatch .. => true

/-- What a call answers, and what it leaves behind. -/
abbrev Answer (σ α : Type) := Except DeviceError Nat × α × Endpoint σ

/-- **What can come of a call** that is to set some values to `kept` and send
them. -/
inductive SendOutcome (old kept : α) (e : Endpoint σ) : Answer σ α → Prop
  /-- The call is refused before anything is done. -/
  | refused {err : DeviceError} (h : err.isLocal) : SendOutcome old kept e (.error err, old, e)
  /-- The values are set and the frame is taken. -/
  | sent {size : Nat} {e' : Endpoint σ} : SendOutcome old kept e (.ok size, kept, e')
  /-- The values are set, and the frame is not taken but counted. -/
  | unsent {err : LinkError} :
    SendOutcome old kept e (.error (.link err), kept,
      e.count fun n => { n with enqueueRejected := n.enqueueRejected.bump 1 })

namespace SendOutcome

variable {old kept : α} {e : Endpoint σ} {answer : Answer σ α}

/-- Setting values and sending a message, whatever the link says. -/
theorem of_send [Message β] (old kept : α) (e : Endpoint σ) (k : Key) (message : β) :
    SendOutcome old kept e ((e.send k message).1, kept, (e.send k message).2) := by
  rcases e.enqueueFrame_cases (.forKey k (Message.write message)) with ⟨-, henq⟩ | ⟨err, henq⟩
  · unfold Endpoint.send Endpoint.enqueue
    rw [henq]
    exact .sent
  · unfold Endpoint.send Endpoint.enqueue
    rw [henq]
    exact .unsent

/-- The outcome for a part is one for the whole. -/
theorem lift (h : SendOutcome old kept e answer) (whole : α → β) :
    SendOutcome (whole old) (whole kept) e (answer.1, whole answer.2.1, answer.2.2) := by
  cases h with
  | refused h => exact .refused h
  | sent => exact .sent
  | unsent => exact .unsent

/-- **What a failed call leaves unchanged**: the values if it was refused or
they stood there anyway, and in any case the frames queued and the number of
the next. -/
theorem unchanged_iff {err : DeviceError} (h : SendOutcome old kept e answer)
    (herr : answer.1 = .error err) :
    (answer.2.1 = old ↔ err.isLocal ∨ kept = old) ∧
      answer.2.2.queue = e.queue ∧ answer.2.2.nextSeq = e.nextSeq := by
  cases h with
  | refused hlocal =>
    obtain rfl := Except.error.inj herr
    exact ⟨⟨fun _ => .inl hlocal, fun _ => rfl⟩, rfl, rfl⟩
  | sent => simp at herr
  | unsent =>
    obtain rfl := Except.error.inj herr
    -- the values are set, so they are the old ones only if nothing new was set
    refine ⟨⟨.inr, fun h => ?_⟩, rfl, rfl⟩
    rcases h with hlocal | hkept
    · simp [DeviceError.isLocal] at hlocal
    · exact hkept

end SendOutcome

/-! ## Motors -/

namespace Motors

/-- Change the values of a motor, if there is a motor of that number. -/
def atMotor (m : Motors) (motor : UInt8) (change : Fin motorCount → Motors) : Motors :=
  match slot? motor with
  | some k => change k
  | none => m

variable {m : Motors} {e : Endpoint σ}

/-- A call about a motor that does not exist is refused. -/
theorem outcome_atMotor (motor : UInt8) {change : Fin motorCount → Motors}
    {answer : Fin motorCount → Answer σ Motors}
    (h : ∀ k, SendOutcome m (change k) e (answer k)) :
    SendOutcome m (m.atMotor motor change) e
      (match callerSlot motor with
        | .error err => (.error err, m, e)
        | .ok k => answer k) := by
  unfold callerSlot atMotor
  cases slot? motor with
  | none => exact .refused rfl
  | some k => exact h k

/-- A setpoint is refused if the motor is in another mode. -/
theorem outcome_commandSetpoint (m : Motors) (e : Endpoint σ) (motor : UInt8)
    (required : MotorMode) (setpoint : MotorSetpoint) :
    SendOutcome m (m.atMotor motor fun k => m.setSetpoint k setpoint) e
      (m.commandSetpoint e motor required setpoint) := by
  refine outcome_atMotor motor fun k => ?_
  by_cases hmode : (m.settings.get k).mode ≠ required
  · rw [if_pos hmode]
    exact .refused rfl
  · rw [if_neg hmode]
    exact .of_send ..

end Motors

/-! ## Calls -/

namespace Station

/-- A call that sets a value of a component and sends it. -/
inductive Call where
  | setCurrent (motor : UInt8) (current : Int16)
  | setSpeed (motor : UInt8) (speed : Int16)
  | setPosition (motor : UInt8) (position : UInt16) (speed : Int16)
  | setMit (motor : UInt8) (position : UInt16) (speed : Int16) (current : UInt16)
  | setMode (motor : UInt8) (mode : MotorMode)
  | sendMotorFeedback (table : MotorFeedbackTable)
  | sendMotorInfo (info : MotorInfo)
  | sendMotorSettings (settings : MotorSettings)
  | sendMotorPid (pid : MotorPid)
  | sendEncoderFeedback (table : EncoderFeedbackTable)
  | sendEncoderInfo (info : EncoderInfo)
  | sendEncoderSettings (settings : EncoderSettings)
  | sendChunk (chunk : FirmwareChunk)
  | sendCrc (crc16 : UInt16)

/-- A call of the motors of a station. -/
def onMotors (s : Station) (answer : Answer σ Motors) : Answer σ Station :=
  (answer.1, { s with motors := answer.2.1 }, answer.2.2)

/-- A call of the encoders of a station. -/
def onEncoders (s : Station) (answer : Answer σ Encoders) : Answer σ Station :=
  (answer.1, { s with encoders := answer.2.1 }, answer.2.2)

/-- A call of the firmware channel of a station. -/
def onUpdate (s : Station) (answer : Answer σ Update) : Answer σ Station :=
  (answer.1, { s with update := answer.2.1 }, answer.2.2)

namespace Call

/-- Make a call. -/
def run (s : Station) (e : Endpoint σ) : Call → Answer σ Station
  | .setCurrent motor current => s.onMotors (s.motors.setCurrent e motor current)
  | .setSpeed motor speed => s.onMotors (s.motors.setSpeed e motor speed)
  | .setPosition motor position speed => s.onMotors (s.motors.setPosition e motor position speed)
  | .setMit motor position speed current =>
    s.onMotors (s.motors.setMit e motor position speed current)
  | .setMode motor mode => s.onMotors (s.motors.setMode e motor mode)
  | .sendMotorFeedback table => s.onMotors (s.motors.sendFeedback e table)
  | .sendMotorInfo info => s.onMotors (s.motors.sendInfo e info)
  | .sendMotorSettings settings => s.onMotors (s.motors.sendSettings e settings)
  | .sendMotorPid pid => s.onMotors (s.motors.sendPid e pid)
  | .sendEncoderFeedback table => s.onEncoders (s.encoders.sendFeedback e table)
  | .sendEncoderInfo info => s.onEncoders (s.encoders.sendInfo e info)
  | .sendEncoderSettings settings => s.onEncoders (s.encoders.sendSettings e settings)
  | .sendChunk chunk => s.onUpdate (s.update.sendChunk e chunk)
  | .sendCrc crc16 => s.onUpdate (s.update.sendCrc e crc16)

/-- The values of the motors with what a call of theirs is to set. -/
def keptMotors (m : Motors) : Call → Motors
  | .setCurrent motor current =>
    m.atMotor motor fun k => m.setSetpoint k { set := current }
  | .setSpeed motor speed =>
    m.atMotor motor fun k => m.setSetpoint k { set := speed }
  | .setPosition motor position speed =>
    m.atMotor motor fun k => m.setSetpoint k { set := position.toInt16, setExtra := speed }
  | .setMit motor position speed current =>
    m.atMotor motor fun k => m.setSetpoint k
      { set := position.toInt16, setExtra := speed, setExtra2 := current.toInt16 }
  | .setMode motor mode =>
    m.atMotor motor fun k => m.setSettings k { m.settings.get k with motorId := motor, mode }
  | .sendMotorFeedback table => { m with feedback := table }
  | .sendMotorInfo info => m.atMotor info.motorId fun k => m.setInfo k info
  | .sendMotorSettings settings => m.atMotor settings.motorId fun k => m.setSettings k settings
  | .sendMotorPid pid => m.atMotor pid.motorId fun k => m.setPid k pid
  | _ => m

/-- The values of a station with what a call is to set. -/
def kept (s : Station) : Call → Station
  | .sendEncoderFeedback table => { s with encoders := { s.encoders with feedback := table } }
  | .sendEncoderInfo info => { s with encoders := { s.encoders with info } }
  | .sendEncoderSettings settings => { s with encoders := { s.encoders with settings } }
  | .sendChunk chunk => { s with update := { s.update with chunk } }
  | .sendCrc crc16 => { s with update := { s.update with crc := { crc16 } } }
  | call => { s with motors := call.keptMotors s.motors }

/-- **Every call has one of three outcomes**, for whatever values are set and
whatever the state of the link is. -/
theorem outcome (s : Station) (e : Endpoint σ) (call : Call) :
    SendOutcome s (call.kept s) e (call.run s e) := by
  -- calls of the motors may be refused; all others set and send at once
  have motors {kept : Motors} {answer : Answer σ Motors}
      (h : SendOutcome s.motors kept e answer) :
      SendOutcome s { s with motors := kept } e (s.onMotors answer) :=
    h.lift fun m => { s with motors := m }
  cases call with
  | setCurrent | setSpeed | setPosition | setMit =>
    exact motors (s.motors.outcome_commandSetpoint ..)
  | setMode | sendMotorInfo | sendMotorSettings | sendMotorPid =>
    exact motors (Motors.outcome_atMotor _ fun k => .of_send ..)
  | sendMotorFeedback table => exact motors (.of_send ..)
  | sendEncoderFeedback | sendEncoderInfo | sendEncoderSettings | sendChunk | sendCrc =>
    exact .of_send ..

/-- **When a failed call leaves the values as they were.** It sends nothing, but
its value stays set, unless the call failed before it came to the link or the
value stood there anyway. -/
theorem unchanged_iff_of_error (s : Station) (e : Endpoint σ) (call : Call)
    {err : DeviceError} (herr : (call.run s e).1 = .error err) :
    ((call.run s e).2.1 = s ↔ err.isLocal ∨ call.kept s = s) ∧
      (call.run s e).2.2.queue = e.queue ∧ (call.run s e).2.2.nextSeq = e.nextSeq :=
  (call.outcome s e).unchanged_iff herr

/-- A mode at work that was never sent: the motor is taken to be in it. -/
theorem unchanged_iff_of_error_mode :
    let e : Endpoint Station := Station.endpoint { maxQueue := 4 }
    let after := (setMode 0 .speed).run {} e
    after.1 = .error (.link (.queueFull 12 4)) ∧ after.2.1 ≠ {} ∧
      after.2.2.queue.bytes = [] := by
  intro e after
  have herr : after.1 = .error (.link (.queueFull 12 4)) := rfl
  obtain ⟨hsame, hqueue, -⟩ := unchanged_iff_of_error {} e (setMode 0 .speed) herr
  refine ⟨herr, fun h => ?_, congrArg SendQueue.bytes hqueue⟩
  rcases hsame.1 h with hlocal | hkept
  · exact absurd hlocal (by decide)
  · exact absurd hkept (by decide +kernel)

/-- A failed call may leave a motor in a mode that nobody told it. -/
theorem mode_kept_unsent :
    let s : Station := {}
    let after := (setMode 0 .speed).run s (Station.endpoint { maxQueue := 4 })
    after.1 = .error (.link (.queueFull 12 4)) ∧ s.motors.modeOf 0 = .ok .current ∧
      after.2.1.motors.modeOf 0 = .ok .speed :=
  ⟨rfl, rfl, rfl⟩

end Call

end Station

end ServoLink
