import ServoLink.Message.Basic

/-!
# Encoder messages

What a board of absolute encoders reports and how it is set up. Feedback
travels as a table of all encoders.
-/

namespace ServoLink

/-- The number of encoders on a board. -/
def encoderCount : Nat := 8

/-- The state an encoder reports. -/
inductive EncoderErrorCode where
  | ok
  | overflow
  | magnetTooStrong
  | magnetTooWeak
  | internal
  /-- A code without a name. -/
  | other (code : UInt8)
  deriving DecidableEq, Inhabited

namespace EncoderErrorCode

/-- The state a code stands for. -/
def ofCode (code : UInt8) : EncoderErrorCode :=
  if code = 0 then .ok
  else if code = 1 then .overflow
  else if code = 2 then .magnetTooStrong
  else if code = 3 then .magnetTooWeak
  else if code = 255 then .internal
  else .other code

/-- The code of a state. -/
def code : EncoderErrorCode → UInt8
  | .ok => 0
  | .overflow => 1
  | .magnetTooStrong => 2
  | .magnetTooWeak => 3
  | .internal => 255
  | .other code => code

end EncoderErrorCode

/-- What one encoder reports. -/
structure EncoderFeedback where
  position : UInt16 := 0
  velocity : Int32 := 0
  errorCode : EncoderErrorCode := .ok
  deriving DecidableEq, Inhabited

instance : Message EncoderFeedback where
  size := 7
  read := do
    let position ← Message.read
    let velocity ← Message.read
    let code ← Reader.byte
    return { position, velocity, errorCode := .ofCode code }
  write m := Message.write m.position ++ Message.write m.velocity ++ [m.errorCode.code]

/-- What kind of encoder it is. -/
structure EncoderInfo where
  encoderId : UInt8 := 0
  resolution : UInt8 := 0
  maxVelocity : UInt32 := 0
  maxPosition : UInt32 := 0
  runTime : UInt32 := 0
  model : Vector UInt8 32 := .replicate 32 0
  serial : Vector UInt8 12 := .replicate 12 0
  firmwareVersion : UInt32 := 0
  deriving DecidableEq, Inhabited

instance : Message EncoderInfo where
  size := 62
  read := do
    let encoderId ← Message.read
    let resolution ← Message.read
    let maxVelocity ← Message.read
    let maxPosition ← Message.read
    let runTime ← Message.read
    let model ← Reader.bytes 32
    let serial ← Reader.bytes 12
    let firmwareVersion ← Message.read
    pure
      { encoderId, resolution, maxVelocity, maxPosition, runTime, model, serial,
        firmwareVersion }
  write m :=
    Message.write m.encoderId ++ Message.write m.resolution ++ Message.write m.maxVelocity
      ++ Message.write m.maxPosition ++ Message.write m.runTime ++ m.model.toList
      ++ m.serial.toList ++ Message.write m.firmwareVersion

/-- How an encoder board is set up. -/
structure EncoderSettings where
  feedbackInterval : UInt8 := 0
  resetId : UInt8 := 0
  deriving DecidableEq, Inhabited

instance : Message EncoderSettings where
  size := 2
  read := do
    let feedbackInterval ← Message.read
    let resetId ← Message.read
    return { feedbackInterval, resetId }
  write m := [m.feedbackInterval, m.resetId]

/-- The feedback of every encoder. -/
abbrev EncoderFeedbackTable := Vector EncoderFeedback encoderCount

instance : Message EncoderFeedbackTable := Message.table EncoderFeedback encoderCount

end ServoLink
