import ServoLink.Message.Basic

/-!
# Motor messages

What a motor controller reports and what it is told: feedback, identity,
settings, setpoints and control parameters. Feedback and setpoints travel as
tables of all motors; the others carry the number of the motor they are
about.
-/

namespace ServoLink

/-- The number of motors a controller has. -/
def motorCount : Nat := 8

/-- The state a motor reports. -/
inductive MotorErrorCode where
  | ok
  | overHeat
  | internal
  /-- A code without a name. -/
  | other (code : UInt8)
  deriving DecidableEq, Inhabited

namespace MotorErrorCode

/-- The state a code stands for. -/
def ofCode (code : UInt8) : MotorErrorCode :=
  if code = 0 then .ok
  else if code = 1 then .overHeat
  else if code = 255 then .internal
  else .other code

/-- The code of a state. -/
def code : MotorErrorCode → UInt8
  | .ok => 0
  | .overHeat => 1
  | .internal => 255
  | .other code => code

end MotorErrorCode

/-- What a motor is controlled for. -/
inductive MotorMode where
  | current
  | speed
  | position
  | mit
  /-- A code without a name. -/
  | other (code : UInt8)
  deriving DecidableEq, Inhabited

namespace MotorMode

/-- The mode a code stands for. -/
def ofCode (code : UInt8) : MotorMode :=
  if code = 0 then .current
  else if code = 1 then .speed
  else if code = 2 then .position
  else if code = 3 then .mit
  else .other code

/-- The code of a mode. -/
def code : MotorMode → UInt8
  | .current => 0
  | .speed => 1
  | .position => 2
  | .mit => 3
  | .other code => code

/-- The name a mode is shown with. -/
def name : MotorMode → String
  | .current => "Current"
  | .speed => "Speed"
  | .position => "Position"
  | .mit => "Mit"
  | .other code => s!"Other({code.toNat})"

end MotorMode

/-- What one motor reports about itself. -/
structure MotorFeedback where
  position : UInt16 := 0
  speed : Int16 := 0
  current : UInt16 := 0
  temperature : Int8 := 0
  errorCode : MotorErrorCode := .ok
  deriving DecidableEq, Inhabited

instance : Message MotorFeedback where
  size := 8
  read := do
    let position ← Message.read
    let speed ← Message.read
    let current ← Message.read
    let temperature ← Message.read
    let code ← Reader.byte
    return { position, speed, current, temperature, errorCode := .ofCode code }
  write m :=
    Message.write m.position ++ Message.write m.speed ++ Message.write m.current
      ++ Message.write m.temperature ++ [m.errorCode.code]

/-- What kind of motor it is. -/
structure MotorInfo where
  motorId : UInt8 := 0
  ratio : Single := {}
  maxSpeed : Single := {}
  maxCurrent : Single := {}
  torqueConstant : Single := {}
  maxPosition : UInt32 := 0
  runTime : UInt32 := 0
  model : Vector UInt8 32 := .replicate 32 0
  serial : Vector UInt8 12 := .replicate 12 0
  firmwareVersion : UInt32 := 0
  deriving DecidableEq, Inhabited

instance : Message MotorInfo where
  size := 73
  read := do
    let motorId ← Message.read
    let ratio ← Message.read
    let maxSpeed ← Message.read
    let maxCurrent ← Message.read
    let torqueConstant ← Message.read
    let maxPosition ← Message.read
    let runTime ← Message.read
    let model ← Reader.bytes 32
    let serial ← Reader.bytes 12
    let firmwareVersion ← Message.read
    pure
      { motorId, ratio, maxSpeed, maxCurrent, torqueConstant, maxPosition, runTime, model,
        serial, firmwareVersion }
  write m :=
    Message.write m.motorId ++ Message.write m.ratio ++ Message.write m.maxSpeed
      ++ Message.write m.maxCurrent ++ Message.write m.torqueConstant
      ++ Message.write m.maxPosition ++ Message.write m.runTime ++ m.model.toList
      ++ m.serial.toList ++ Message.write m.firmwareVersion

/-- How a motor is set up. -/
structure MotorSettings where
  motorId : UInt8 := 0
  feedbackInterval : UInt8 := 0
  resetId : UInt8 := 0
  mode : MotorMode := .current
  deriving DecidableEq, Inhabited

instance : Message MotorSettings where
  size := 4
  read := do
    let motorId ← Message.read
    let feedbackInterval ← Message.read
    let resetId ← Message.read
    let code ← Reader.byte
    return { motorId, feedbackInterval, resetId, mode := .ofCode code }
  write m := [m.motorId, m.feedbackInterval, m.resetId, m.mode.code]

/-- What one motor is to do. The mode of the motor decides what the three
numbers mean. -/
structure MotorSetpoint where
  set : Int16 := 0
  setExtra : Int16 := 0
  setExtra2 : Int16 := 0
  deriving DecidableEq, Inhabited

instance : Message MotorSetpoint where
  size := 6
  read := do
    let set ← Message.read
    let setExtra ← Message.read
    let setExtra2 ← Message.read
    return { set, setExtra, setExtra2 }
  write m := Message.write m.set ++ Message.write m.setExtra ++ Message.write m.setExtra2

/-- The parameters of one control loop. -/
structure PidParams where
  kp : Single := {}
  ki : Single := {}
  kd : Single := {}
  feedForward : Single := {}
  integralLimit : Single := {}
  outputLimit : Single := {}
  deadband : Single := {}
  deriving DecidableEq, Inhabited

instance : Message PidParams where
  size := 28
  read := do
    let kp ← Message.read
    let ki ← Message.read
    let kd ← Message.read
    let feedForward ← Message.read
    let integralLimit ← Message.read
    let outputLimit ← Message.read
    let deadband ← Message.read
    return { kp, ki, kd, feedForward, integralLimit, outputLimit, deadband }
  write m :=
    Message.write m.kp ++ Message.write m.ki ++ Message.write m.kd
      ++ Message.write m.feedForward ++ Message.write m.integralLimit
      ++ Message.write m.outputLimit ++ Message.write m.deadband

/-- The parameters of the three control loops of a motor. -/
structure MotorPid where
  motorId : UInt8 := 0
  current : PidParams := {}
  speed : PidParams := {}
  position : PidParams := {}
  deriving DecidableEq, Inhabited

instance : Message MotorPid where
  size := 1 + 3 * Message.size PidParams
  read := do
    let motorId ← Message.read
    let current ← Message.read
    let speed ← Message.read
    let position ← Message.read
    return { motorId, current, speed, position }
  write m :=
    Message.write m.motorId ++ Message.write m.current ++ Message.write m.speed
      ++ Message.write m.position

/-- The feedback of every motor. -/
abbrev MotorFeedbackTable := Vector MotorFeedback motorCount

/-- The setpoints of every motor. -/
abbrev MotorSetpointTable := Vector MotorSetpoint motorCount

instance : Message MotorFeedbackTable := Message.table MotorFeedback motorCount

instance : Message MotorSetpointTable := Message.table MotorSetpoint motorCount

end ServoLink
