import ServoLink.Component
import ServoLink.Device.Mount
import ServoLink.Text.Field

/-!
# Motors

The values of a motor controller: the tables of feedback and setpoints, and
for every motor its identity, settings and control parameters. Either side of
a link keeps them. They change when a value is sent and when one arrives;
setpoints are sent only to a motor that is known to be in the mode they are
meant for.
-/

namespace ServoLink

/-- The values of a motor controller. -/
structure Motors where
  feedback : MotorFeedbackTable
  info : Vector MotorInfo motorCount
  settings : Vector MotorSettings motorCount
  setpoints : MotorSetpointTable
  pid : Vector MotorPid motorCount
  deriving DecidableEq

namespace Motors

/-- The values before anything was sent or received: all zero, each motor
under its own number. -/
def fresh : Motors where
  feedback := .replicate motorCount {}
  info := .ofFn fun i => { motorId := UInt8.ofNat i.val }
  settings := .ofFn fun i => { motorId := UInt8.ofNat i.val }
  setpoints := .replicate motorCount {}
  pid := .ofFn fun i => { motorId := UInt8.ofNat i.val }

instance : Inhabited Motors := ⟨fresh⟩

def feedbackKey : Key := ⟨Component.motors, 1⟩
def infoKey : Key := ⟨Component.motors, 2⟩
def settingsKey : Key := ⟨Component.motors, 3⟩
def setpointKey : Key := ⟨Component.motors, 4⟩
def pidKey : Key := ⟨Component.motors, 5⟩

/-- A value that travels on one of the keys. -/
inductive Value where
  | feedback (table : MotorFeedbackTable)
  | info (info : MotorInfo)
  | settings (settings : MotorSettings)
  | setpoints (table : MotorSetpointTable)
  | pid (pid : MotorPid)
  deriving DecidableEq

/-- The slot of a motor, if there is a motor of that number. -/
def slot? (motor : UInt8) : Option (Fin motorCount) :=
  if h : motor.toNat < motorCount then some ⟨motor.toNat, h⟩ else none

/-- The slot of a motor a payload speaks of. -/
def payloadSlot (motor : UInt8) : Except PayloadError (Fin motorCount) :=
  match slot? motor with
  | some k => .ok k
  | none => .error (.instanceOutOfRange motor.toNat motorCount)

/-- The slot of a motor a caller speaks of. -/
def callerSlot (motor : UInt8) : Except DeviceError (Fin motorCount) :=
  match slot? motor with
  | some k => .ok k
  | none => .error (.instanceOutOfRange motor.toNat motorCount)

/-- Replace the identity of one motor. -/
def setInfo (m : Motors) (k : Fin motorCount) (info : MotorInfo) : Motors :=
  { m with info := m.info.set k.val info k.isLt }

/-- Replace the settings of one motor. -/
def setSettings (m : Motors) (k : Fin motorCount) (settings : MotorSettings) : Motors :=
  { m with settings := m.settings.set k.val settings k.isLt }

/-- Replace the setpoint of one motor. -/
def setSetpoint (m : Motors) (k : Fin motorCount) (setpoint : MotorSetpoint) : Motors :=
  { m with setpoints := m.setpoints.set k.val setpoint k.isLt }

/-- Replace the control parameters of one motor. -/
def setPid (m : Motors) (k : Fin motorCount) (pid : MotorPid) : Motors :=
  { m with pid := m.pid.set k.val pid k.isLt }

/-- Store a value that has arrived. One about a motor that does not exist is
refused. -/
def store (m : Motors) : Value → Except PayloadError Motors
  | .feedback table => .ok { m with feedback := table }
  | .setpoints table => .ok { m with setpoints := table }
  | .info info =>
    match payloadSlot info.motorId with
    | .ok k => .ok (m.setInfo k info)
    | .error e => .error e
  | .settings settings =>
    match payloadSlot settings.motorId with
    | .ok k => .ok (m.setSettings k settings)
    | .error e => .error e
  | .pid pid =>
    match payloadSlot pid.motorId with
    | .ok k => .ok (m.setPid k pid)
    | .error e => .error e

variable {σ : Type}

/-- Take the frames of the motor keys of a link. Feedback and setpoints are
also given out on request. -/
def bind (mount : Mount σ Motors Value) (e : Endpoint σ) : Endpoint σ :=
  e.register feedbackKey
      ((Handler.typed fun table : MotorFeedbackTable =>
        mount.receive store (.feedback table)).answering
          fun s => Message.write (mount.get s).feedback)
    |>.register infoKey (Handler.typed fun info : MotorInfo => mount.receive store (.info info))
    |>.register settingsKey
      (Handler.typed fun settings : MotorSettings => mount.receive store (.settings settings))
    |>.register setpointKey
      ((Handler.typed fun table : MotorSetpointTable =>
        mount.receive store (.setpoints table)).answering
          fun s => Message.write (mount.get s).setpoints)
    |>.register pidKey (Handler.typed fun pid : MotorPid => mount.receive store (.pid pid))

/-! ## Looking values up -/

/-- The identity of a motor. -/
def infoOf (m : Motors) (motor : UInt8) : Except DeviceError MotorInfo :=
  (callerSlot motor).map m.info.get

/-- The settings of a motor. -/
def settingsOf (m : Motors) (motor : UInt8) : Except DeviceError MotorSettings :=
  (callerSlot motor).map m.settings.get

/-- The control parameters of a motor. -/
def pidOf (m : Motors) (motor : UInt8) : Except DeviceError MotorPid :=
  (callerSlot motor).map m.pid.get

/-- The mode of a motor. -/
def modeOf (m : Motors) (motor : UInt8) : Except DeviceError MotorMode :=
  (m.settingsOf motor).map (·.mode)

/-! ## Sending -/

/-- What an operation answers, and what it leaves behind. -/
abbrev Sent (σ : Type) := Except DeviceError Nat × Motors × Endpoint σ

/-- Send a message for a key, and keep the values given. -/
def keepAndSend {α : Type} [Message α] (m : Motors) (e : Endpoint σ) (k : Key) (message : α) :
    Sent σ :=
  let (answer, e) := e.send k message
  (answer, m, e)

/-- Set the setpoint of a motor that is in the mode required, and send the
whole table. The setpoint is kept whether or not the link takes the frame. -/
def commandSetpoint (m : Motors) (e : Endpoint σ) (motor : UInt8) (required : MotorMode)
    (setpoint : MotorSetpoint) : Sent σ :=
  match callerSlot motor with
  | .error err => (.error err, m, e)
  | .ok k =>
    let actual := (m.settings.get k).mode
    if actual ≠ required then (.error (.modeMismatch motor required actual), m, e)
    else
      let m := m.setSetpoint k setpoint
      m.keepAndSend e setpointKey m.setpoints

/-- Command a current. -/
def setCurrent (m : Motors) (e : Endpoint σ) (motor : UInt8) (current : Int16) : Sent σ :=
  m.commandSetpoint e motor .current { set := current }

/-- Command a speed. -/
def setSpeed (m : Motors) (e : Endpoint σ) (motor : UInt8) (speed : Int16) : Sent σ :=
  m.commandSetpoint e motor .speed { set := speed }

/-- Command a position, to be reached at a speed. -/
def setPosition (m : Motors) (e : Endpoint σ) (motor : UInt8) (position : UInt16)
    (speed : Int16) : Sent σ :=
  m.commandSetpoint e motor .position { set := position.toInt16, setExtra := speed }

/-- Command a position, a speed and a current together. -/
def setMit (m : Motors) (e : Endpoint σ) (motor : UInt8) (position : UInt16) (speed : Int16)
    (current : UInt16) : Sent σ :=
  m.commandSetpoint e motor .mit
    { set := position.toInt16, setExtra := speed, setExtra2 := current.toInt16 }

/-- Put a motor into a mode: change its settings and send them. -/
def setMode (m : Motors) (e : Endpoint σ) (motor : UInt8) (mode : MotorMode) : Sent σ :=
  match callerSlot motor with
  | .error err => (.error err, m, e)
  | .ok k =>
    let settings := { m.settings.get k with motorId := motor, mode }
    (m.setSettings k settings).keepAndSend e settingsKey settings

/-- Set and send the feedback of all motors. -/
def sendFeedback (m : Motors) (e : Endpoint σ) (table : MotorFeedbackTable) : Sent σ :=
  { m with feedback := table }.keepAndSend e feedbackKey table

/-- Set and send the identity of a motor. -/
def sendInfo (m : Motors) (e : Endpoint σ) (info : MotorInfo) : Sent σ :=
  match callerSlot info.motorId with
  | .error err => (.error err, m, e)
  | .ok k => (m.setInfo k info).keepAndSend e infoKey info

/-- Set and send the settings of a motor. -/
def sendSettings (m : Motors) (e : Endpoint σ) (settings : MotorSettings) : Sent σ :=
  match callerSlot settings.motorId with
  | .error err => (.error err, m, e)
  | .ok k => (m.setSettings k settings).keepAndSend e settingsKey settings

/-- Send the setpoints of all motors as they are. -/
def sendSetpoints (m : Motors) (e : Endpoint σ) : Sent σ :=
  m.keepAndSend e setpointKey m.setpoints

/-- Set and send the control parameters of a motor. -/
def sendPid (m : Motors) (e : Endpoint σ) (pid : MotorPid) : Sent σ :=
  match callerSlot pid.motorId with
  | .error err => (.error err, m, e)
  | .ok k => (m.setPid k pid).keepAndSend e pidKey pid

/-- Ask the peer for the feedback of all motors. -/
def requestFeedback (e : Endpoint σ) : Except DeviceError Nat × Endpoint σ :=
  e.ask feedbackKey

/-- Ask the peer for the setpoints of all motors. -/
def requestSetpoints (e : Endpoint σ) : Except DeviceError Nat × Endpoint σ :=
  e.ask setpointKey

end Motors

/-- The model name of a motor. -/
def MotorInfo.modelName (info : MotorInfo) : String :=
  Field.toText info.model.toList

end ServoLink
