import ServoLink.Message.Datum
import ServoLink.Message.Kind

/-!
# The fields of every message

For every message layout: the message as a datum, and a datum as a message.
-/

namespace ServoLink

/-! ## Named values -/

def MotorErrorCode.names : List (String × MotorErrorCode) :=
  [("Ok", .ok), ("OverHeat", .overHeat), ("Internal", .internal)]

def MotorErrorCode.datum : MotorErrorCode → Datum
  | .ok => .name "Ok"
  | .overHeat => .name "OverHeat"
  | .internal => .name "Internal"
  | .other code => .code code

def MotorErrorCode.ofDatum? : Datum → Option MotorErrorCode
  | .name n => names.lookup n
  | .code c => some (.other c)
  | _ => none

def MotorMode.names : List (String × MotorMode) :=
  [("Current", .current), ("Speed", .speed), ("Position", .position), ("Mit", .mit)]

def MotorMode.datum : MotorMode → Datum
  | .current => .name "Current"
  | .speed => .name "Speed"
  | .position => .name "Position"
  | .mit => .name "Mit"
  | .other code => .code code

def MotorMode.ofDatum? : Datum → Option MotorMode
  | .name n => names.lookup n
  | .code c => some (.other c)
  | _ => none

def EncoderErrorCode.names : List (String × EncoderErrorCode) :=
  [("Ok", .ok), ("Overflow", .overflow), ("MagnetTooStrong", .magnetTooStrong),
    ("MagnetTooWeak", .magnetTooWeak), ("Internal", .internal)]

def EncoderErrorCode.datum : EncoderErrorCode → Datum
  | .ok => .name "Ok"
  | .overflow => .name "Overflow"
  | .magnetTooStrong => .name "MagnetTooStrong"
  | .magnetTooWeak => .name "MagnetTooWeak"
  | .internal => .name "Internal"
  | .other code => .code code

def EncoderErrorCode.ofDatum? : Datum → Option EncoderErrorCode
  | .name n => names.lookup n
  | .code c => some (.other c)
  | _ => none

/-! ## Messages as data -/

def MotorFeedback.datum (m : MotorFeedback) : Datum :=
  .record
    [("position", .nat m.position.toNat), ("speed", .int m.speed.toInt),
      ("current", .nat m.current.toNat), ("temperature", .int m.temperature.toInt),
      ("error_code", m.errorCode.datum)]

def MotorInfo.datum (m : MotorInfo) : Datum :=
  .record
    [("motor_id", .nat m.motorId.toNat), ("ratio", .single m.ratio),
      ("max_speed", .single m.maxSpeed), ("max_current", .single m.maxCurrent),
      ("torque_constant", .single m.torqueConstant),
      ("max_position", .nat m.maxPosition.toNat), ("run_time", .nat m.runTime.toNat),
      ("model", .text m.model.toList), ("serial", .bytes m.serial.toList),
      ("firmware_version", .nat m.firmwareVersion.toNat)]

def MotorSettings.datum (m : MotorSettings) : Datum :=
  .record
    [("motor_id", .nat m.motorId.toNat), ("feedback_interval", .nat m.feedbackInterval.toNat),
      ("reset_id", .nat m.resetId.toNat), ("mode", m.mode.datum)]

def MotorSetpoint.datum (m : MotorSetpoint) : Datum :=
  .record
    [("set", .int m.set.toInt), ("set_extra", .int m.setExtra.toInt),
      ("set_extra2", .int m.setExtra2.toInt)]

def PidParams.datum (p : PidParams) : Datum :=
  .record
    [("kp", .single p.kp), ("ki", .single p.ki), ("kd", .single p.kd),
      ("feed_forward", .single p.feedForward), ("integral_limit", .single p.integralLimit),
      ("output_limit", .single p.outputLimit), ("deadband", .single p.deadband)]

def MotorPid.datum (m : MotorPid) : Datum :=
  .record
    [("motor_id", .nat m.motorId.toNat), ("current", m.current.datum), ("speed", m.speed.datum),
      ("position", m.position.datum)]

def EncoderFeedback.datum (m : EncoderFeedback) : Datum :=
  .record
    [("position", .nat m.position.toNat), ("velocity", .int m.velocity.toInt),
      ("error_code", m.errorCode.datum)]

def EncoderInfo.datum (m : EncoderInfo) : Datum :=
  .record
    [("encoder_id", .nat m.encoderId.toNat), ("resolution", .nat m.resolution.toNat),
      ("max_velocity", .nat m.maxVelocity.toNat), ("max_position", .nat m.maxPosition.toNat),
      ("run_time", .nat m.runTime.toNat), ("model", .text m.model.toList),
      ("serial", .bytes m.serial.toList), ("firmware_version", .nat m.firmwareVersion.toNat)]

def EncoderSettings.datum (m : EncoderSettings) : Datum :=
  .record
    [("feedback_interval", .nat m.feedbackInterval.toNat), ("reset_id", .nat m.resetId.toNat)]

def FirmwareChunk.datum (m : FirmwareChunk) : Datum :=
  .record [("data", .bytes m.data.toList)]

def FirmwareCrc.datum (m : FirmwareCrc) : Datum :=
  .record [("crc16", .nat m.crc16.toNat)]

/-- A table, item by item. -/
def Datum.table {α : Type} {n : Nat} (item : α → Datum) (items : Vector α n) : Datum :=
  .list (items.toList.map item)

/-- A message of any layout as a datum. -/
def Kind.datum : (k : Kind) → k.Value → Datum
  | .uint8, v => .nat (UInt8.toNat v)
  | .int8, v => .int (Int8.toInt v)
  | .uint16, v => .nat (UInt16.toNat v)
  | .int16, v => .int (Int16.toInt v)
  | .uint32, v => .nat (UInt32.toNat v)
  | .int32, v => .int (Int32.toInt v)
  | .single, v => .single v
  | .motorFeedback, v => MotorFeedback.datum v
  | .motorInfo, v => MotorInfo.datum v
  | .motorSettings, v => MotorSettings.datum v
  | .motorSetpoint, v => MotorSetpoint.datum v
  | .pidParams, v => PidParams.datum v
  | .motorPid, v => MotorPid.datum v
  | .encoderFeedback, v => EncoderFeedback.datum v
  | .encoderInfo, v => EncoderInfo.datum v
  | .encoderSettings, v => EncoderSettings.datum v
  | .firmwareChunk, v => FirmwareChunk.datum v
  | .firmwareCrc, v => FirmwareCrc.datum v
  | .table item _, v => .table item.datum v

/-! ## Data as messages -/

def MotorFeedback.ofDatum? (d : Datum) : Option MotorFeedback := do
  let position ← d.word16Field "position"
  let speed ← d.int16Field "speed"
  let current ← d.word16Field "current"
  let temperature ← d.int8Field "temperature"
  let errorCode ← d.fieldOr "error_code" .ok MotorErrorCode.ofDatum?
  some { position, speed, current, temperature, errorCode }

def MotorInfo.ofDatum? (d : Datum) : Option MotorInfo := do
  let motorId ← d.byteField "motor_id"
  let ratio ← d.singleField "ratio"
  let maxSpeed ← d.singleField "max_speed"
  let maxCurrent ← d.singleField "max_current"
  let torqueConstant ← d.singleField "torque_constant"
  let maxPosition ← d.word32Field "max_position"
  let runTime ← d.word32Field "run_time"
  let model ← d.bytesField "model" 32
  let serial ← d.bytesField "serial" 12
  let firmwareVersion ← d.word32Field "firmware_version"
  some
    { motorId, ratio, maxSpeed, maxCurrent, torqueConstant, maxPosition, runTime, model,
      serial, firmwareVersion }

def MotorSettings.ofDatum? (d : Datum) : Option MotorSettings := do
  let motorId ← d.byteField "motor_id"
  let feedbackInterval ← d.byteField "feedback_interval"
  let resetId ← d.byteField "reset_id"
  let mode ← d.fieldOr "mode" .current MotorMode.ofDatum?
  some { motorId, feedbackInterval, resetId, mode }

def MotorSetpoint.ofDatum? (d : Datum) : Option MotorSetpoint := do
  let set ← d.int16Field "set"
  let setExtra ← d.int16Field "set_extra"
  let setExtra2 ← d.int16Field "set_extra2"
  some { set, setExtra, setExtra2 }

def PidParams.ofDatum? (d : Datum) : Option PidParams := do
  let kp ← d.singleField "kp"
  let ki ← d.singleField "ki"
  let kd ← d.singleField "kd"
  let feedForward ← d.singleField "feed_forward"
  let integralLimit ← d.singleField "integral_limit"
  let outputLimit ← d.singleField "output_limit"
  let deadband ← d.singleField "deadband"
  some { kp, ki, kd, feedForward, integralLimit, outputLimit, deadband }

def MotorPid.ofDatum? (d : Datum) : Option MotorPid := do
  let motorId ← d.byteField "motor_id"
  let current ← d.fieldOr "current" {} PidParams.ofDatum?
  let speed ← d.fieldOr "speed" {} PidParams.ofDatum?
  let position ← d.fieldOr "position" {} PidParams.ofDatum?
  some { motorId, current, speed, position }

def EncoderFeedback.ofDatum? (d : Datum) : Option EncoderFeedback := do
  let position ← d.word16Field "position"
  let velocity ← d.int32Field "velocity"
  let errorCode ← d.fieldOr "error_code" .ok EncoderErrorCode.ofDatum?
  some { position, velocity, errorCode }

def EncoderInfo.ofDatum? (d : Datum) : Option EncoderInfo := do
  let encoderId ← d.byteField "encoder_id"
  let resolution ← d.byteField "resolution"
  let maxVelocity ← d.word32Field "max_velocity"
  let maxPosition ← d.word32Field "max_position"
  let runTime ← d.word32Field "run_time"
  let model ← d.bytesField "model" 32
  let serial ← d.bytesField "serial" 12
  let firmwareVersion ← d.word32Field "firmware_version"
  some
    { encoderId, resolution, maxVelocity, maxPosition, runTime, model, serial,
      firmwareVersion }

def EncoderSettings.ofDatum? (d : Datum) : Option EncoderSettings := do
  let feedbackInterval ← d.byteField "feedback_interval"
  let resetId ← d.byteField "reset_id"
  some { feedbackInterval, resetId }

def FirmwareChunk.ofDatum? (d : Datum) : Option FirmwareChunk := do
  let data ← d.bytesField "data" chunkSize
  some { data }

def FirmwareCrc.ofDatum? (d : Datum) : Option FirmwareCrc := do
  let crc16 ← d.word16Field "crc16"
  some { crc16 }

/-- A table of `n` items; items missing at its end are `standard`. -/
def Datum.toTable? {α : Type} (n : Nat) (standard : α) (item : Datum → Option α) (d : Datum) :
    Option (Vector α n) := do
  let items ← (← d.toList?).mapM item
  some (Vector.ofFn fun i => items.getD i.val standard)

namespace Kind

/-- The default message of a layout. -/
def standard : (k : Kind) → k.Value
  | .uint8 => (0 : UInt8)
  | .int8 => (0 : Int8)
  | .uint16 => (0 : UInt16)
  | .int16 => (0 : Int16)
  | .uint32 => (0 : UInt32)
  | .int32 => (0 : Int32)
  | .single => ({} : Single)
  | .motorFeedback => ({} : MotorFeedback)
  | .motorInfo => ({} : MotorInfo)
  | .motorSettings => ({} : MotorSettings)
  | .motorSetpoint => ({} : MotorSetpoint)
  | .pidParams => ({} : PidParams)
  | .motorPid => ({} : MotorPid)
  | .encoderFeedback => ({} : EncoderFeedback)
  | .encoderInfo => ({} : EncoderInfo)
  | .encoderSettings => ({} : EncoderSettings)
  | .firmwareChunk => ({} : FirmwareChunk)
  | .firmwareCrc => ({} : FirmwareCrc)
  | .table item n => Vector.replicate n item.standard

/-- A datum as a message of a layout. -/
def ofDatum? : (k : Kind) → Datum → Option k.Value
  | .uint8, d => d.toNat?.map UInt8.ofNat
  | .int8, d => d.toInt?.map Int8.ofInt
  | .uint16, d => d.toNat?.map UInt16.ofNat
  | .int16, d => d.toInt?.map Int16.ofInt
  | .uint32, d => d.toNat?.map UInt32.ofNat
  | .int32, d => d.toInt?.map Int32.ofInt
  | .single, d => d.toSingle?
  | .motorFeedback, d => MotorFeedback.ofDatum? d
  | .motorInfo, d => MotorInfo.ofDatum? d
  | .motorSettings, d => MotorSettings.ofDatum? d
  | .motorSetpoint, d => MotorSetpoint.ofDatum? d
  | .pidParams, d => PidParams.ofDatum? d
  | .motorPid, d => MotorPid.ofDatum? d
  | .encoderFeedback, d => EncoderFeedback.ofDatum? d
  | .encoderInfo, d => EncoderInfo.ofDatum? d
  | .encoderSettings, d => EncoderSettings.ofDatum? d
  | .firmwareChunk, d => FirmwareChunk.ofDatum? d
  | .firmwareCrc, d => FirmwareCrc.ofDatum? d
  | .table item n, d => d.toTable? n item.standard item.ofDatum?

/-- The layouts that have names of their own. -/
def names : List (String × Kind) :=
  [("u8", .uint8), ("i8", .int8), ("u16", .uint16), ("i16", .int16), ("u32", .uint32),
    ("i32", .int32), ("f32", .single), ("MotorFeedback", .motorFeedback),
    ("MotorInfo", .motorInfo), ("MotorSettings", .motorSettings),
    ("MotorSetpoint", .motorSetpoint), ("PidParams", .pidParams), ("MotorPid", .motorPid),
    ("EncoderFeedback", .encoderFeedback), ("EncoderInfo", .encoderInfo),
    ("EncoderSettings", .encoderSettings), ("FirmwareChunk", .firmwareChunk),
    ("FirmwareCrc", .firmwareCrc)]

/-- The layout of a name. A table of `n` items is named after its items, with
`x` and the number behind. -/
def ofName? (name : String) : Option Kind :=
  match name.splitOn "x" with
  | [item] => names.lookup item
  | [item, count] => do
    let item ← names.lookup item
    let count ← count.toNat?
    some (.table item count)
  | _ => none

end Kind

end ServoLink
