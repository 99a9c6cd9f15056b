import ServoLink.Message.Encoder
import ServoLink.Message.Firmware
import ServoLink.Message.Motor

/-!
# Every message layout

The layouts that a link can speak form one family: single numbers, the
messages of the components, and tables of any of these. A kind names a
layout; `Kind.Value` is the type of its messages.
-/

namespace ServoLink

/-- A message layout. -/
inductive Kind where
  | uint8
  | int8
  | uint16
  | int16
  | uint32
  | int32
  | single
  | motorFeedback
  | motorInfo
  | motorSettings
  | motorSetpoint
  | pidParams
  | motorPid
  | encoderFeedback
  | encoderInfo
  | encoderSettings
  | firmwareChunk
  | firmwareCrc
  /-- Several messages of one layout in a row. -/
  | table (item : Kind) (count : Nat)
  deriving DecidableEq

namespace Kind

/-- The messages of a layout. -/
abbrev Value : Kind → Type
  | .uint8 => UInt8
  | .int8 => Int8
  | .uint16 => UInt16
  | .int16 => Int16
  | .uint32 => UInt32
  | .int32 => Int32
  | .single => Single
  | .motorFeedback => MotorFeedback
  | .motorInfo => MotorInfo
  | .motorSettings => MotorSettings
  | .motorSetpoint => MotorSetpoint
  | .pidParams => PidParams
  | .motorPid => MotorPid
  | .encoderFeedback => EncoderFeedback
  | .encoderInfo => EncoderInfo
  | .encoderSettings => EncoderSettings
  | .firmwareChunk => FirmwareChunk
  | .firmwareCrc => FirmwareCrc
  | .table item count => Vector item.Value count

/-- How the messages of a layout are read and written. -/
@[reducible] def message : (k : Kind) → Message k.Value
  | .uint8 => inferInstanceAs (Message UInt8)
  | .int8 => inferInstanceAs (Message Int8)
  | .uint16 => inferInstanceAs (Message UInt16)
  | .int16 => inferInstanceAs (Message Int16)
  | .uint32 => inferInstanceAs (Message UInt32)
  | .int32 => inferInstanceAs (Message Int32)
  | .single => inferInstanceAs (Message Single)
  | .motorFeedback => inferInstanceAs (Message MotorFeedback)
  | .motorInfo => inferInstanceAs (Message MotorInfo)
  | .motorSettings => inferInstanceAs (Message MotorSettings)
  | .motorSetpoint => inferInstanceAs (Message MotorSetpoint)
  | .pidParams => inferInstanceAs (Message PidParams)
  | .motorPid => inferInstanceAs (Message MotorPid)
  | .encoderFeedback => inferInstanceAs (Message EncoderFeedback)
  | .encoderInfo => inferInstanceAs (Message EncoderInfo)
  | .encoderSettings => inferInstanceAs (Message EncoderSettings)
  | .firmwareChunk => inferInstanceAs (Message FirmwareChunk)
  | .firmwareCrc => inferInstanceAs (Message FirmwareCrc)
  | .table item count => @Message.table item.Value item.message count

instance (k : Kind) : Message k.Value := k.message

end Kind

end ServoLink
