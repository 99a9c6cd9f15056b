import ServoLink.Component
import ServoLink.Device.Mount
import ServoLink.Message.Encoder
import ServoLink.Text.Field

/-!
# Encoders

The values of a board of absolute encoders: the table of feedback, and the
identity and settings of the board. All of them are given out on request.
-/

namespace ServoLink

/-- The values of an encoder board. -/
structure Encoders where
  feedback : EncoderFeedbackTable := .replicate encoderCount {}
  info : EncoderInfo := {}
  settings : EncoderSettings := {}
  deriving DecidableEq, Inhabited

namespace Encoders

def feedbackKey : Key := ⟨Component.encoders, 1⟩
def infoKey : Key := ⟨Component.encoders, 2⟩
def settingsKey : Key := ⟨Component.encoders, 3⟩

/-- A value that travels on one of the keys. -/
inductive Value where
  | feedback (table : EncoderFeedbackTable)
  | info (info : EncoderInfo)
  | settings (settings : EncoderSettings)
  deriving DecidableEq

/-- Set one of the values. -/
def set (m : Encoders) : Value → Encoders
  | .feedback table => { m with feedback := table }
  | .info info => { m with info }
  | .settings settings => { m with settings }

/-- Store a value that has arrived; every value is admitted. -/
def store (m : Encoders) (value : Value) : Except PayloadError Encoders :=
  .ok (m.set value)

variable {σ : Type}

/-- Take the frames of the encoder keys of a link, and give the values out on
request. -/
def bind (mount : Mount σ Encoders Value) (e : Endpoint σ) : Endpoint σ :=
  e.register feedbackKey
      ((Handler.typed fun table : EncoderFeedbackTable =>
        mount.receive store (.feedback table)).answering
          fun s => Message.write (mount.get s).feedback)
    |>.register infoKey
      ((Handler.typed fun info : EncoderInfo =>
        mount.receive store (.info info)).answering
          fun s => Message.write (mount.get s).info)
    |>.register settingsKey
      ((Handler.typed fun settings : EncoderSettings =>
        mount.receive store (.settings settings)).answering
          fun s => Message.write (mount.get s).settings)

/-- What an operation answers, and what it leaves behind. -/
abbrev Sent (σ : Type) := Except DeviceError Nat × Encoders × Endpoint σ

/-- Set and send the feedback of all encoders. -/
def sendFeedback (m : Encoders) (e : Endpoint σ) (table : EncoderFeedbackTable) : Sent σ :=
  let (answer, e) := e.send feedbackKey table
  (answer, m.set (.feedback table), e)

/-- Set and send the identity of the board. -/
def sendInfo (m : Encoders) (e : Endpoint σ) (info : EncoderInfo) : Sent σ :=
  let (answer, e) := e.send infoKey info
  (answer, m.set (.info info), e)

/-- Set and send the settings of the board. -/
def sendSettings (m : Encoders) (e : Endpoint σ) (settings : EncoderSettings) : Sent σ :=
  let (answer, e) := e.send settingsKey settings
  (answer, m.set (.settings settings), e)

/-- Ask the peer for the feedback of all encoders. -/
def requestFeedback (e : Endpoint σ) : Except DeviceError Nat × Endpoint σ :=
  e.ask feedbackKey

/-- Ask the peer for the identity of its board. -/
def requestInfo (e : Endpoint σ) : Except DeviceError Nat × Endpoint σ :=
  e.ask infoKey

/-- Ask the peer for the settings of its board. -/
def requestSettings (e : Endpoint σ) : Except DeviceError Nat × Endpoint σ :=
  e.ask settingsKey

end Encoders

/-- The model name of an encoder board. -/
def EncoderInfo.modelName (info : EncoderInfo) : String :=
  Field.toText info.model.toList

end ServoLink
