import ServoLink.Decimal.Single
import ServoLink.Device.Station
import ServoLink.Message.Fields
import ServoLink.Text.Json

/-!
# Frames on display

Frames of known keys can be shown with their fields, in alphabetical order. A
model is shown as its name, a serial number by its bytes, a state or mode by
its name or its code, and a checksum by its digits.
-/

namespace ServoLink.Display

/-- A number of single precision; what is not finite is null. -/
def single (x : Single) : Json :=
  match Decimal.ofSingle? x with
  | some digits => .number digits
  | none => .null

/-- Put a field into its place among sorted ones. -/
def insertField {α : Type} (field : String × α) : List (String × α) → List (String × α)
  | [] => [field]
  | other :: rest =>
    if field.1 < other.1 then field :: other :: rest else other :: insertField field rest

/-- Fields in alphabetical order. -/
def sortFields {α : Type} (fields : List (String × α)) : List (String × α) :=
  fields.foldr insertField []

mutual

/-- A datum as it is shown. -/
def json : Datum → Json
  | .int n => .int n
  | .single x => single x
  | .bytes data => .array (data.map fun b => .nat b.toNat)
  | .text data => .string (Field.toText data)
  | .name n => .string n
  | .code c => .object [("Other", .nat c.toNat)]
  | .list items => .array (jsonItems items)
  | .record fields => .object (sortFields (jsonFields fields))

/-- The items of a list as they are shown. -/
def jsonItems : List Datum → List Json
  | [] => []
  | item :: rest => json item :: jsonItems rest

/-- The fields of a record as they are shown, in their own order. -/
def jsonFields : List (String × Datum) → List (String × Json)
  | [] => []
  | (name, value) :: rest => (name, json value) :: jsonFields rest

end

/-- A checksum, by its digits. -/
def crc (m : FirmwareCrc) : Json :=
  .object [("crc16", .string ("0x" ++ Hex.lower4 m.crc16))]

/-- A payload as a message, shown. A payload of another size is not. -/
def payload {α : Type} [Message α] (show_ : α → Json) (bytes : Bytes) : Option Json :=
  match Message.ofPayload bytes with
  | .ok message => some (show_ message)
  | .error _ => none

/-- The message layout of the keys that are shown field by field. -/
def kind? (k : Key) : Option Kind :=
  if k = Motors.feedbackKey then some (.table .motorFeedback motorCount)
  else if k = Motors.infoKey then some .motorInfo
  else if k = Motors.settingsKey then some .motorSettings
  else if k = Motors.setpointKey then some (.table .motorSetpoint motorCount)
  else if k = Motors.pidKey then some .motorPid
  else if k = Encoders.feedbackKey then some (.table .encoderFeedback encoderCount)
  else if k = Encoders.infoKey then some .encoderInfo
  else if k = Encoders.settingsKey then some .encoderSettings
  else none

/-- The fields of a frame, if its key is known and its payload has the size of
the message. -/
def frame? (f : Frame) : Option Json :=
  if f.key = Update.crcKey then payload crc f.payload
  else match kind? f.key with
    | some k => payload (fun message : k.Value => json (k.datum message)) f.payload
    | none => none

end ServoLink.Display
