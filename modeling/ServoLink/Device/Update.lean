import ServoLink.Component
import ServoLink.Device.Mount
import ServoLink.Message.Firmware

/-!
# The firmware channel

Each side of the firmware channel keeps the chunk and the checksum last sent
or received, and counts the chunks received.
-/

namespace ServoLink

/-- A count is a number. -/
instance natOfCount : Coe UInt64 Nat := ⟨UInt64.toNat⟩

/-- The values of the firmware channel. -/
structure Update where
  chunk : FirmwareChunk := {}
  crc : FirmwareCrc := {}
  chunksReceived : UInt64 := 0
  deriving DecidableEq, Inhabited

namespace Update

def chunkKey : Key := ⟨Component.update, 1⟩
def crcKey : Key := ⟨Component.update, 2⟩

/-- A value that travels on one of the keys. -/
inductive Value where
  | chunk (chunk : FirmwareChunk)
  | crc (crc : FirmwareCrc)
  deriving DecidableEq

/-- Store a value that has arrived, and count it if it is a chunk. -/
def store (m : Update) : Value → Except PayloadError Update
  | .chunk chunk => .ok { m with chunk, chunksReceived := m.chunksReceived + 1 }
  | .crc crc => .ok { m with crc }

variable {σ : Type}

/-- Take the frames of the firmware keys of a link, and give the values out
on request. -/
def bind (mount : Mount σ Update Value) (e : Endpoint σ) : Endpoint σ :=
  e.register chunkKey
      ((Handler.typed fun chunk : FirmwareChunk =>
        mount.receive store (.chunk chunk)).answering
          fun s => Message.write (mount.get s).chunk)
    |>.register crcKey
      ((Handler.typed fun crc : FirmwareCrc =>
        mount.receive store (.crc crc)).answering
          fun s => Message.write (mount.get s).crc)

/-- What an operation answers, and what it leaves behind. -/
abbrev Sent (σ : Type) := Except DeviceError Nat × Update × Endpoint σ

/-- Set and send a chunk. -/
def sendChunk (m : Update) (e : Endpoint σ) (chunk : FirmwareChunk) : Sent σ :=
  let (answer, e) := e.send chunkKey chunk
  (answer, { m with chunk }, e)

/-- Set and send a checksum. -/
def sendCrc (m : Update) (e : Endpoint σ) (crc16 : UInt16) : Sent σ :=
  let crc : FirmwareCrc := { crc16 }
  let (answer, e) := e.send crcKey crc
  (answer, { m with crc }, e)

end Update

end ServoLink
