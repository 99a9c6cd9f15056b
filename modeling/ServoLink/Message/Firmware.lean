import ServoLink.Message.Basic

/-!
# Firmware messages

A firmware image travels in chunks of a fixed size, followed by its checksum.
-/

namespace ServoLink

/-- The bytes of a chunk. -/
def chunkSize : Nat := 256

/-- A piece of a firmware image. -/
structure FirmwareChunk where
  data : Vector UInt8 chunkSize := .replicate chunkSize 0
  deriving DecidableEq, Inhabited

/-- The chunk that starts with the given bytes and ends with zeros. Bytes
that do not fit are left out. -/
def FirmwareChunk.ofBytes (data : Bytes) : FirmwareChunk where
  data :=
    ⟨(data.take chunkSize ++ List.replicate (chunkSize - data.length) 0).toArray, by
      simp only [List.size_toArray, List.length_append, List.length_take, List.length_replicate]
      omega⟩

instance : Message FirmwareChunk where
  size := chunkSize
  read := do
    let data ← Reader.bytes chunkSize
    return { data }
  write m := m.data.toList

/-- The checksum of a firmware image. -/
structure FirmwareCrc where
  crc16 : UInt16 := 0
  deriving DecidableEq, Inhabited

instance : Message FirmwareCrc where
  size := 2
  read := do
    let crc16 ← Message.read
    return { crc16 }
  write m := Message.write m.crc16

end ServoLink
