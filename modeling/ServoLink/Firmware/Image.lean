import ServoLink.Crc
import ServoLink.Message.Firmware

/-!
# Firmware images

An image is cut into chunks of a fixed size, the last one filled up with
zeros. Its checksum is that of the image itself, without the filling.
-/

namespace ServoLink

/-- A firmware image. -/
structure Image where
  /-- The bytes of the image. -/
  data : Bytes
  deriving DecidableEq, Inhabited

namespace Image

/-- The checksum. -/
def crc (image : Image) : UInt16 :=
  Crc.checksum image.data

/-- The number of chunks. -/
def chunkCount (image : Image) : Nat :=
  (image.data.length + chunkSize - 1) / chunkSize

/-- A chunk, by its place. -/
def chunk? (image : Image) (index : Nat) : Option FirmwareChunk :=
  if index < image.chunkCount then
    some (.ofBytes ((image.data.drop (index * chunkSize)).take chunkSize))
  else none

/-- Every chunk, in order. -/
def chunks (image : Image) : List FirmwareChunk :=
  (List.range image.chunkCount).filterMap image.chunk?

end Image

end ServoLink
