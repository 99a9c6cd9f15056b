import ServoLink.Frame.Basic

/-!
# The frame header

Eight bytes stand in front of every payload: the sync byte, the sequence
number, the two bytes of the key, a length word and a check word. The length
word holds the payload length in its low 13 bits and three flag bits above.
-/

namespace ServoLink

/-- The header of a frame as it stands on the wire. -/
structure Header where
  /-- The sequence number. -/
  seq : UInt8
  /-- The component. -/
  component : UInt8
  /-- The message type within the component. -/
  data : UInt8
  /-- Payload length in the low 13 bits, three flag bits above. -/
  lengthWord : UInt16
  /-- First byte of the check word. -/
  check0 : UInt8
  /-- Second byte of the check word. -/
  check1 : UInt8
  deriving DecidableEq

namespace Header

/-- Read a header from the front of a byte string: `none` while it is too
short, an error when it starts with anything but the sync byte. -/
def parse : Bytes → Except FrameError (Option Header)
  | [] => .ok none
  | first :: rest =>
    if first ≠ syncByte then .error (.invalidSync first)
    else match rest with
      | seq :: component :: data :: l0 :: l1 :: check0 :: check1 :: _ =>
        .ok (some
          { seq, component, data, lengthWord := LittleEndian.word16 l0 l1, check0, check1 })
      | _ => .ok none

/-- The payload length declared. -/
def payloadLength (h : Header) : Nat :=
  h.lengthWord.toNat % 8192

/-- The length of the whole frame declared. -/
def frameLength (h : Header) : Nat :=
  headerSize + h.payloadLength

/-- The flags: three bits of the length word beside a checksum, else the
first byte of the check word. -/
def flags (h : Header) : Integrity → UInt8
  | .crc16 => UInt8.ofNat (h.lengthWord.toNat / 8192)
  | .unchecked => h.check0

/-- The check word as a number. -/
def checkWord (h : Header) : UInt16 :=
  LittleEndian.word16 h.check0 h.check1

end Header

end ServoLink
