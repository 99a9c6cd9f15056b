import ServoLink.Failure
import ServoLink.Text.Hex

/-!
# Frames

A frame is one addressed message: a sequence number, a key that names the
component and the message type, flags owned by higher layers and a payload.
This module holds the frame, its key, the settings under which frames are
read and written, and the ways reading and writing can fail.
-/

namespace ServoLink

/-- The bytes in front of every payload. -/
def headerSize : Nat := 8

/-- The byte that starts every frame. -/
def syncByte : UInt8 := 0xA0

/-- How the last two header bytes are used. -/
inductive Integrity where
  /-- They hold the checksum of the rest of the frame; flags have three bits. -/
  | crc16
  /-- They hold eight flag bits and a zero byte; nothing is checked. -/
  | unchecked
  deriving DecidableEq, Inhabited

/-- The settings of the frame format. -/
structure FrameConfig where
  /-- The largest payload asked for, in bytes. -/
  maxPayload : Nat := 512
  /-- The use of the check word. -/
  integrity : Integrity := .crc16
  deriving DecidableEq, Inhabited

namespace FrameConfig

/-- The largest payload length that the 13-bit length field can express. -/
def fieldLimit : Nat := 0x1FFF

/-- The payload limit enforced: the one asked for, within the length field. -/
def payloadLimit (c : FrameConfig) : Nat :=
  min c.maxPayload fieldLimit

/-- The longest frame that can be written or accepted. -/
def maxFrameLength (c : FrameConfig) : Nat :=
  headerSize + c.payloadLimit

theorem payloadLimit_le (c : FrameConfig) : c.payloadLimit ≤ 0x1FFF :=
  Nat.min_le_right _ _

end FrameConfig

/-- The address of a frame: a component and a message type within it. -/
structure Key where
  /-- The component. -/
  component : UInt8
  /-- The message type within the component. -/
  data : UInt8
  deriving DecidableEq, Inhabited

namespace Key

/-- The place of a key in ascending order, component first. -/
def toNat (k : Key) : Nat :=
  k.component.toNat * 256 + k.data.toNat

/-- The key at a place of the ascending order. -/
def ofNat (n : Nat) : Key :=
  ⟨UInt8.ofNat (n / 256), UInt8.ofNat n⟩

/-- Every key, in ascending order. -/
def all : List Key :=
  (List.range 65536).map ofNat

@[simp] theorem ofNat_toNat (k : Key) : ofNat k.toNat = k := by
  obtain ⟨c, d⟩ := k
  have hc := c.toNat_lt
  have hd := d.toNat_lt
  simp only [ofNat, toNat, Key.mk.injEq]
  constructor
  · apply UInt8.toNat_inj.1
    simp
    omega
  · apply UInt8.toNat_inj.1
    simp

theorem toNat_lt (k : Key) : k.toNat < 65536 := by
  have hc := k.component.toNat_lt
  have hd := k.data.toNat_lt
  simp only [toNat]
  omega

/-- No key is left out. -/
theorem mem_all (k : Key) : k ∈ all :=
  List.mem_map.2 ⟨k.toNat, List.mem_range.2 k.toNat_lt, ofNat_toNat k⟩

end Key

/-- One addressed message. -/
structure Frame where
  /-- The number the sender counts its frames with, modulo 256. -/
  seq : UInt8 := 0
  /-- The component spoken to. -/
  component : UInt8
  /-- The message type within the component. -/
  data : UInt8
  /-- Flags owned by higher layers. -/
  flags : UInt8 := 0
  /-- The message. -/
  payload : Bytes := []
  deriving DecidableEq, Inhabited

namespace Frame

/-- The address of a frame. -/
def key (f : Frame) : Key :=
  ⟨f.component, f.data⟩

/-- A frame for a key with sequence number and flags zero. -/
def forKey (k : Key) (payload : Bytes) : Frame :=
  { component := k.component, data := k.data, payload := payload }

/-- The number of bytes a frame takes on the wire. -/
def wireSize (f : Frame) : Nat :=
  headerSize + f.payload.length

end Frame

/-- Why bytes are not a frame, or a frame is not written. -/
inductive FrameError where
  /-- The bytes do not start with the sync byte. -/
  | invalidSync (found : UInt8)
  /-- The payload is longer than the limit. -/
  | payloadTooLarge (size max : Nat)
  /-- The check word in the header is not that of the frame's bytes. -/
  | checksumMismatch (stored computed : UInt16)
  /-- Reading or writing failed for a reason from outside. -/
  | io (failure : IoFailure)
  deriving DecidableEq

namespace FrameError

/-- Whether the error says no more than that no frame starts here, so that a
receiver drops one byte and looks again. -/
def isResync : FrameError → Bool
  | .io _ => false
  | _ => true

/-- The text an error is shown with. -/
def message : FrameError → String
  | .invalidSync found =>
    s!"invalid sync byte 0x{Hex.upper2 found} (expected 0xA0)"
  | .payloadTooLarge size max =>
    s!"payload too large ({size} bytes, max {max})"
  | .checksumMismatch stored computed =>
    s!"frame checksum mismatch (header 0x{Hex.upper4 stored}, computed 0x{Hex.upper4 computed})"
  | .io failure =>
    s!"frame I/O error: {failure.text}"

end FrameError

end ServoLink
