import ServoLink.Bytes

/-!
# The 16-bit frame checksum

A frame is protected by the cyclic redundancy check with generator
`x^16 + x^12 + x^5 + 1` and an all-ones start value, high bit first and
without a final complement. Two definitions stand here. `Crc.update` runs a
byte at a time through a table of 256 remainders and is the one that runs;
`Crc.serial` divides bit by bit and says what the remainder is.
-/

namespace ServoLink.Crc

/-- The generator without its leading term. -/
def generator : UInt16 := 0x1021

/-- The start value of the register. -/
def initial : UInt16 := 0xFFFF

/-- Shift the register left by one, taking the generator off when a one is
shifted out. -/
def shift (register : UInt16) : UInt16 :=
  if register &&& 0x8000 = 0 then register <<< 1 else (register <<< 1) ^^^ generator

/-- The register after eight shifts. -/
def shift8 (register : UInt16) : UInt16 :=
  shift (shift (shift (shift (shift (shift (shift (shift register)))))))

/-- What each byte, placed in the high half of an otherwise clear register,
leaves after eight shifts. -/
def table : Vector UInt16 256 :=
  Vector.ofFn fun i => shift8 (UInt16.ofNat i.val <<< 8)

/-- Take one byte into the register with a single table look-up. -/
def step (register : UInt16) (byte : UInt8) : UInt16 :=
  let top := (register >>> 8).toUInt8 ^^^ byte
  (register <<< 8) ^^^ table.get ⟨top.toNat, top.toNat_lt⟩

/-- Continue a running checksum over more bytes. -/
def update (register : UInt16) (data : Bytes) : UInt16 :=
  data.foldl step register

/-- The checksum of a byte string. -/
def checksum (data : Bytes) : UInt16 :=
  update initial data

/-! ## Bit by bit -/

/-- The eight bits of a byte, most significant first. -/
def bits (byte : UInt8) : List Bool :=
  [7, 6, 5, 4, 3, 2, 1, 0].map fun i : Nat => byte.toNat.testBit i

/-- Take one data bit into the register: shift left, and take the generator
off when the bit shifted out differs from the data bit. -/
def bitStep (register : UInt16) (bit : Bool) : UInt16 :=
  if (register &&& 0x8000 != 0) = bit then register <<< 1
  else (register <<< 1) ^^^ generator

/-- The register after the bits of a byte string, one at a time. -/
def serial (register : UInt16) (data : Bytes) : UInt16 :=
  (data.flatMap bits).foldl bitStep register

@[simp] theorem update_nil (register : UInt16) : update register [] = register := rfl

@[simp] theorem update_cons (register : UInt16) (byte : UInt8) (data : Bytes) :
    update register (byte :: data) = update (step register byte) data := rfl

/-- A checksum may be taken in parts. -/
theorem update_append (register : UInt16) (front back : Bytes) :
    update register (front ++ back) = update (update register front) back :=
  List.foldl_append

end ServoLink.Crc
