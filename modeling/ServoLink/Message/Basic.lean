import ServoLink.Link.Registry

/-!
# Messages

A message is a value with a layout of fixed size: its fields back to back,
numbers with their low byte first. Every layout gives the size, a writer and
a reader; a payload is read as a message only when it has exactly that size.
Here are the layouts of single numbers and of tables, which are several
messages of one type in a row.
-/

namespace ServoLink

/-- A reader takes a value from the front of a byte string, or refuses it. -/
abbrev Reader (α : Type) := StateT Bytes (Except PayloadError) α

/-- A type of messages with a fixed layout. -/
class Message (α : Type) where
  /-- The number of bytes of every message. -/
  size : Nat
  /-- Take a message from the front of a byte string of at least that size. -/
  read : Reader α
  /-- The bytes of a message. -/
  write : α → Bytes

namespace Message

/-- Read a whole payload as a message. A payload of another size is
refused. -/
def ofPayload {α : Type} [Message α] (payload : Bytes) : Except PayloadError α :=
  if payload.length ≠ size α then .error (.length (size α) payload.length)
  else (read.run payload).map (·.1)

end Message

/-- A handler for messages of one type: payloads of another size never reach
it. -/
def Handler.typed {σ α : Type} [Message α] (receive : α → σ → Verdict × σ) : Handler σ where
  expectedLength := some (Message.size α)
  receive f s :=
    match Message.ofPayload f.payload with
    | .ok message => receive message s
    | .error reason => (.rejected reason, s)

/-! ## Single numbers -/

/-- A floating-point number of single precision, as its 32 bits. -/
structure Single where
  /-- Sign, exponent and fraction. -/
  bits : UInt32 := 0
  deriving DecidableEq, Inhabited

namespace Reader

/-- Take one byte. -/
def byte : Reader UInt8
  | b :: rest => .ok (b, rest)
  | [] => .error (.length 1 0)

/-- Take a 16-bit word. -/
def word16 : Reader UInt16
  | b0 :: b1 :: rest => .ok (LittleEndian.word16 b0 b1, rest)
  | short => .error (.length 2 short.length)

/-- Take a 32-bit word. -/
def word32 : Reader UInt32
  | b0 :: b1 :: b2 :: b3 :: rest => .ok (LittleEndian.word32 b0 b1 b2 b3, rest)
  | short => .error (.length 4 short.length)

/-- Take `n` bytes. -/
def bytes (n : Nat) : Reader (Vector UInt8 n) := fun source =>
  if h : n ≤ source.length then
    .ok (⟨(source.take n).toArray, by simp [h]⟩, source.drop n)
  else .error (.length n source.length)

/-- Take `n` values, one after the other. -/
def many {α : Type} (item : Reader α) : Nat → Reader (List α)
  | 0 => pure []
  | n + 1 => do
    let first ← item
    let others ← many item n
    pure (first :: others)

end Reader

namespace Message

instance : Message UInt8 where
  size := 1
  read := Reader.byte
  write v := [v]

instance : Message Int8 where
  size := 1
  read := do return (← Reader.byte).toInt8
  write v := [v.toUInt8]

instance : Message UInt16 where
  size := 2
  read := Reader.word16
  write v := LittleEndian.bytes16 v

instance : Message Int16 where
  size := 2
  read := do return (← Reader.word16).toInt16
  write v := LittleEndian.bytes16 v.toUInt16

instance : Message UInt32 where
  size := 4
  read := Reader.word32
  write v := LittleEndian.bytes32 v

instance : Message Int32 where
  size := 4
  read := do return (← Reader.word32).toInt32
  write v := LittleEndian.bytes32 v.toUInt32

instance : Message Single where
  size := 4
  read := do return ⟨← Reader.word32⟩
  write v := LittleEndian.bytes32 v.bits

/-- A field of bytes is written as it is. -/
instance bytesField (n : Nat) : Message (Vector UInt8 n) where
  size := n
  read := Reader.bytes n
  write v := v.toList

/-- A table holds its messages back to back. -/
@[reducible] def table (α : Type) [Message α] (n : Nat) : Message (Vector α n) where
  size := size α * n
  read := do
    let items ← Reader.many read n
    if h : items.length = n then pure ⟨items.toArray, by simp [h]⟩
    else throw (.length n items.length)
  write v := v.toList.flatMap write

end Message

end ServoLink
