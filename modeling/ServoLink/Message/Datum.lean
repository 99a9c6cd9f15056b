import ServoLink.Message.Basic

/-!
# Messages by their fields

A message can be looked at without knowing its type: as a number, a name, a
row of bytes, a list, or a record of named fields. Records list their fields
in the order of the wire. A record may also be turned back into a message;
fields that it leaves out have their default.
-/

namespace ServoLink

/-- A message, or a part of one, as it is looked at. -/
inductive Datum where
  /-- A whole number. -/
  | int (n : Int)
  /-- A number of single precision. -/
  | single (x : Single)
  /-- A row of bytes. -/
  | bytes (data : Bytes)
  /-- A row of bytes that holds a text. -/
  | text (data : Bytes)
  /-- One of a few values that have names. -/
  | name (name : String)
  /-- A value that has no name, by its code. -/
  | code (code : UInt8)
  /-- Several of a kind. -/
  | list (items : List Datum)
  /-- Named fields. -/
  | record (fields : List (String × Datum))
  deriving Inhabited

namespace Datum

/-- A natural number. -/
def nat (n : Nat) : Datum :=
  .int n

/-- A field of a record, if it is there. -/
def field? (d : Datum) (name : String) : Option Datum :=
  match d with
  | .record fields => fields.lookup name
  | _ => none

/-- The number in a datum. -/
def toInt? : Datum → Option Int
  | .int n => some n
  | _ => none

/-- The natural number in a datum. -/
def toNat? : Datum → Option Nat
  | .int (.ofNat n) => some n
  | _ => none

/-- The number of single precision in a datum, which may be given by its
bits. -/
def toSingle? : Datum → Option Single
  | .single x => some x
  | .int (.ofNat n) => some ⟨UInt32.ofNat n⟩
  | _ => none

/-- The number that a datum consists of; one of single precision counts by its
bits. -/
def scalar? : Datum → Option Int
  | .int n => some n
  | .single x => some x.bits.toNat
  | _ => none

/-- The bytes in a datum. -/
def toBytes? : Datum → Option Bytes
  | .bytes data | .text data => some data
  | _ => none

/-- The items of a list. -/
def toList? : Datum → Option (List Datum)
  | .list items => some items
  | _ => none

/-- What `read` makes of a field; a field that is left out gives
`standard`. -/
def fieldOr {α : Type} (d : Datum) (name : String) (standard : α) (read : Datum → Option α) :
    Option α :=
  match d.field? name with
  | none => some standard
  | some value => read value

/-- A byte field. -/
def byteField (d : Datum) (name : String) : Option UInt8 :=
  d.fieldOr name 0 fun v => v.toNat?.map UInt8.ofNat

/-- A field with a 16-bit word. -/
def word16Field (d : Datum) (name : String) : Option UInt16 :=
  d.fieldOr name 0 fun v => v.toNat?.map UInt16.ofNat

/-- A field with a 32-bit word. -/
def word32Field (d : Datum) (name : String) : Option UInt32 :=
  d.fieldOr name 0 fun v => v.toNat?.map UInt32.ofNat

/-- A field with a signed byte. -/
def int8Field (d : Datum) (name : String) : Option Int8 :=
  d.fieldOr name 0 fun v => v.toInt?.map Int8.ofInt

/-- A field with a signed 16-bit number. -/
def int16Field (d : Datum) (name : String) : Option Int16 :=
  d.fieldOr name 0 fun v => v.toInt?.map Int16.ofInt

/-- A field with a signed 32-bit number. -/
def int32Field (d : Datum) (name : String) : Option Int32 :=
  d.fieldOr name 0 fun v => v.toInt?.map Int32.ofInt

/-- A field with a number of single precision. -/
def singleField (d : Datum) (name : String) : Option Single :=
  d.fieldOr name {} toSingle?

/-- A row of `n` bytes: the first ones given, and zeros. -/
def fillBytes (n : Nat) (data : Bytes) : Vector UInt8 n :=
  Vector.ofFn fun i => data.getD i.val 0

/-- A field of `n` bytes. -/
def bytesField (d : Datum) (name : String) (n : Nat) : Option (Vector UInt8 n) :=
  d.fieldOr name (fillBytes n []) fun v => v.toBytes?.map (fillBytes n)

end Datum

end ServoLink
