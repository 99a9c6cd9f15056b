import ServoLink.Bytes

/-!
# Hexadecimal digits

Bytes are shown as pairs of lower-case digits; single numbers in messages are
shown with a fixed number of digits, in either case.
-/

namespace ServoLink.Hex

/-- The lower-case digit of a number below sixteen. -/
def digit (n : Nat) : Char :=
  if n < 10 then Char.ofNat (48 + n) else Char.ofNat (87 + n)

/-- The upper-case digit of a number below sixteen. -/
def upperDigit (n : Nat) : Char :=
  if n < 10 then Char.ofNat (48 + n) else Char.ofNat (55 + n)

/-- The value of a digit of either case, given as the code of its character. -/
def value? (code : UInt8) : Option UInt8 :=
  if 48 ≤ code ∧ code ≤ 57 then some (code - 48)
  else if 97 ≤ code ∧ code ≤ 102 then some (code - 87)
  else if 65 ≤ code ∧ code ≤ 70 then some (code - 55)
  else none

/-- The two lower-case digits of a byte. -/
def ofByte (b : UInt8) : List Char :=
  [digit (b.toNat / 16), digit (b.toNat % 16)]

/-- A byte string as pairs of lower-case digits. -/
def ofBytes (data : Bytes) : String :=
  String.ofList (data.flatMap ofByte)

/-- The last `width` base-sixteen digits of a number, written with `digit`. -/
def padded (digit : Nat → Char) : (width : Nat) → Nat → List Char
  | 0, _ => []
  | width + 1, n => padded digit width (n / 16) ++ [digit (n % 16)]

/-- A byte as two upper-case digits. -/
def upper2 (b : UInt8) : String :=
  String.ofList (padded upperDigit 2 b.toNat)

/-- A 16-bit word as four upper-case digits. -/
def upper4 (w : UInt16) : String :=
  String.ofList (padded upperDigit 4 w.toNat)

/-- A byte as two lower-case digits. -/
def lower2 (b : UInt8) : String :=
  String.ofList (padded digit 2 b.toNat)

/-- A 16-bit word as four lower-case digits. -/
def lower4 (w : UInt16) : String :=
  String.ofList (padded digit 4 w.toNat)

end ServoLink.Hex
