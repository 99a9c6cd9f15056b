/-!
# Decimal numerals

A numeral is a row of ASCII digits, with leading zeros allowed, and an
optional sign in front. Reading gives no number where the text has any other
form or the number is out of range.
-/

namespace ServoLink.Numeral

/-- The value of a row of digits, continued from `start`. -/
def digitsFrom (start : Nat) (digits : List Char) : Nat :=
  digits.foldl (fun n c => n * 10 + (c.toNat - 48)) start

/-- The value of a row of at least one digit. -/
def digits? (text : List Char) : Option Nat :=
  if text.isEmpty || !text.all Char.isDigit then none else some (digitsFrom 0 text)

/-- A numeral with an optional plus sign, below `2 ^ 64`. -/
def unsigned? (text : List Char) : Option Nat :=
  let digits :=
    match text with
    | '+' :: rest => rest
    | _ => text
  match digits? digits with
  | some n => if n < 0x10000000000000000 then some n else none
  | none => none

/-- A numeral with an optional sign, whose value is a byte. A minus sign is
allowed before zero. -/
def byte? (text : List Char) : Option UInt8 :=
  match text with
  | '-' :: rest =>
    match digits? rest with
    | some 0 => some 0
    | _ => none
  | _ =>
    match unsigned? text with
    | some n => if n < 256 then some (UInt8.ofNat n) else none
    | none => none

end ServoLink.Numeral
