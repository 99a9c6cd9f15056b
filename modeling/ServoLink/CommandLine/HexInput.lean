import ServoLink.CommandLine.ExitCode
import ServoLink.Text.Blank
import ServoLink.Text.Quoted
import ServoLink.Text.Utf8

/-!
# Bytes given as hexadecimal digits

Bytes are given as pairs of digits of either case, with blanks anywhere among
them. What is wrong with other texts is said of the text without its blanks:
an odd number of bytes first, else the first byte that is no digit.
-/

namespace ServoLink

/-- What is wrong with a row of hexadecimal digits. -/
inductive HexError where
  /-- The number of digits is odd. -/
  | oddLength
  /-- A byte is not the code of a digit. -/
  | invalidDigit (byte : UInt8) (position : Nat)
  deriving DecidableEq

namespace HexError

/-- The text an error is shown with. A byte is shown as the character of its
number. -/
def message : HexError → String
  | .oddLength => "Odd number of digits"
  | .invalidDigit byte position =>
    let shown := Quoted.char (Char.ofNat byte.toNat)
    s!"Invalid character {shown} at position {position}"

end HexError

namespace HexInput

/-- The bytes given by pairs of digits, the first of which stands at
`position`. -/
def pairs (position : Nat) : Bytes → Except HexError Bytes
  | high :: low :: rest =>
    match Hex.value? high, Hex.value? low with
    | none, _ => .error (.invalidDigit high position)
    | _, none => .error (.invalidDigit low (position + 1))
    | some h, some l =>
      match pairs (position + 2) rest with
      | .ok bytes => .ok ((h * 16 + l) :: bytes)
      | .error e => .error e
  | _ => .ok []

/-- Read a row of digits. -/
def decode (digits : Bytes) : Except HexError Bytes :=
  if digits.length % 2 = 1 then .error .oddLength else pairs 0 digits

/-- The bytes of a text without its blanks. -/
def digits (text : String) : Bytes :=
  Utf8.encode (String.ofList (text.toList.filter fun c => !isBlank c))

/-- Read bytes from a text. -/
def parse (text : String) : Except CommandError Bytes :=
  match decode (digits text) with
  | .ok bytes => .ok bytes
  | .error e => .error { code := .dataInvalid, message := "invalid hex: " ++ e.message }

end HexInput

end ServoLink
