import ServoLink.Decimal.Shortest
import ServoLink.Message.Basic

/-!
# Showing numbers of single precision

A number of single precision is shown as the shortest decimal that reads back
in double precision. Numbers from `1e-5` up to `1e16` are written out with a
decimal point; the others have one digit before the point and a signed
exponent. Infinities and non-numbers have no text.
-/

namespace ServoLink.Decimal

/-- A row of zeros. -/
def zeros (n : Nat) : String :=
  String.ofList (List.replicate n '0')

/-- Digits with a point after the first `n` of them. -/
def pointAfter (n : Nat) (digits : List Char) : String :=
  String.ofList (digits.take n) ++ "." ++ String.ofList (digits.drop n)

/-- The text of a positive decimal without zeros at its end. -/
def render (d : Decimal) : String :=
  let digits := Nat.toDigits 10 d.digits
  let before : Int := digits.length + d.exponent
  if 0 ≤ d.exponent ∧ before ≤ 16 then
    String.ofList digits ++ zeros d.exponent.toNat ++ ".0"
  else if 0 < before ∧ before ≤ 16 then pointAfter before.toNat digits
  else if -5 < before ∧ before ≤ 0 then
    "0." ++ zeros (-before).toNat ++ String.ofList digits
  else
    let mantissa := if digits.length = 1 then String.ofList digits else pointAfter 1 digits
    let exponent := before - 1
    mantissa ++ (if exponent < 0 then "e-" else "e+") ++ toString exponent.natAbs

/-- The text of a number of single precision, if it is finite. -/
def ofSingle? (x : Single) : Option String :=
  let bits : Nat := x.bits.toNat
  let sign := if bits / 0x80000000 = 1 then "-" else ""
  let biased : Nat := bits / 0x800000 % 256
  let fraction : Nat := bits % 0x800000
  if biased = 255 then none
  else if biased = 0 ∧ fraction = 0 then some (sign ++ "0.0")
  else
    let b : Binary :=
      if biased = 0 then { mantissa := fraction, exponent := -149 }
      else { mantissa := 0x800000 + fraction, exponent := (biased : Int) - 150 }
    some (sign ++ (b.shortest.strip 20).render)

end ServoLink.Decimal
