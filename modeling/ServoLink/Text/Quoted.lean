/-!
# Quoted characters

A single character in a message is put between single quotes. A character
that would not be seen is shown by an escape: the usual ones by a letter, the
rest by their number. The characters are those of the first 256 numbers.
-/

namespace ServoLink.Quoted

/-- The digits of a number to base sixteen, without leading zeros. -/
def hexDigits (n : Nat) : String :=
  String.ofList (Nat.toDigits 16 n)

/-- Whether a character of the first 256 has a visible form. -/
def isVisible (c : Char) : Bool :=
  let n := c.toNat
  (32 ≤ n && n < 127) || (0xA1 ≤ n && n != 0xAD)

/-- A character as it is shown between quotes. -/
def body (c : Char) : String :=
  if c = '\x00' then "\\0"
  else if c = '\t' then "\\t"
  else if c = '\r' then "\\r"
  else if c = '\n' then "\\n"
  else if c = '\'' then "\\'"
  else if c = '\\' then "\\\\"
  else if isVisible c then c.toString
  else "\\u\x7b" ++ hexDigits c.toNat ++ "\x7d"

/-- A character between quotes. -/
def char (c : Char) : String :=
  "'" ++ body c ++ "'"

end ServoLink.Quoted
