import ServoLink.Bytes

/-!
# Text from bytes

Bytes are read as UTF-8. Where they are not well formed, strict reading fails
and lenient reading puts one replacement character for every longest
beginning of a character that cannot be completed.
-/

namespace ServoLink.Utf8

/-- Whether a byte may continue a character. -/
def isContinuation (b : UInt8) : Bool :=
  0x80 ≤ b && b ≤ 0xBF

/-- Whether `b` may follow the lead byte `lead` directly: surrogates,
overlong forms and numbers above the last character are excluded here. -/
def isSecond (lead b : UInt8) : Bool :=
  if lead = 0xE0 then 0xA0 ≤ b && b ≤ 0xBF
  else if lead = 0xED then 0x80 ≤ b && b ≤ 0x9F
  else if lead = 0xF0 then 0x90 ≤ b && b ≤ 0xBF
  else if lead = 0xF4 then 0x80 ≤ b && b ≤ 0x8F
  else isContinuation b

/-- The number of bytes of the character a lead byte begins, or zero if it
begins none. -/
def width (lead : UInt8) : Nat :=
  if lead < 0x80 then 1
  else if 0xC2 ≤ lead && lead ≤ 0xDF then 2
  else if 0xE0 ≤ lead && lead ≤ 0xEF then 3
  else if 0xF0 ≤ lead && lead ≤ 0xF4 then 4
  else 0

/-- The number of further bytes, at most `n`, that continue a character. -/
def continued : Nat → Bytes → Nat
  | n + 1, b :: rest => if isContinuation b then continued n rest + 1 else 0
  | _, _ => 0

/-- The number of bytes after the lead byte that belong to its character,
whether or not it is completed. -/
def tailLength (lead : UInt8) (rest : Bytes) : Nat :=
  match width lead, rest with
  | n + 2, b :: more => if isSecond lead b then continued n more + 1 else 0
  | _, _ => 0

/-- The low six bits of each continuation byte, appended to a number. -/
def accumulate (start : Nat) (tail : Bytes) : Nat :=
  tail.foldl (fun n b => n * 64 + b.toNat % 64) start

/-- The bits of a lead byte that belong to the character's number. -/
def leadBits (lead : UInt8) : Nat :=
  match width lead with
  | 2 => lead.toNat % 32
  | 3 => lead.toNat % 16
  | 4 => lead.toNat % 8
  | _ => lead.toNat

/-- The characters of a byte string; `none` stands for a longest beginning of
a character that cannot be completed. -/
def scan : Bytes → List (Option Char)
  | [] => []
  | lead :: rest =>
    let n := tailLength lead rest
    let char :=
      if width lead = n + 1 then
        some (Char.ofNat (accumulate (leadBits lead) (rest.take n)))
      else none
    char :: scan (rest.drop n)
termination_by data => data.length
decreasing_by simp only [List.length_drop, List.length_cons]; omega

/-- Strict reading. -/
def decode? (data : Bytes) : Option String :=
  ((scan data).mapM id).map String.ofList

/-- Lenient reading. -/
def decodeLossy (data : Bytes) : String :=
  String.ofList ((scan data).map (·.getD '\uFFFD'))

/-- The bytes of a text, character by character. -/
def encode (text : String) : Bytes :=
  text.toList.flatMap String.utf8EncodeChar

end ServoLink.Utf8
