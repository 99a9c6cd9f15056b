import ServoLink.Text.Utf8

/-!
# Fixed text fields

Names travel in fields of a fixed number of bytes. A text is cut to leave
room for a closing zero byte and filled up with zeros; it is read back up to
the first zero.
-/

namespace ServoLink.Field

/-- The bytes that a field of `n` bytes keeps of a text: all but the last
place may be used. -/
def kept (n : Nat) (text : String) : Bytes :=
  (Utf8.encode text).take (n - 1)

theorem length_kept_le (n : Nat) (text : String) : (kept n text).length ≤ n :=
  Nat.le_trans (List.length_take_le _ _) (Nat.sub_le _ _)

/-- A text as a field of `n` bytes. -/
def ofText (n : Nat) (text : String) : Vector UInt8 n :=
  ⟨(kept n text ++ List.replicate (n - (kept n text).length) 0).toArray, by
    have := length_kept_le n text
    simp only [List.size_toArray, List.length_append, List.length_replicate]
    omega⟩

/-- The text in a field. -/
def toText (field : Bytes) : String :=
  Utf8.decodeLossy (field.takeWhile (· != 0))

end ServoLink.Field
