/-
# Texts as bytes

Files, pipes and terminals hold bytes; a text is stored in UTF-8.  `decode?` gives a text back
exactly from the bytes that `encode` makes (`decode?_encode`), and `encode` turns concatenation of
texts into concatenation of bytes (`encode_append`).
-/
namespace CommandShell

abbrev Bytes := List UInt8

namespace Text

/-- The bytes that store a text. -/
def encode (s : String) : Bytes := s.toByteArray.data.toList

/-- The text that some bytes store, if they store one. -/
def decode? (b : Bytes) : Option String := String.fromUTF8? ⟨b.toArray⟩

/-- What has been stored is read back. -/
theorem decode?_encode (s : String) : decode? (encode s) = some s := by
  have h : (⟨(encode s).toArray⟩ : ByteArray) = s.toByteArray := rfl
  rw [decode?, h, String.fromUTF8?, dif_pos s.isValidUTF8]
  rfl

/-- Only the text that was stored is read back. -/
theorem encode_of_decode? {b : Bytes} {s : String} (h : decode? b = some s) : encode s = b := by
  simp only [decode?, String.fromUTF8?] at h
  split at h
  · cases h; rfl
  · cases h

@[simp] theorem encode_append (s t : String) : encode (s ++ t) = encode s ++ encode t := by
  simp [encode, String.toByteArray_append]

@[simp] theorem encode_empty : encode "" = [] := rfl

/-- The characters after those that take up so many bytes. -/
def dropBytes : Nat → List Char → List Char
  | 0, cs => cs
  | _, [] => []
  | n, c :: cs => dropBytes (n - c.utf8Size) cs

/-- The characters after the first ones, if these take up exactly so many bytes. -/
def dropBytes? : Nat → List Char → Option (List Char)
  | 0, cs => some cs
  | _, [] => none
  | n, c :: cs => if n < c.utf8Size then none else dropBytes? (n - c.utf8Size) cs

end Text
end CommandShell
