/-
# Byte texts

Programs see their arguments, the names of files and their scripts as bytes, whatever these may
stand for.  A byte text is a text of characters below 256, each of which stands for one byte.  So a
program can look for the characters it knows as in any text, and what it does not know goes through
unchanged (`toBytes_ofBytes`).
-/
import CommandShell.Text.Bytes

namespace CommandShell

/-- A text whose characters stand for bytes. -/
abbrev ByteText := String

namespace ByteText

def charOf (b : UInt8) : Char := Char.ofNat b.toNat

def byteOf (c : Char) : UInt8 := UInt8.ofNat c.toNat

def ofBytes (b : Bytes) : ByteText := String.ofList (b.map charOf)

def toBytes (t : ByteText) : Bytes := t.toList.map byteOf

def ofText (s : String) : ByteText := ofBytes (Text.encode s)

/-- The text that a byte text holds, if its bytes are one. -/
def toText? (t : ByteText) : Option String := Text.decode? (toBytes t)

theorem byteOf_charOf (b : UInt8) : byteOf (charOf b) = b := by
  have h : b.toNat < 256 := b.toNat_lt
  have valid : b.toNat.isValidChar := Or.inl (by omega)
  have e : (Char.ofNat b.toNat).toNat = b.toNat := by
    rw [Char.ofNat, dif_pos valid]
    rfl
  simp [byteOf, charOf, e]

/-- A byte text gives back the bytes it was made of. -/
theorem toBytes_ofBytes (b : Bytes) : toBytes (ofBytes b) = b := by
  have h : (byteOf ∘ charOf) = id := funext byteOf_charOf
  simp [toBytes, ofBytes, h]

/-- A text is read back from its byte text. -/
theorem toText?_ofText (s : String) : toText? (ofText s) = some s := by
  rw [toText?, ofText, toBytes_ofBytes, Text.decode?_encode]

end ByteText
end CommandShell
