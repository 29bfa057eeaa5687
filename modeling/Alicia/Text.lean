import Mathlib.Logic.Basic

/-!
# Texts

A `std::string` is a sequence of bytes which need not be the encoding of any characters.  Text that
arrives in a client's payload is stored as it came, so its validity is a property of a value and
not of the type.
-/

/-- A byte string. -/
abbrev Text := List UInt8

namespace Text

/-- The bytes of the text as an array. -/
def toByteArray (text : Text) : ByteArray := ⟨text.toArray⟩

/-- The text is a UTF-8 encoding of some characters. -/
def IsValid (text : Text) : Prop := text.toByteArray.IsValidUTF8

instance (text : Text) : Decidable text.IsValid :=
  inferInstanceAs (Decidable text.toByteArray.IsValidUTF8)

end Text
