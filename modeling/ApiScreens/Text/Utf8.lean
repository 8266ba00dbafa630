import ApiScreens.Text.Digit

/-!
# Bytes of texts

The bytes of a text in UTF-8, and bytes that are written with a percent sign and two digits.
-/

namespace ApiScreens.Text

/-- The bytes of a text in UTF-8. -/
def utf8 (s : List Char) : List UInt8 := s.flatMap String.utf8EncodeChar

/-- The text whose bytes these are, if they are UTF-8. -/
def ofUtf8? (bytes : List UInt8) : Option (List Char) :=
  (String.fromUTF8? bytes.toByteArray).map String.toList

/-- The byte that two hexadecimal digits write. -/
def byteOfDigits? (high low : Char) : Option UInt8 := do
  some (UInt8.ofNat (16 * (← digit? 16 high) + (← digit? 16 low)))

end ApiScreens.Text
