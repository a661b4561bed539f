/-!
# Text — UTF-8

Matching, hashing and storage see a text as the bytes of its UTF-8 form.
Main statement: reading the bytes of a text gives the text back.
-/

namespace Blocklist

namespace Text

/-- The bytes of a text. -/
def utf8 (s : String) : List UInt8 := s.toList.flatMap String.utf8EncodeChar

/-- The text with these bytes, where they are well-formed UTF-8. -/
def ofUtf8? (bytes : List UInt8) : Option String := String.fromUTF8? bytes.toByteArray

/-- How many bytes the characters take. -/
def byteLength (text : List Char) : Nat := (text.map Char.utf8Size).foldl (· + ·) 0

theorem toByteArray_utf8 (s : String) : (utf8 s).toByteArray = s.toByteArray := by
  have h : (String.ofList s.toList).toByteArray = s.toList.utf8Encode := String.toByteArray_ofList
  rw [String.ofList_toList] at h
  exact h.symm

/-- **The bytes determine the text.** -/
@[simp] theorem ofUtf8?_utf8 (s : String) : ofUtf8? (utf8 s) = some s := by
  unfold ofUtf8?
  rw [toByteArray_utf8]
  simp [String.fromUTF8?, String.fromUTF8, s.isValidUTF8]

/-- Bytes are read as the text that has them. -/
theorem ofUtf8?_eq_some_iff {bytes : List UInt8} {s : String} :
    ofUtf8? bytes = some s ↔ utf8 s = bytes := by
  constructor
  · intro h
    unfold ofUtf8? String.fromUTF8? at h
    split at h
    case isTrue hvalid =>
      obtain rfl := Option.some.inj h
      exact List.toByteArray_inj.mp (toByteArray_utf8 (String.fromUTF8 bytes.toByteArray hvalid))
    case isFalse => cases h
  · rintro rfl
    exact ofUtf8?_utf8 s

@[simp] theorem utf8_append (s t : String) : utf8 (s ++ t) = utf8 s ++ utf8 t := by
  simp [utf8]

end Text

end Blocklist
