/-!
# Texts as bytes

Files and replies are lists of bytes, everything else works on texts. The two directions below are
the only crossing between them, and decoding undoes encoding.
-/

namespace LeagueStandings.Utf8

/-- The UTF-8 bytes of a text. -/
def encode (text : String) : List UInt8 := text.toUTF8.data.toList

/-- The text that a list of bytes spells, unless the bytes are not UTF-8. -/
def decode? (bytes : List UInt8) : Option String := String.fromUTF8? ⟨bytes.toArray⟩

@[simp] theorem decode?_encode (text : String) : decode? (encode text) = some text := by
  have h : (⟨(encode text).toArray⟩ : ByteArray) = text.toByteArray := rfl
  simp only [decode?, h, String.fromUTF8?, text.isValidUTF8, dif_pos]
  rfl

theorem encode_injective {s t : String} (h : encode s = encode t) : s = t := by
  have := congrArg decode? h
  simpa using this

end LeagueStandings.Utf8
