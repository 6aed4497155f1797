/-!
Text as bytes.
-/

namespace EmbeddingIndex

abbrev Bytes := List UInt8

def utf8 (text : String) : Bytes := text.toByteArray.data.toList

def text? (bytes : Bytes) : Option String := String.fromUTF8? ⟨bytes.toArray⟩

theorem text?_utf8 (text : String) : text? (utf8 text) = some text := by
  simp [text?, utf8, String.fromUTF8?, text.isValidUTF8, String.fromUTF8]

end EmbeddingIndex
