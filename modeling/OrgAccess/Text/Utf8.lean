/-! Texts as bytes: the UTF-8 encoding of a text, and the text that a list of bytes encodes,
if it encodes any. -/

namespace OrgAccess.Text

/-- The bytes of a text. -/
def toUtf8 (s : String) : List UInt8 := s.toByteArray.data.toList

/-- The text that the bytes encode. -/
def ofUtf8? (bs : List UInt8) : Option String := String.fromUTF8? ⟨bs.toArray⟩

theorem ofUtf8?_toUtf8 (s : String) : ofUtf8? (toUtf8 s) = some s := by
  unfold ofUtf8? toUtf8
  simp [String.fromUTF8?, s.isValidUTF8, String.fromUTF8]

end OrgAccess.Text
