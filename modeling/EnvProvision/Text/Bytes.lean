namespace EnvProvision

abbrev Bytes := List UInt8

namespace Bytes

def ofText (text : String) : Bytes :=
  text.toUTF8.data.toList

def text? (bytes : Bytes) : Option String :=
  String.fromUTF8? ⟨bytes.toArray⟩

@[simp]
theorem text?_ofText (text : String) : (ofText text).text? = some text := by
  have h : (⟨(ofText text).toArray⟩ : ByteArray) = text.toByteArray := rfl
  simp [text?, String.fromUTF8?, h, text.isValidUTF8, String.fromUTF8]

theorem ofText_inj {a b : String} (h : ofText a = ofText b) : a = b := by
  simpa using congrArg text? h

theorem ofText_append (a b : String) : ofText (a ++ b) = ofText a ++ ofText b := by
  simp [ofText]

end Bytes

end EnvProvision
