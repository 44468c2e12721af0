/-!
Octet sequences and the text they carry. `utf8` and `text?` are inverse to each other
(`text?_utf8`), which is all that reading back written text needs.
-/

namespace AggregateGateway

abbrev Bytes := List UInt8

namespace Text

/-- The octets of a text in UTF-8. -/
def utf8 (s : String) : Bytes :=
  s.toByteArray.data.toList

/-- The text that the octets spell, if they are UTF-8. -/
def text? (b : Bytes) : Option String :=
  String.fromUTF8? ⟨b.toArray⟩

theorem text?_utf8 (s : String) : text? (utf8 s) = some s := by
  have h : (⟨(utf8 s).toArray⟩ : ByteArray) = s.toByteArray := by
    simp [utf8]
  simp only [text?, h, String.fromUTF8?, s.isValidUTF8, dite_true]
  rfl

theorem utf8_of_text? {b : Bytes} {s : String} (h : text? b = some s) : utf8 s = b := by
  simp only [text?, String.fromUTF8?] at h
  split at h
  · injection h with h
    subst h
    simp [utf8, String.fromUTF8]
  · simp at h

/-- The octet of an ASCII character. -/
def octet (c : Char) : UInt8 :=
  c.toNat.toUInt8

/-- Blanks that separate the parts of a document: space, tab, line feed, carriage return. -/
def isBlankOctet (b : UInt8) : Bool :=
  b == 0x20 || b == 0x09 || b == 0x0A || b == 0x0D

def isDigitOctet (b : UInt8) : Bool :=
  0x30 ≤ b && b ≤ 0x39

def digitValue (b : UInt8) : Nat :=
  b.toNat - 0x30

/-- The value of a hexadecimal digit in either case. -/
def hexValue? (b : UInt8) : Option Nat :=
  if isDigitOctet b then some (digitValue b)
  else if 0x61 ≤ b && b ≤ 0x66 then some (b.toNat - 0x57)
  else if 0x41 ≤ b && b ≤ 0x46 then some (b.toNat - 0x37)
  else none

end Text

end AggregateGateway
