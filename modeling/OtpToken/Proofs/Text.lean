import OtpToken.Bytes

/-!
# Texts as bytes

A text is the bytes of its characters, one after the other. An ASCII character is one
byte, its code, and every byte of another character is above the ASCII codes.
-/

namespace OtpToken.Bytes

/-- The bytes of a sequence of characters. -/
def ofChars (chars : List Char) : Bytes := chars.flatMap String.utf8EncodeChar

/-- No characters have no bytes. -/
@[simp] theorem ofChars_nil : ofChars [] = [] := rfl

/-- The bytes of characters are those of the first and those of the others. -/
@[simp] theorem ofChars_cons (c : Char) (chars : List Char) :
    ofChars (c :: chars) = String.utf8EncodeChar c ++ ofChars chars := List.flatMap_cons

/-- The bytes of a text are those of its characters, given as a list. -/
theorem ofText_ofList (chars : List Char) : ofText (String.ofList chars) = ofChars chars := by
  simp [ofText, ofChars, List.utf8Encode]

/-- The bytes of a text are those of its characters. -/
theorem ofText_eq_ofChars (text : String) : ofText text = ofChars text.toList := by
  rw [← ofText_ofList, String.ofList_toList]

/-- The bytes of a text stand for that text. -/
theorem toText?_ofText (text : String) : toText? (ofText text) = some text := by
  have whole : (⟨(ofText text).toArray⟩ : ByteArray) = text.toByteArray := by
    simp [ofText]
  rw [toText?, whole, String.fromUTF8?, dif_pos text.isValidUTF8]
  rfl

/-- The bytes of characters stand for the text that they make up. -/
theorem toText?_ofChars (chars : List Char) :
    toText? (ofChars chars) = some (String.ofList chars) := by
  rw [← ofText_ofList, toText?_ofText]

/-- An ASCII character is one byte. -/
theorem utf8EncodeChar_of_ascii {c : Char} (ascii : c.toNat < 128) :
    String.utf8EncodeChar c = [UInt8.ofNat c.toNat] := by
  have small : c.val.toNat ≤ 0x7f := Nat.le_of_lt_succ ascii
  simp only [String.utf8EncodeChar, if_pos small]
  rfl

/-- The bytes of every other character are no ASCII codes. -/
theorem high_of_mem_utf8EncodeChar {c : Char} (beyond : 128 ≤ c.toNat) {byte : UInt8}
    (member : byte ∈ String.utf8EncodeChar c) : 128 ≤ byte.toNat := by
  have notSmall : ¬c.val.toNat ≤ 0x7f := Nat.not_le.mpr beyond
  simp only [String.utf8EncodeChar, if_neg notSmall] at member
  split at member
  · simp only [List.mem_cons, List.not_mem_nil, or_false] at member
    rcases member with rfl | rfl <;> rw [UInt8.toNat_ofNat'] <;> omega
  · split at member
    · simp only [List.mem_cons, List.not_mem_nil, or_false] at member
      rcases member with rfl | rfl | rfl <;> rw [UInt8.toNat_ofNat'] <;> omega
    · simp only [List.mem_cons, List.not_mem_nil, or_false] at member
      rcases member with rfl | rfl | rfl | rfl <;> rw [UInt8.toNat_ofNat'] <;> omega

/-- A text of ASCII characters is the list of their codes. -/
theorem ofChars_of_ascii {chars : List Char} (ascii : ∀ c ∈ chars, c.toNat < 128) :
    ofChars chars = chars.map fun c => UInt8.ofNat c.toNat := by
  induction chars with
  | nil => rfl
  | cons c rest ih =>
    rw [ofChars_cons, utf8EncodeChar_of_ascii (ascii c List.mem_cons_self), List.map_cons,
      ih fun other member => ascii other (List.mem_cons_of_mem _ member)]
    rfl

end OtpToken.Bytes
