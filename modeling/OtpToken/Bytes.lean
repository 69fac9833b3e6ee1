/-!
# Byte strings

Keys, messages, records and files are lists of bytes. A number is written in a
fixed number of bytes, most or least significant byte first, and text is kept in
its UTF-8 form. A `Block` carries its length in its type.
-/

namespace OtpToken

/-- A byte string. -/
abbrev Bytes := List UInt8

/-- A byte string of exactly `size` bytes. -/
abbrev Block (size : Nat) := { bytes : Bytes // bytes.length = size }

/-- The block of zero bytes. -/
def Block.zero (size : Nat) : Block size :=
  ⟨List.replicate size 0, List.length_replicate⟩

/-- The first `size` bytes, followed by zero bytes if there are fewer. -/
def Block.padded (size : Nat) (bytes : Bytes) : Block size :=
  ⟨bytes.take size ++ List.replicate (size - bytes.length) 0, by simp; omega⟩

/-- The `size` bytes that start at `offset` of a byte string that is long enough. -/
def Block.slice (size offset : Nat) (bytes : Bytes) (fits : offset + size ≤ bytes.length) :
    Block size :=
  ⟨(bytes.drop offset).take size, by simp; omega⟩

/-- The lowest `width` bytes of a number, most significant byte first. -/
def bigEndian : (width value : Nat) → Bytes
  | 0, _ => []
  | width + 1, value => bigEndian width (value / 256) ++ [UInt8.ofNat value]

/-- The lowest `width` bytes of a number, least significant byte first. -/
def littleEndian : (width value : Nat) → Bytes
  | 0, _ => []
  | width + 1, value => UInt8.ofNat value :: littleEndian width (value / 256)

/-- The number whose bytes are given most significant byte first. -/
def ofBigEndian (bytes : Bytes) : Nat :=
  bytes.foldl (fun value byte => 256 * value + byte.toNat) 0

/-- The number whose bytes are given least significant byte first. -/
def ofLittleEndian : Bytes → Nat
  | [] => 0
  | byte :: rest => byte.toNat + 256 * ofLittleEndian rest

/-- A number is written with as many bytes as are asked for. -/
@[simp] theorem length_bigEndian (width value : Nat) : (bigEndian width value).length = width := by
  induction width generalizing value with
  | zero => rfl
  | succ width ih => simp [bigEndian, ih]

/-- A number is written with as many bytes as are asked for. -/
@[simp] theorem length_littleEndian (width value : Nat) :
    (littleEndian width value).length = width := by
  induction width generalizing value with
  | zero => rfl
  | succ width ih => simp [littleEndian, ih]

/-- Reading the bytes of a number back gives its lowest `width` bytes. -/
theorem ofLittleEndian_littleEndian (width value : Nat) :
    ofLittleEndian (littleEndian width value) = value % Nat.pow 256 width := by
  induction width generalizing value with
  | zero => simp [littleEndian, ofLittleEndian, Nat.mod_one]
  | succ width ih =>
    have hlow : (UInt8.ofNat value).toNat = value % 256 := UInt8.toNat_ofNat'
    have hpow : Nat.pow 256 (width + 1) = 256 * Nat.pow 256 width := Nat.mul_comm _ _
    rw [littleEndian, ofLittleEndian, ih, hlow, hpow, Nat.mod_mul]

/-- Writing the number of a byte string back gives that byte string. -/
theorem littleEndian_ofLittleEndian (bytes : Bytes) :
    littleEndian bytes.length (ofLittleEndian bytes) = bytes := by
  induction bytes with
  | nil => rfl
  | cons byte rest ih =>
    have hbyte := byte.toNat_lt
    have hlow : UInt8.ofNat (byte.toNat + 256 * ofLittleEndian rest) = byte := by
      apply UInt8.toNat_inj.mp
      rw [UInt8.toNat_ofNat']
      omega
    have hhigh : (byte.toNat + 256 * ofLittleEndian rest) / 256 = ofLittleEndian rest := by omega
    simp [littleEndian, ofLittleEndian, hlow, hhigh, ih]

/-- Bytes read as a number fit the space they take. -/
theorem ofLittleEndian_lt (bytes : Bytes) : ofLittleEndian bytes < Nat.pow 256 bytes.length := by
  induction bytes with
  | nil => simp [ofLittleEndian]
  | cons byte rest ih =>
    have hbyte := byte.toNat_lt
    have hpow : Nat.pow 256 (rest.length + 1) = Nat.pow 256 rest.length * 256 := rfl
    simp only [ofLittleEndian, List.length_cons, hpow]
    omega

namespace Bytes

/-- The UTF-8 form of a text. -/
def ofText (text : String) : Bytes := text.toUTF8.data.toList

/-- The text that a byte string is the UTF-8 form of, if it is one. -/
def toText? (bytes : Bytes) : Option String := String.fromUTF8? ⟨bytes.toArray⟩

end Bytes

end OtpToken
