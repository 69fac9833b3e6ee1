import OtpToken.Bytes
import OtpToken.Crypto.Hmac
import OtpToken.Fault

/-!
# One-time codes

A code is cut from an HMAC digest: four bytes at a place that the digest itself
names, read as a number without its top bit, reduced to the wanted number of
decimal digits. It is shown with leading zeros.
-/

namespace OtpToken

/-- The digest that codes are cut from. -/
abbrev Digest := Block Sha256.digestSize

/-- How many numbers have at most the given number of decimal digits. -/
def decimalCount (digits : Nat) : Nat := Nat.pow 10 digits

/-- However many digits there are, some numbers have so many. -/
theorem decimalCount_pos (digits : Nat) : 0 < decimalCount digits :=
  Nat.pow_pos (by decide)

/-- A one-time code: a number that has at most the given number of decimal digits. -/
structure Code where
  value : Nat
  digits : Nat
  value_lt : value < decimalCount digits
  deriving DecidableEq, Repr

/-- The lowest `count` decimal digits of a number, leading zeros included. -/
def decimalDigits : (count value : Nat) → List Char
  | 0, _ => []
  | count + 1, value => decimalDigits count (value / 10) ++ [Nat.digitChar (value % 10)]

/-- A number is written with as many digits as are asked for. -/
@[simp] theorem length_decimalDigits (count value : Nat) :
    (decimalDigits count value).length = count := by
  induction count generalizing value with
  | zero => rfl
  | succ count ih => simp [decimalDigits, ih]

namespace Code

/-- The greatest number of digits whose modulus fits 32 bits. -/
def maxDigits : Nat := 9

/-- A code as it is shown: exactly its number of digits. -/
def text (code : Code) : String := String.ofList (decimalDigits code.digits code.value)

/-- What is hashed for a counter value: its eight bytes, most significant first. -/
def movingFactor (counter : UInt64) : Bytes := bigEndian 8 counter.toNat

/-- Where in a digest the four bytes of the code start: the lowest four bits of its last byte. -/
def offset (digest : Digest) : Nat := (digest.val.getLastD 0).toNat % 16

/-- The 31-bit number that a digest holds at its offset. -/
def truncated (digest : Digest) : Nat :=
  ofBigEndian ((digest.val.drop (offset digest)).take 4) % 0x80000000

/-- Codes have one to nine digits. -/
def checkDigits (digits : Nat) : Except Fault Unit :=
  if 1 ≤ digits ∧ digits ≤ maxDigits then .ok () else .error (.unsupportedDigits digits)

/-- Cuts the code of the given number of digits from a digest. -/
def truncate (digest : Digest) (digits : Nat) : Except Fault Code := do
  checkDigits digits
  return ⟨truncated digest % decimalCount digits, digits, Nat.mod_lt _ (decimalCount_pos digits)⟩

end Code

end OtpToken
