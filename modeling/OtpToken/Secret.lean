import OtpToken.Bytes
import OtpToken.Fault

/-!
# Base32 secrets

Secrets come as base32 text, typed by hand or copied from elsewhere. Case, blanks
and padding do not matter, and symbols at the end that complete no byte are dropped.
The value of what is left, read as a number in base 32, holds the bytes of the
secret and at most four bits more.
-/

namespace OtpToken.Secret

/-- The greatest number of bytes of a secret. -/
def maxLength : Nat := 64

/-- ASCII blanks: space, tab, line feed, form feed and carriage return. -/
def isBlank (byte : UInt8) : Bool :=
  byte == 0x20 || byte == 0x09 || byte == 0x0a || byte == 0x0c || byte == 0x0d

/-- The capital form of an ASCII letter; every other byte as it is. -/
def capital (byte : UInt8) : UInt8 :=
  if 0x61 ≤ byte ∧ byte ≤ 0x7a then byte - 0x20 else byte

/-- The symbols of a text: its bytes less blanks and padding signs, letters made capital. -/
def symbols (text : String) : Bytes :=
  ((Bytes.ofText text).filter fun byte => !isBlank byte && byte != 0x3d).map capital

/-- The value of a base32 symbol. -/
def symbolValue? (byte : UInt8) : Option Nat :=
  if 0x41 ≤ byte ∧ byte ≤ 0x5a then some (byte.toNat - 0x41)
  else if 0x32 ≤ byte ∧ byte ≤ 0x37 then some (byte.toNat - 0x32 + 26)
  else none

/-- Drops the last symbol where it is the first of a byte that no further symbol completes. -/
def dropSurplus (symbols : Bytes) : Bytes :=
  if symbols.length % 8 ∈ [1, 3, 6] then symbols.dropLast else symbols

/-- The number that base32 values denote, most significant first. -/
def ofValues (values : List Nat) : Nat :=
  values.foldl (fun number value => 32 * number + value) 0

/-- The whole bytes that base32 values hold, most significant bit first. -/
def regroup (values : List Nat) : Bytes :=
  bigEndian (5 * values.length / 8) (ofValues values >>> (5 * values.length % 8))

/-- The secret that a base32 text stands for. -/
def decode (text : String) : Except Fault Bytes :=
  match (dropSurplus (symbols text)).mapM symbolValue? with
  | none => .error .malformedSecret
  | some values =>
    let key := regroup values
    if 1 ≤ key.length ∧ key.length ≤ maxLength then .ok key else .error .malformedSecret

end OtpToken.Secret
