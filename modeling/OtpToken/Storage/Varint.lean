import OtpToken.Bytes

/-!
# Numbers in base 128

A number below 2^64 is written least significant group first, seven bits to a byte,
and the top bit of a byte says that another one follows. A reader accepts longer
forms than necessary, but no more than ten bytes, of which the tenth may only hold
the last bit.
-/

namespace OtpToken

/-- Why a file cannot be read. -/
inductive FormatError
  | endOfBuffer
  | endlessNumber
  deriving DecidableEq, Repr

/-- The wording of a format error. -/
def FormatError.message : FormatError → String
  | endOfBuffer => "Hit the end of buffer, expected more data"
  | endlessNumber =>
    "Found a varint that didn't terminate. Is the usize too big for this platform?"

namespace Varint

/-- The greatest number of bytes of a written number. -/
def maxSize : Nat := 10

/-- Writes a number in as few bytes as possible. -/
def write (number : Nat) : Bytes :=
  if number < 128 then [UInt8.ofNat number]
  else UInt8.ofNat (number % 128 + 128) :: write (number / 128)
termination_by number

/-- Reads a number of at most `size` bytes, and hands out the bytes after it. -/
def readWithin : (size : Nat) → Bytes → Except FormatError (Nat × Bytes)
  | 0, _ => .error .endlessNumber
  | _ + 1, [] => .error .endOfBuffer
  | size + 1, byte :: rest =>
    if byte.toNat < 128 then
      if size = 0 ∧ 1 < byte.toNat then .error .endlessNumber else .ok (byte.toNat, rest)
    else
      match readWithin size rest with
      | .error error => .error error
      | .ok (high, rest) => .ok (byte.toNat % 128 + 128 * high, rest)

/-- Reads a number, and hands out the bytes after it. -/
def read (bytes : Bytes) : Except FormatError (Nat × Bytes) := readWithin maxSize bytes

end Varint

end OtpToken
