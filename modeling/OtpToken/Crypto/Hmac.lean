import OtpToken.Crypto.Sha256

/-!
# HMAC over SHA-256

A key is brought to one block, by hashing it first if it is longer, and the
message is hashed twice, under the key masked in two ways.
-/

namespace OtpToken.Hmac

open Sha256 (blockSize digestSize digest)

/-- The key as one block of the hash function. -/
def blockKey (key : Bytes) : Block blockSize :=
  Block.padded blockSize (if key.length ≤ blockSize then key else (digest key).val)

/-- The block key with every byte masked. -/
def maskedKey (mask : UInt8) (key : Bytes) : Bytes :=
  (blockKey key).val.map (· ^^^ mask)

/-- HMAC-SHA256 of `message` under `key`. -/
def mac (key message : Bytes) : Block digestSize :=
  digest (maskedKey 0x5c key ++ (digest (maskedKey 0x36 key ++ message)).val)

end OtpToken.Hmac
