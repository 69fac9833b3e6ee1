import OtpToken.Crypto.ChaCha20
import OtpToken.Fault
import OtpToken.Secret

/-!
# Secrets at rest

Secrets are only ever stored sealed. What seals a secret hands back an
initialization vector and a ciphertext, and both are given back unchanged to open
it. The standard vault is ChaCha20 under a device key: the vector names the block
of the keystream to start from and the nonce.
-/

namespace OtpToken

/-- The number of bytes of an initialization vector. -/
def ivSize : Nat := 16

/-- A sealed secret. -/
structure Sealed where
  iv : Block ivSize
  ciphertext : Bytes
  deriving DecidableEq, Repr

/-- What can seal secrets, and open them again; sealing may use up what it draws on. -/
class Vault (σ : Type) where
  sealSecret : σ → Bytes → Except Fault (Sealed × σ)
  openSecret : σ → Block ivSize → Bytes → Except Fault Bytes

/-- The secret key of a device. -/
abbrev DeviceKey := Block ChaCha20.keySize

/-- The part of an initialization vector that is drawn anew for every secret. -/
abbrev Nonce := Block ChaCha20.nonceSize

/-- The vector that starts at the first block of the keystream of a nonce. -/
def Nonce.iv (nonce : Nonce) : Block ivSize :=
  ⟨(Block.zero 4).val ++ nonce.val, by
    rw [List.length_append, (Block.zero 4).property, nonce.property]; rfl⟩

namespace DeviceKey

/-- The block of the keystream that a vector starts from. -/
def startBlock (iv : Block ivSize) : Nat := ofLittleEndian (iv.val.take 4)

/-- The nonce that a vector names. -/
def nonceOf (iv : Block ivSize) : Nonce :=
  Block.slice ChaCha20.nonceSize 4 iv.val (by rw [iv.property]; decide)

/-- Combines data with the keystream that a vector names; the same call undoes it. -/
def apply (key : DeviceKey) (iv : Block ivSize) (data : Bytes) : Except Fault Bytes :=
  if data.length ≤ Secret.maxLength then
    match ChaCha20.combine? key (nonceOf iv) (startBlock iv) data with
    | some result => .ok result
    | none => .error .sealing
  else .error .sealing

/-- Seals a secret under a drawn nonce. -/
def sealSecret (key : DeviceKey) (nonce : Nonce) (secret : Bytes) : Except Fault Sealed := do
  let ciphertext ← apply key nonce.iv secret
  return ⟨nonce.iv, ciphertext⟩

end DeviceKey

/-- A device key together with the nonces that will be drawn. -/
structure KeyedVault where
  key : DeviceKey
  nonces : Nat → Nonce
  drawn : Nat

instance : Vault KeyedVault where
  sealSecret vault secret := do
    let sealed ← vault.key.sealSecret (vault.nonces vault.drawn) secret
    return (sealed, { vault with drawn := vault.drawn + 1 })
  openSecret vault iv ciphertext := vault.key.apply iv ciphertext

end OtpToken
