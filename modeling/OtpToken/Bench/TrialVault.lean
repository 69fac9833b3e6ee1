import OtpToken.Sealing

/-!
# Vault for trials

The vault of a device at the bench seals under nonces that it numbers, so that what
it does can be repeated, and can be told to fail in several ways.
-/

namespace OtpToken.Bench

/-- How a trial vault behaves. -/
inductive VaultMode
  | normal
  /-- Nothing can be sealed. -/
  | refusesSealing
  /-- What is sealed holds no bytes. -/
  | sealsEmpty
  /-- What is sealed holds one byte too many. -/
  | sealsOversized
  /-- Nothing can be opened. -/
  | refusesOpening
  /-- What is opened holds no bytes. -/
  | opensEmpty
  /-- What is opened holds one byte too many. -/
  | opensOversized
  deriving DecidableEq, Repr

/-- A vault that numbers its nonces. -/
structure TrialVault where
  key : DeviceKey
  mode : VaultMode
  /-- The number of secrets that have been sealed under a nonce. -/
  sealed : Nat

namespace TrialVault

/-- One byte more than a secret may have. -/
def oversized : Nat := Secret.maxLength + 1

/-- The nonce of a number: its eight bytes, least significant first, and four zeros. -/
def nonce (number : Nat) : Nonce :=
  ⟨littleEndian 8 number ++ List.replicate 4 0, by simp; rfl⟩

/-- Seals a secret as the mode has it. -/
def sealSecret (vault : TrialVault) (secret : Bytes) : Except Fault (Sealed × TrialVault) :=
  match vault.mode with
  | .refusesSealing => .error .sealing
  | .sealsEmpty => .ok (⟨Block.zero ivSize, []⟩, vault)
  | .sealsOversized => .ok (⟨Block.zero ivSize, List.replicate oversized 0⟩, vault)
  | _ => do
    let sealed ← vault.key.sealSecret (nonce (vault.sealed + 1)) secret
    return (sealed, { vault with sealed := vault.sealed + 1 })

/-- Opens a secret as the mode has it. -/
def openSecret (vault : TrialVault) (iv : Block ivSize) (ciphertext : Bytes) :
    Except Fault Bytes :=
  match vault.mode with
  | .refusesOpening => .error .sealing
  | .opensEmpty => .ok []
  | .opensOversized => .ok (List.replicate oversized 0x5a)
  | _ => vault.key.apply iv ciphertext

end TrialVault

instance : Vault TrialVault := ⟨TrialVault.sealSecret, TrialVault.openSecret⟩

end OtpToken.Bench
