import OtpToken.Sealing

/-!
# Credentials

Each of the four slots holds a credential: a sealed secret, or none, and the
counter of its codes. The number of digits belongs to the slot. A credential is
stored as a record of 89 bytes, the same for every slot: the length of the secret,
the initialization vector, the sealed secret in a field of 64 bytes, and the
counter, least significant byte first.
-/

namespace OtpToken

/-- The number of credential slots. -/
def slotCount : Nat := 4

/-- A credential slot. -/
abbrev Slot := Fin slotCount

namespace Slot

/-- The number of digits of a slot's codes. -/
def digits (slot : Slot) : Nat := #v[6, 6, 7, 8].get slot

/-- The first slot. -/
def first : Slot := ⟨0, by decide⟩

/-- The slots in order. -/
def all : List Slot := List.finRange slotCount

/-- The slot of a number. -/
def ofNat? (number : Nat) : Option Slot :=
  if h : number < slotCount then some ⟨number, h⟩ else none

/-- The slot of a number that a user has named. -/
def select (number : Nat) : Except Fault Slot :=
  match ofNat? number with
  | some slot => .ok slot
  | none => .error (.noSuchSlot number)

/-- The slot of a number that is used as an index. -/
def ofIndex (number : Nat) : Except Trap Slot :=
  match ofNat? number with
  | some slot => .ok slot
  | none => .error (.indexOutOfBounds slotCount number)

/-- The key under which the record of a slot is stored. -/
def storageKey (slot : Nat) : String := "hotp-key-" ++ toString slot

end Slot

/-- What a slot holds; a secret of length zero means that it is not configured. -/
structure Credential where
  secretLength : Nat
  iv : Block ivSize
  field : Block Secret.maxLength
  counter : UInt64
  digits : Nat
  secretLength_le : secretLength ≤ Secret.maxLength
  deriving DecidableEq, Repr

namespace Credential

/-- The number of bytes of a record. -/
def recordSize : Nat := 89

/-- Where the sealed secret starts in a record. -/
def fieldOffset : Nat := 1 + ivSize

/-- Where the counter starts in a record. -/
def counterOffset : Nat := fieldOffset + Secret.maxLength

/-- The unconfigured credential of a slot. -/
def blank (slot : Slot) : Credential where
  secretLength := 0
  iv := Block.zero ivSize
  field := Block.zero Secret.maxLength
  counter := 0
  digits := slot.digits
  secretLength_le := Nat.zero_le _

/-- Whether the slot holds a secret. -/
def isConfigured (credential : Credential) : Bool := credential.secretLength != 0

/-- The meaningful part of the field. -/
def sealedSecret (credential : Credential) : Bytes :=
  credential.field.val.take credential.secretLength

/-- The stored form of a credential. -/
def record (credential : Credential) : Bytes :=
  UInt8.ofNat credential.secretLength :: credential.iv.val ++ credential.field.val
    ++ littleEndian 8 credential.counter.toNat

/-- A record has its size and names a length that the field can hold. -/
def IsRecord (bytes : Bytes) : Prop :=
  bytes.length = recordSize ∧ (bytes.headD 0).toNat ≤ Secret.maxLength

instance (bytes : Bytes) : Decidable (IsRecord bytes) :=
  inferInstanceAs (Decidable (_ ∧ _))

/-- The credential of a slot that a record stores; none for bytes that are no record. -/
def ofRecord? (slot : Slot) (bytes : Bytes) : Option Credential :=
  if h : IsRecord bytes then
    some {
      secretLength := (bytes.headD 0).toNat
      iv := Block.slice ivSize 1 bytes (by rw [h.1]; decide)
      field := Block.slice Secret.maxLength fieldOffset bytes (by rw [h.1]; decide)
      counter := UInt64.ofNat (ofLittleEndian (bytes.drop counterOffset))
      digits := slot.digits
      secretLength_le := h.2 }
  else none

/-- Reads a record for a slot given by number. Only a record makes a credential, and only then is
the number used as an index. -/
def parse (number : Nat) (bytes : Bytes) : Except Trap (Option Credential) := do
  if IsRecord bytes then
    let slot ← Slot.ofIndex number
    return ofRecord? slot bytes
  else return none

/-- Takes a freshly sealed secret, the counter starting over; a secret of no bytes or too many is
refused. -/
def install (credential : Credential) (secret : Sealed) : Except Fault Credential :=
  if h : 1 ≤ secret.ciphertext.length ∧ secret.ciphertext.length ≤ Secret.maxLength then
    .ok { credential with
      secretLength := secret.ciphertext.length
      iv := secret.iv
      field := Block.padded Secret.maxLength secret.ciphertext
      counter := 0
      secretLength_le := h.2 }
  else .error .sealing

/-- The credential without its secret; the counter stays. -/
def clear (credential : Credential) : Credential :=
  { credential with secretLength := 0, secretLength_le := Nat.zero_le _ }

/-- Moves to the next counter value and hands out the one just used. -/
def advance (credential : Credential) : Except Trap (UInt64 × Credential) :=
  if credential.counter.toNat + 1 < UInt64.size then
    .ok (credential.counter, { credential with counter := credential.counter + 1 })
  else .error .counterOverflow

end Credential

end OtpToken
