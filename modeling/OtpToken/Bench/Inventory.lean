import OtpToken.Keystore
import OtpToken.KeyFile
import OtpToken.Storage.Store

/-!
# Inventories

Whoever has both the state file and the key file can tell what every slot holds, the
secrets in the clear wherever they can be opened.
-/

namespace OtpToken.Bench

/-- What a slot holds. -/
structure Holding where
  length : Nat
  /-- The secret, unless the vault refuses to open it. -/
  secret? : Option Bytes
  counter : UInt64
  deriving DecidableEq, Repr

namespace Holding

/-- What a credential holds under a device key. -/
def ofCredential (key : DeviceKey) (credential : Credential) : Holding where
  length := credential.secretLength
  secret? := (key.apply credential.iv credential.sealedSecret).toOption
  counter := credential.counter

/-- What the record of a slot holds under a device key, if there is a record. -/
def ofTable? (key : DeviceKey) (table : Table) (slot : Slot) : Option Holding := do
  let record ← table.get? (Keystore.recordKey slot)
  let credential ← Credential.ofRecord? slot record
  return ofCredential key credential

end Holding

/-- What every slot holds according to a state file and a key file; nothing can be told without
both. -/
def inventory (disk : Disk) (statePath keyPath : String) : List (Option Holding) :=
  match disk.read statePath, disk.read keyPath with
  | .ok state, .ok key =>
    match StateFile.read state, KeyFile.keyOf key with
    | .ok table, .ok key => Slot.all.map (Holding.ofTable? key table)
    | _, _ => []
  | _, _ => []

end OtpToken.Bench
