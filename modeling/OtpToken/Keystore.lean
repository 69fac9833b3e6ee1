import OtpToken.Blocking.Settling
import OtpToken.Credential

/-!
# Stored credentials

The record of each slot is kept under a key of its own. A record that is missing or
of the wrong size means that the slot is not configured; when all slots are restored,
such a slot is formatted with a blank record.
-/

namespace OtpToken

/-- The credentials found in storage, and the slots that had to be formatted, in order. -/
structure Restored where
  credentials : Vector Credential slotCount
  formatted : List Slot

namespace Keystore

open Act BoardAct

/-- The key of a slot's record. -/
def recordKey (slot : Nat) : Bytes := Bytes.ofText (Slot.storageKey slot)

/-- The stored credential of a slot, if there is a record of it. -/
def load (slot : Slot) : BoardAct (Option Credential) := do
  match ← attempt (getValue (recordKey slot) Credential.recordSize) with
  | .ok (value, _) => return Credential.ofRecord? slot value
  | .error fault =>
    if isMissing fault || fault == .storage .size then return none else fail fault

/-- Stores the record of a credential. -/
def save (slot : Nat) (credential : Credential) : BoardAct Unit :=
  setValue (recordKey slot) credential.record

/-- The stored credential of a slot, or else a blank one, which is written back. What goes wrong
with reading or writing is passed over. -/
def restore (restored : Restored) (slot : Slot) : BoardAct Restored := do
  match ← attempt (load slot) with
  | .ok (some credential) =>
    return { restored with credentials := restored.credentials.set slot.val credential slot.isLt }
  | _ =>
    let blank := Credential.blank slot
    let _ ← attempt (save slot blank)
    return { credentials := restored.credentials.set slot.val blank slot.isLt
             formatted := restored.formatted ++ [slot] }

/-- Restores every slot. -/
def loadAll : BoardAct Restored :=
  Slot.all.foldlM restore ⟨Vector.ofFn Credential.blank, []⟩

/-- Saving a credential does not raise the workload. -/
theorem settles_save (slot : Nat) (credential : Credential) : Settles (save slot credential) :=
  settles_setValue _ _

end Keystore

end OtpToken
