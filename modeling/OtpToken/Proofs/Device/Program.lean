import OtpToken.Proofs.Device.Emit
import OtpToken.Proofs.Keystore

/-!
# Programming a slot and starting a device

A text that is decoded and sealed ends up installed in its slot and in the store; one
that is not leaves the slot without a secret in memory and the store as it was. A
device that starts over a writable store restores its slots first, and programs the
default secret if the first slot had no record.
-/

namespace OtpToken

/-- The facts with another vault. -/
def Facts.setVault {σ : Type} (facts : Facts σ) (vault : σ) : Facts σ := { facts with vault := vault }

namespace Device

open Act

variable {σ : Type} [Vault σ]

/-- What comes of installing the secret of a text in a credential, and the vault after that. -/
def installing (vault : σ) (current : Credential) (text : String) : Except Fault Credential × σ :=
  match Secret.decode text with
  | .error fault => (.error fault, vault)
  | .ok key =>
    match Vault.sealSecret vault key with
    | .error fault => (.error fault, vault)
    | .ok (secret, vault) => (current.install secret, vault)

/-- What is installed keeps the digits of the slot, and its counter starts over. -/
theorem fields_of_installing {vault later : σ} {current installed : Credential} {text : String}
    (accepted : installing vault current text = (.ok installed, later)) :
    installed.digits = current.digits ∧ installed.counter = 0 := by
  unfold installing at accepted
  split at accepted
  next => cases accepted
  next =>
    split at accepted
    next => cases accepted
    next secret _ _ =>
      have installs := (Prod.mk.inj accepted).1
      unfold Credential.install at installs
      split at installs <;> cases installs
      exact ⟨rfl, rfl⟩

namespace Leads

variable {cuts : Traces → Prop} {known : Facts σ} {slot : Slot} {store : Store} {text : String}
  {vault : σ}

/-- A key that the vault seals is sealed. -/
theorem sealSecret {key : Bytes} {secret : Sealed}
    (accepted : Vault.sealSecret known.vault key = .ok (secret, vault)) :
    Leads cuts (Device.sealSecret key) known (.ok secret) (known.setVault vault) := by
  rintro device ready rfl
  have same : Vault.sealSecret device.vault key = .ok (secret, vault) := accepted
  unfold Device.sealSecret
  rw [same]
  exact .ok (.refl ready) rfl

/-- A key that the vault refuses is refused, and nothing changes. -/
theorem sealSecret_of_error {key : Bytes} {fault : Fault}
    (refused : Vault.sealSecret known.vault key = .error fault) :
    Leads cuts (Device.sealSecret key) known (.error fault) known := by
  rintro device ready rfl
  have same : Vault.sealSecret device.vault key = .error fault := refused
  unfold Device.sealSecret
  rw [same]
  exact .fault (.refl ready) rfl

/-- Installing the text of a secret ends as the vault and the decoding have it. -/
theorem installText (current : Credential) (text : String) :
    Leads cuts (Device.installText current text) known (installing known.vault current text).1
      (known.setVault (installing known.vault current text).2) := by
  unfold installing
  cases decoded : Secret.decode text with
  | error fault =>
    have first : Leads cuts (Act.ofExcept (Secret.decode text) : DeviceAct σ Bytes) known
        (.error fault) known := decoded ▸ ofExcept _
    exact bind_fault first
  | ok key =>
    have first : Leads cuts (Act.ofExcept (Secret.decode text) : DeviceAct σ Bytes) known
        (.ok key) known := decoded ▸ ofExcept _
    refine bind first ?_
    dsimp only
    cases accepted : Vault.sealSecret known.vault key with
    | error fault => exact bind_fault (sealSecret_of_error accepted)
    | ok result => exact bind (sealSecret accepted) (ofExcept _)

/-- A text that cannot be installed leaves the slot without a secret in memory. -/
theorem programSecret_of_error {fault : Fault}
    (refused : installing known.vault (known.credentials.get slot) text = (.error fault, vault)) :
    Leads cuts (Device.programSecret slot.val text) known (.error fault)
      ((known.setVault vault).setCredential slot (known.credentials.get slot).clear) := by
  have attempted : Leads cuts (Device.installText (known.credentials.get slot) text) known _ _ :=
    installText _ _
  rw [refused] at attempted
  refine bind (slotOf_val slot) (bind (credential slot) (bind (attempt attempted) ?_))
  exact bind (setCredential slot _) (fail fault)

/-- A text that can be installed is, in memory and in the store. -/
theorem programSecret {installed : Credential}
    (accepted : installing known.vault (known.credentials.get slot) text = (.ok installed, vault))
    (put : known.traces.store.put (Keystore.recordKey slot) installed.record = .ok store) :
    Leads (· = known.traces) (Device.programSecret slot.val text) known (.ok ())
      ((((known.setVault vault).setCredential slot installed).setStore store).printLine
        ("Programmed slot " ++ toString slot.val)) := by
  have attempted : Leads (· = known.traces)
      (Device.installText (known.credentials.get slot) text) known _ _ := installText _ _
  rw [accepted] at attempted
  let mid := (known.setVault vault).setCredential slot installed
  have stored : Leads (· = known.traces)
      (Device.onBoard (Keystore.save slot.val installed)) mid (.ok ()) (mid.setStore store) :=
    save put
  refine bind (slotOf_val slot) (bind (credential slot) (bind (attempt attempted) ?_))
  exact bind (setCredential slot installed) (bind stored (printLine _))

/-- What goes wrong with the default secret is reported. -/
theorem programDefault {outcome : Except Fault Unit} {later : Facts σ}
    (leads : Leads cuts (Device.programSecret Slot.first.val defaultSecret) known outcome later) :
    Leads cuts Device.programDefault known (.ok ()) (later.reported outcome) := by
  refine bind (attempt (withLight leads)) ?_
  cases outcome with
  | ok _ => exact pure ()
  | error fault => exact report fault

end Leads

/-- A device that starts over a writable store has its slots restored first. -/
theorem start_eq {board : Board} (ready : board.Ready) (supplied : board.charge = none)
    (writable : board.store.Writable) (vault : σ) :
    ∃ (restored : Restored) (after : Board), board.Continues after ∧
      after.traces = { board.traces with store := after.store } ∧
      Keystore.Restores board.store ⟨Vector.ofFn Credential.blank, []⟩ Slot.all restored
        after.store ∧
      start board vault =
        if board.store.credential? Slot.first = none
        then programDefault ⟨after, vault, restored.credentials⟩
        else .ok () ⟨after, vault, restored.credentials⟩ := by
  obtain ⟨restored, after, loaded, continues, left, restores⟩ :=
    Keystore.loadAll_eq ready supplied writable
  refine ⟨restored, after, continues, left, restores, ?_⟩
  have first : (onBoard Keystore.loadAll : DeviceAct σ Restored) (initial board vault) =
      .ok restored ⟨after, vault, Vector.ofFn Credential.blank⟩ := by
    simp only [onBoard, initial, loaded]
  have formatted : Slot.first ∈ restored.formatted ↔
      board.store.credential? Slot.first = none := by
    rw [restores.formatted]
    simp [Slot.all]
  unfold start boot
  rw [bind_of_ok first]
  by_cases none : board.store.credential? Slot.first = none
  · rw [if_pos none]
    simp only [if_pos (formatted.mpr none)]
    rfl
  · rw [if_neg none]
    simp only [if_neg (none ∘ formatted.mp)]
    rfl

/-- A device that starts where every slot has a record takes its credentials from there. -/
theorem start_of_stored {store : Store} (writable : store.Writable)
    (stored : ∀ slot, ∃ kept, store.credential? slot = some kept) (input : Bytes) (buttons : Nat)
    (hasKeyboard : Bool) (vault : σ) :
    ∃ booted, start (.initial store input buttons hasKeyboard) vault = .ok () booted ∧
      ∀ slot, store.credential? slot = some (booted.credentials.get slot) := by
  have ready := Board.Ready.initial store input buttons hasKeyboard
  have same : (Board.initial store input buttons hasKeyboard).store = store := rfl
  obtain ⟨restored, after, _, _, restores, begins⟩ := start_eq ready rfl writable vault
  rw [same] at begins restores
  obtain ⟨first, found⟩ := stored Slot.first
  refine ⟨⟨after, vault, restored.credentials⟩, ?_, fun slot => ?_⟩
  · rw [begins, found]
    exact if_neg (Option.some_ne_none first)
  · have every : slot ∈ Slot.all := List.mem_finRange slot
    have held := restores.credentials slot every
    obtain ⟨kept, found⟩ := stored slot
    rw [found, Option.getD_some] at held
    rw [found, held]

end Device

end OtpToken
