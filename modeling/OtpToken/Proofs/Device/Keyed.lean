import OtpToken.Proofs.Device.Reached
import OtpToken.Proofs.Sealing

/-!
# Devices with a key

Where secrets are sealed under a device key, every text that can be decoded can be
programmed, and the code of a slot is cut from the keyed hash of its counter. What can
keep a code from being emitted is that the slot has no secret, that its secret cannot
be opened, or that its counter is at the limit (`Emission`).
-/

namespace OtpToken

namespace Secret

variable {text : String}

/-- A decoded secret fits a slot. -/
theorem length_of_decode {key : Bytes} (decoded : decode text = .ok key) :
    1 ≤ key.length ∧ key.length ≤ maxLength := by
  unfold decode at decoded
  split at decoded
  next => cases decoded
  next =>
    dsimp only at decoded
    split at decoded <;> cases decoded
    assumption

/-- The only fault that decoding ends with is that the secret is malformed. -/
theorem fault_of_decode {fault : Fault} (refused : decode text = .error fault) :
    fault = .malformedSecret := by
  unfold decode at refused
  split at refused
  next => exact (Except.error.inj refused).symm
  next =>
    dsimp only at refused
    split at refused
    next => cases refused
    next => exact (Except.error.inj refused).symm

end Secret

/-- The only fault that a key ends with is one of sealing. -/
theorem DeviceKey.fault_of_apply {key : DeviceKey} {iv : Block ivSize} {data : Bytes} {fault : Fault}
    (refused : key.apply iv data = .error fault) : fault = .sealing := by
  unfold apply at refused
  split at refused
  next =>
    split at refused
    next => cases refused
    next => exact (Except.error.inj refused).symm
  next => exact (Except.error.inj refused).symm

/-- The code that a slot cuts from a digest. -/
def Slot.code (slot : Slot) (digest : Digest) : Code :=
  ⟨Code.truncated digest % decimalCount slot.digits, slot.digits,
    Nat.mod_lt _ (decimalCount_pos slot.digits)⟩

/-- With the digits of a slot, a digest is always cut to a code of the slot. -/
theorem Slot.truncate_digits (slot : Slot) (digest : Digest) :
    Code.truncate digest slot.digits = .ok (slot.code digest) :=
  Code.truncate_of_right slot.digits_mem

/-- A secret that is opened yields a code of the digits of its slot. -/
theorem Credential.derive_of_opened {credential : Credential} {slot : Slot} {key : DeviceKey}
    {secret : Bytes} (digits : credential.digits = slot.digits)
    (configured : credential.isConfigured = true)
    (opened : key.apply credential.iv credential.sealedSecret = .ok secret) :
    Code.derive secret credential.counter credential.digits =
      .ok (slot.code (Hmac.mac secret (Code.movingFactor credential.counter))) := by
  have length : secret.length = credential.secretLength :=
    (DeviceKey.length_apply opened).trans credential.length_sealedSecret
  have keyed : secret ≠ [] := by
    rintro rfl
    simp [isConfigured, ← length] at configured
  have short : secret.length ≤ MacUnit.maxKeyLength := length ▸ credential.secretLength_le
  rw [Code.derive_of_fit keyed short, digits]
  exact slot.truncate_digits _

namespace Device

open Act

variable {known : Facts KeyedVault} {slot : Slot}

/-- A text that can be decoded can be installed, and every vault with the same key opens what is
installed then. -/
theorem installing_keyed (vault : KeyedVault) (current : Credential) {text : String} {key : Bytes}
    (decoded : Secret.decode text = .ok key) :
    ∃ installed, installing vault current text =
        (.ok installed, { vault with drawn := vault.drawn + 1 }) ∧
      installed.isConfigured = true ∧
      vault.key.apply installed.iv installed.sealedSecret = .ok key ∧ installed.counter = 0 := by
  have fits := Secret.length_of_decode decoded
  obtain ⟨result, accepted, length, opens⟩ := vault.sealSecret_keyed fits.2
  obtain ⟨installed, installs, configured, iv, ciphertext, counter, _⟩ :=
    @Credential.install_eq_ok current result (length ▸ fits)
  refine ⟨installed, ?_, configured, ?_, counter⟩
  · simp only [installing, decoded, accepted, installs]
  · rw [iv, ciphertext]
    exact opens

/-- How an emission goes. -/
inductive Emission (known : Facts KeyedVault) (slot : Slot) : Prop
  | blank (unconfigured : (known.credentials.get slot).isConfigured = false)
      (leads : Leads (fun _ => True) (emitCode slot.val) known
        (.error (.notConfigured slot.val)) known)
  | refused {fault : Fault} (configured : (known.credentials.get slot).isConfigured = true)
      (opened : known.vault.key.apply (known.credentials.get slot).iv
        (known.credentials.get slot).sealedSecret = .error fault)
      (leads : Leads (fun _ => True) (emitCode slot.val) known (.error fault) known)
  | limit {secret : Bytes} (configured : (known.credentials.get slot).isConfigured = true)
      (opened : known.vault.key.apply (known.credentials.get slot).iv
        (known.credentials.get slot).sealedSecret = .ok secret)
      (above : ¬(known.credentials.get slot).counter.toNat + 1 < UInt64.size)
      (stops : Stops (emitCode slot.val) known .counterOverflow known)
  | emitted {secret : Bytes} {store : Store}
      (configured : (known.credentials.get slot).isConfigured = true)
      (opened : known.vault.key.apply (known.credentials.get slot).iv
        (known.credentials.get slot).sealedSecret = .ok secret)
      (below : (known.credentials.get slot).counter.toNat + 1 < UInt64.size)
      (put : known.traces.store.put (Keystore.recordKey slot)
        (known.credentials.get slot).next.record = .ok store)
      (leads : Leads (fun _ => True) (emitCode slot.val) known
        (.ok (slot.code (Hmac.mac secret
          (Code.movingFactor (known.credentials.get slot).counter))))
        (((known.setCredential slot (known.credentials.get slot).next).setStore store).deliver
          (slot.code (Hmac.mac secret
            (Code.movingFactor (known.credentials.get slot).counter)))
          (known.credentials.get slot).counter))

/-- The secret of a configured slot always yields a code. -/
theorem derive_of_apply (kept : known.Kept) {secret : Bytes}
    (configured : (known.credentials.get slot).isConfigured = true)
    (opened : known.vault.key.apply (known.credentials.get slot).iv
      (known.credentials.get slot).sealedSecret = .ok secret) :
    Code.derive secret (known.credentials.get slot).counter (known.credentials.get slot).digits =
      .ok (slot.code (Hmac.mac secret
        (Code.movingFactor (known.credentials.get slot).counter))) :=
  Credential.derive_of_opened (kept.digits slot) configured opened

/-- An emission from a slot goes as its credential and the key decide. -/
theorem emission (kept : known.Kept) (slot : Slot) : Emission known slot := by
  have right : 1 ≤ (known.credentials.get slot).digits ∧
      (known.credentials.get slot).digits ≤ Code.maxDigits := by
    rw [kept.digits]
    exact slot.digits_mem
  cases configured : (known.credentials.get slot).isConfigured with
  | false => exact .blank configured (Leads.emitCode_of_blank configured)
  | true =>
    cases opened : known.vault.key.apply (known.credentials.get slot).iv
        (known.credentials.get slot).sealedSecret with
    | error fault =>
      exact .refused configured opened (.emitCode configured (.nextCode_of_sealed opened))
    | ok secret =>
      have derived := derive_of_apply kept configured opened
      by_cases below : (known.credentials.get slot).counter.toNat + 1 < UInt64.size
      · obtain ⟨store, put, _⟩ := kept.writable.put (Keystore.recordKey slot)
          (known.credentials.get slot).next.record
        exact .emitted configured opened below put
          (Leads.emitCode configured (.nextCode opened right derived below put)).any
      · exact .limit configured opened below (.emitCode configured opened right derived below)

end Device

end OtpToken
