import OtpToken.Proofs.Credential
import OtpToken.Proofs.Device.Ends
import OtpToken.Proofs.Storage.Store

/-!
# Emitting a code

An emission on a configured slot derives the code of its counter, stores the record
with the next counter, and only then delivers the code (`Leads.nextCode`). If the supply
fails on the way, at most the store has changed, and it holds the next counter then. A
secret that cannot be opened or used ends the emission before anything has changed.
-/

namespace OtpToken

namespace Device.Leads

open Act

variable {σ : Type} {known : Facts σ} {slot : Slot} {store : Store}

/-- A record that the store takes is in the store in the end. -/
theorem save {credential : Credential}
    (put : known.traces.store.put (Keystore.recordKey slot) credential.record = .ok store) :
    Leads (· = known.traces) (Device.onBoard (Keystore.save slot credential)) known (.ok ())
      (known.setStore store) := by
  refine onBoard fun board ready same => ?_
  have written := BoardAct.ends_setValue ready credential.record (Keystore.recordKey_ne_nil slot)
  have taken : board.store.put (Keystore.recordKey slot) credential.record = .ok store := by
    rw [← put, ← same]
    rfl
  rw [taken, same] at written
  exact written

/-- A credential that the store takes is stored, and nothing is reported. -/
theorem storeOrReport {credential : Credential}
    (put : known.traces.store.put (Keystore.recordKey slot) credential.record = .ok store) :
    Leads (· = known.traces) (Device.storeOrReport slot credential) known (.ok ())
      (known.setStore store) :=
  bind (attempt (save put)) (pure ())

/-- A code with digits is typed where there is a keyboard, and printed otherwise. -/
theorem deliver {code : Code} (counter : UInt64) (digits : 1 ≤ code.digits) :
    Leads (· = known.traces) (Device.onBoard (Delivery.deliver code counter)) known
      (.ok (if known.traces.typed?.isNone then .console else .keyboard))
      (known.deliver code counter) := by
  refine onBoard fun board ready same => ?_
  rw [← same]
  exact BoardAct.ends_deliver ready counter digits

/-- Generating a code comes to what is derived, and changes nothing that is known. -/
theorem generateCode {secret : Bytes} {counter : UInt64} {digits : Nat}
    {outcome : Except Fault Code} (right : 1 ≤ digits ∧ digits ≤ Code.maxDigits)
    (derived : Code.derive secret counter digits = outcome) :
    Leads (· = known.traces) (Device.onBoard (BoardAct.generateCode secret counter digits)) known
      outcome known := by
  refine onBoard fun board ready same => ?_
  rw [← same, ← derived]
  exact BoardAct.ends_generateCode ready secret counter right

variable [Vault σ] {secret : Bytes} {code : Code}

/-- A secret that cannot be opened ends an emission before anything has changed. -/
theorem nextCode_of_sealed {fault : Fault} {cuts : Traces → Prop}
    (refused : Vault.openSecret known.vault (known.credentials.get slot).iv
      (known.credentials.get slot).sealedSecret = .error fault) :
    Leads cuts (Device.nextCode slot) known (.error fault) known := by
  exact bind (credential slot) (bind_fault (openSecret refused))

/-- A secret that no code can be derived from yields its fault, and changes nothing. -/
theorem nextCode_of_unfit {fault : Fault}
    (opened : Vault.openSecret known.vault (known.credentials.get slot).iv
      (known.credentials.get slot).sealedSecret = .ok secret)
    (right : 1 ≤ (known.credentials.get slot).digits ∧
      (known.credentials.get slot).digits ≤ Code.maxDigits)
    (refused : Code.derive secret (known.credentials.get slot).counter
      (known.credentials.get slot).digits = .error fault) :
    Leads (· = known.traces) (Device.nextCode slot) known (.error fault) known := by
  exact bind (credential slot) (bind (openSecret opened) (bind_fault (generateCode right refused)))

/-- Once a code has been derived, its counter is stored and then the code is delivered. -/
theorem nextCode
    (opened : Vault.openSecret known.vault (known.credentials.get slot).iv
      (known.credentials.get slot).sealedSecret = .ok secret)
    (right : 1 ≤ (known.credentials.get slot).digits ∧
      (known.credentials.get slot).digits ≤ Code.maxDigits)
    (derived : Code.derive secret (known.credentials.get slot).counter
      (known.credentials.get slot).digits = .ok code)
    (below : (known.credentials.get slot).counter.toNat + 1 < UInt64.size)
    (put : known.traces.store.put (Keystore.recordKey slot)
      (known.credentials.get slot).next.record = .ok store) :
    Leads (fun traces => traces = known.traces ∨ traces = { known.traces with store := store })
      (Device.nextCode slot) known (.ok code)
      (((known.setCredential slot (known.credentials.get slot).next).setStore store).deliver
        code (known.credentials.get slot).counter) := by
  have digits : 1 ≤ code.digits := by
    rw [Code.digits_of_derive right derived]
    exact right.1
  let advanced := known.setCredential slot (known.credentials.get slot).next
  have stored : Leads (· = known.traces)
      (Device.storeOrReport slot (known.credentials.get slot).next) advanced (.ok ())
      (advanced.setStore store) := storeOrReport put
  refine bind (credential slot) (bind (openSecret opened) ?_)
  refine bind ((generateCode right derived).mono fun _ h => .inl h) ?_
  refine bind (ofTrapped (Credential.advance_of_lt below)) ?_
  refine bind (setCredential slot _) (bind (stored.mono fun _ h => .inl h) ?_)
  exact bind ((deliver _ digits).mono fun _ h => .inr h) (pure code)

/-- An emission from a slot without a secret is refused, and changes nothing. -/
theorem emitCode_of_blank {cuts : Traces → Prop}
    (blank : (known.credentials.get slot).isConfigured = false) :
    Leads cuts (Device.emitCode slot.val) known (.error (.notConfigured slot.val)) known := by
  refine bind (slotOf_val slot) (bind (credential slot) ?_)
  rw [if_neg (by rw [blank]; exact Bool.false_ne_true)]
  exact fail _

/-- An emission on a configured slot goes as its next code goes. -/
theorem emitCode {cuts : Traces → Prop} {outcome : Except Fault Code} {later : Facts σ}
    (configured : (known.credentials.get slot).isConfigured = true)
    (leads : Leads cuts (Device.nextCode slot) known outcome later) :
    Leads cuts (Device.emitCode slot.val) known outcome later := by
  refine bind (slotOf_val slot) (bind (credential slot) ?_)
  rw [if_pos configured]
  exact withLight leads

end Device.Leads

namespace Device.Stops

open Act

variable {σ : Type} {known : Facts σ} {slot : Slot} [Vault σ] {secret : Bytes} {code : Code}

/-- A counter at its limit stops an emission before anything has changed. -/
theorem emitCode
    (configured : (known.credentials.get slot).isConfigured = true)
    (opened : Vault.openSecret known.vault (known.credentials.get slot).iv
      (known.credentials.get slot).sealedSecret = .ok secret)
    (right : 1 ≤ (known.credentials.get slot).digits ∧
      (known.credentials.get slot).digits ≤ Code.maxDigits)
    (derived : Code.derive secret (known.credentials.get slot).counter
      (known.credentials.get slot).digits = .ok code)
    (limit : ¬(known.credentials.get slot).counter.toNat + 1 < UInt64.size) :
    Stops (Device.emitCode slot.val) known .counterOverflow known := by
  have refused : (known.credentials.get slot).advance = .error .counterOverflow := if_neg limit
  have stops : Stops (Device.nextCode slot) known .counterOverflow known := by
    refine bind (Leads.credential slot) (bind (Leads.openSecret opened) ?_)
    refine bind (Leads.generateCode right derived).any (bind_left ?_)
    rw [refused]
    exact ofTrapped
  refine bind (Leads.slotOf_val slot) (bind (Leads.credential slot) ?_)
  rw [if_pos configured]
  exact withLight stops

end Device.Stops

end OtpToken
