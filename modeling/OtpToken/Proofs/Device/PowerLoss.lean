import OtpToken.Proofs.Device.Reached

/-!
# Loss of power during an emission

A supply that lasts for so many operations stops a device between two of them, at the
moment when control would be yielded again. Whatever that number is, a code that has
been shown by then has its counter used up in the store (`emitCode_cautious`). Only an
operation of the key-value driver changes the store, so between two yields it is as it
is at the second of them.
-/

namespace OtpToken.Device

open Act

variable {σ α : Type} {device : Device σ} {known later : Facts σ} {slot : Slot}

/-- The device with a supply that lasts for so many more operations. -/
def lasting (device : Device σ) (charge : Option Nat) : Device σ :=
  { device with board := { device.board with charge := charge } }

/-- The device that an act leaves, whichever way it ends. -/
def left : EStateM.Result Failure (Device σ) α → Device σ
  | .ok _ after | .error _ after => after

/-- Something has been printed or typed. -/
def Shows (before after : Device σ) : Prop :=
  after.board.console.transcript ≠ before.board.console.transcript ∨
    after.board.typed? ≠ before.board.typed?

/-- What a device has come to is safe for a slot: if a code has been shown, then the store holds the
next counter, no other value has changed, and a device that starts over the store has the same
secret in the slot, and the next counter unless nothing has been shown. -/
structure Cautious (before after : Device σ) (slot : Slot) [Vault σ] : Prop where
  stored : Shows before after → ∃ kept, after.board.store.credential? slot = some kept ∧
    kept.counter.toNat = (before.credentials.get slot).counter.toNat + 1
  others : ∀ key, key ≠ Keystore.recordKey slot →
    after.board.store.get? key = before.board.store.get? key
  restarts : ∀ (input : Bytes) (buttons : Nat) (hasKeyboard : Bool) (vault : σ), ∃ booted,
    start (.initial after.board.store input buttons hasKeyboard) vault = .ok () booted ∧
    (booted.credentials.get slot).iv = (before.credentials.get slot).iv ∧
    (booted.credentials.get slot).sealedSecret = (before.credentials.get slot).sealedSecret ∧
    ((booted.credentials.get slot).counter.toNat =
        (before.credentials.get slot).counter.toNat + 1 ∨
      (booted.credentials.get slot).counter = (before.credentials.get slot).counter ∧
        ¬Shows before after)

/-- A device stays ready whatever its charge. -/
theorem Ready.lasting (ready : device.board.Ready) (charge : Option Nat) :
    (device.lasting charge).board.Ready where
  sound := { ready.sound with }
  fresh task subscriber here := ready.fresh task subscriber (by cases task <;> exact here)
  idle source notAlarms notButtons := by
    have none := ready.idle source notAlarms notButtons
    cases source <;> exact none

/-- An act leaves the traces of its end, or those that are foreseen where the supply fails. -/
theorem Ends.traces_left {cuts : Traces → Prop} {outcome : Except Fault α}
    {result : EStateM.Result Failure (Device σ) α} (ends : device.Ends cuts later outcome result) :
    (left result).board.traces = later.traces ∨ cuts (left result).board.traces := by
  cases ends with
  | ok _ same => exact .inl (congrArg Facts.traces same)
  | fault _ same => exact .inl (congrArg Facts.traces same)
  | cut _ foreseen => exact .inr foreseen

variable [Vault σ]

/-- However far an emission gets, it has left no trace, or the store has the next counter. -/
theorem traces_emitCode (kept : known.Kept)
    (configured : (known.credentials.get slot).isConfigured = true)
    (below : (known.credentials.get slot).counter.toNat + 1 < UInt64.size)
    (ready : device.board.Ready) (same : device.facts = known) :
    (left (emitCode slot.val device)).board.traces = known.traces ∨
      ∃ store, store.Writable ∧
        known.traces.store.put (Keystore.recordKey slot)
          (known.credentials.get slot).next.record = .ok store ∧
        (left (emitCode slot.val device)).board.store = store := by
  rcases emitCode_cases kept configured with
    ⟨fault, leads⟩ | ⟨limit, _⟩ | ⟨code, store, writable, put, leads⟩
  · rcases (leads device ready same).traces_left with none | none
    · exact .inl none
    · exact .inl none
  · exact absurd below limit
  · rcases (leads device ready same).traces_left with ended | none | stored
    · refine .inr ⟨store, writable, put, (congrArg Traces.store ended).trans ?_⟩
      exact Traces.store_deliver ..
    · exact .inl none
    · exact .inr ⟨store, writable, put, congrArg Traces.store stored⟩

/-- A device is safe as long as it has left no trace. -/
theorem Cautious.of_traces {after : Device σ} (kept : device.facts.Kept)
    (configured : (device.credentials.get slot).isConfigured = true)
    (same : after.board.traces = device.board.traces) : Cautious device after slot := by
  have store : after.board.store = device.board.store := congrArg Traces.store same
  have hidden : ¬Shows device after := by
    rintro (printed | typed)
    · exact printed (congrArg Traces.transcript same)
    · exact typed (congrArg Traces.typed? same)
  refine ⟨fun shows => absurd shows hidden, fun key _ => by rw [store], ?_⟩
  intro input buttons hasKeyboard vault
  rw [store]
  have stored : ∀ slot, ∃ credential, device.board.store.credential? slot = some credential :=
    fun slot => (kept.stored slot).imp fun _ found => found.1
  obtain ⟨booted, started, held⟩ :=
    start_of_stored kept.writable stored input buttons hasKeyboard vault
  have own : booted.credentials.get slot = device.credentials.get slot := by
    have found : device.board.store.credential? slot = _ := kept.of_configured configured
    exact Option.some.inj ((held slot).symm.trans found)
  exact ⟨booted, started, by rw [own], by rw [own], .inr ⟨by rw [own], hidden⟩⟩

/-- A device is safe once the next counter has been stored. -/
theorem Cautious.of_put {after : Device σ} {store : Store} (kept : device.facts.Kept)
    (below : (device.credentials.get slot).counter.toNat + 1 < UInt64.size)
    (writable : store.Writable)
    (put : device.board.store.put (Keystore.recordKey slot)
      (device.credentials.get slot).next.record = .ok store)
    (same : after.board.store = store) : Cautious device after slot := by
  have counter := Credential.toNat_counter_next below
  have digits : (device.credentials.get slot).next.digits = slot.digits := kept.digits slot
  have found : ∀ other, store.credential? other =
      if slot = other then some (device.credentials.get slot).next
      else device.board.store.credential? other := by
    intro other
    rw [Store.credential?_put put]
    by_cases own : slot = other
    · rw [if_pos own, if_pos own, ← digits]
    · rw [if_neg own, if_neg own]
  have stored : ∀ other, ∃ credential, store.credential? other = some credential := by
    intro other
    rw [found]
    by_cases own : slot = other
    · exact ⟨_, if_pos own⟩
    · rw [if_neg own]
      exact (kept.stored other).imp fun _ found => found.1
  refine ⟨fun _ => ⟨_, ?_, counter⟩, fun key apart => ?_, ?_⟩
  · rw [same, found, if_pos rfl]
  · rw [same, Store.get?_put put, if_neg apart.symm]
  · intro input buttons hasKeyboard vault
    rw [same]
    obtain ⟨booted, started, held⟩ :=
      start_of_stored writable stored input buttons hasKeyboard vault
    have own : booted.credentials.get slot = (device.credentials.get slot).next := by
      have one := (held slot).symm.trans (found slot)
      rw [if_pos rfl] at one
      exact Option.some.inj one
    exact ⟨booted, started, by rw [own]; rfl, by rw [own]; rfl, .inl (by rw [own, counter])⟩

/-- Wherever the supply fails during an emission, and if it does not, a counter is used up in the
store before its code is shown, and a restart finds the slot with its secret and that or the next
counter. -/
theorem emitCode_cautious (reached : Reached device) (slot : Slot)
    (configured : (device.credentials.get slot).isConfigured = true)
    (below : (device.credentials.get slot).counter.toNat + 1 < UInt64.size)
    (charge : Option Nat) :
    Cautious device (left (emitCode slot.val (device.lasting charge))) slot := by
  obtain ⟨rest, kept⟩ := reached.durable
  have ready := Ready.lasting rest.ready charge
  have same : (device.lasting charge).facts = device.facts := rfl
  rcases traces_emitCode kept configured below ready same with
    none | ⟨store, writable, put, stored⟩
  · exact .of_traces kept configured none
  · exact .of_put kept below writable put stored

/-- The supply may fail after three operations on a device that has found a record for every slot. -/
theorem emitCode_cautious_restored :
    let store : Store := { Store.inMemory with
      table := Slot.all.map fun slot : Slot => (Keystore.recordKey slot, 2 :: List.replicate 88 7) }
    let vault : KeyedVault := ⟨Block.zero _, fun _ => Block.zero _, 0⟩
    ∃ device, start (.initial store [] 4 false) vault = .ok () device ∧
      Cautious device (left (emitCode Slot.first (device.lasting (some 3)))) Slot.first := by
  intro store vault
  have writable : store.Writable := Store.writable_of_memory rfl rfl
  have records : ∀ slot, ((store.credential? slot).any fun credential =>
      credential.isConfigured && credential.counter.toNat + 1 < UInt64.size) = true := by
    decide +kernel
  have stored : ∀ slot, ∃ kept, store.credential? slot = some kept := by
    intro slot
    obtain ⟨kept, found, _⟩ := (Option.any_eq_true _ _).mp (records slot)
    exact ⟨kept, found⟩
  obtain ⟨device, started, held⟩ := start_of_stored writable stored [] 4 false vault
  have first := records Slot.first
  rw [held, Option.any_some, Bool.and_eq_true, decide_eq_true_eq] at first
  exact ⟨device, started,
    emitCode_cautious (.start [] 4 false vault writable started) Slot.first first.1 first.2 (some 3)⟩

end OtpToken.Device
