import OtpToken.Proofs.Device.Life
import OtpToken.Proofs.Device.Running

/-!
# Stores that cannot be trusted

Whatever bytes a store holds, and whether or not it can be written, a device starts over
it, and nothing that is done with the device stops its program, except for an emission
on a slot whose counter is at the limit (`uses_any_store`). A slot whose secret cannot be
used refuses its codes and changes nothing, what is wrong with it is reported while presses
are served, and every other slot goes on to hand out its codes.
-/

namespace OtpToken.Device

open Act

variable {σ α : Type} {device mid : Device σ} [Vault σ]

namespace Leads

variable {known : Facts σ} {slot : Slot}

/-- An emission on a slot that has no code ends before anything has changed. -/
theorem emitCode_of_refused (digits : (known.credentials.get slot).digits = slot.digits)
    {fault : Fault} (refused : prospect known.vault known.credentials slot = .error fault) :
    Leads (· = known.traces) (Device.emitCode slot.val) known (.error fault) known := by
  cases configured : (known.credentials.get slot).isConfigured with
  | false =>
    rw [prospect, configured] at refused
    cases refused
    exact emitCode_of_blank configured
  | true =>
    rw [prospect_of_configured known.vault configured] at refused
    refine emitCode configured ?_
    cases opened : Vault.openSecret known.vault (known.credentials.get slot).iv
        (known.credentials.get slot).sealedSecret with
    | error fault =>
      rw [opened] at refused
      cases refused
      exact nextCode_of_sealed opened
    | ok secret =>
      rw [opened] at refused
      have right := slot.digits_mem
      rw [← digits] at right
      exact nextCode_of_unfit opened right refused

end Leads

omit [Vault σ] in
/-- On a board that is supplied an act ends without a trap, or because of a counter at its limit. -/
theorem Tells.supplied {turns : List Turn} {trap : Trap} {after : Device σ}
    (tells : Tells (α := α) device turns (.error (.trap trap) after))
    (supplied : device.board.charge = none) : trap = .counterOverflow ∧ after.Exhausted := by
  rcases tells.ended with ⟨_, charged⟩ | ended
  · exact absurd supplied charged
  · exact ended

/-- A supplied device hands out the code that a slot has, unless its counter is at the limit. -/
theorem emitCode_of_prospect (able : device.Able) (supplied : device.board.charge = none)
    {slot : Slot} {code : Code} (yields : prospect device.vault device.credentials slot = .ok code) :
    if (device.credentials.get slot).counter.toNat + 1 < UInt64.size then
      ∃ after, emitCode slot.val device = .ok code after
    else ∃ after, emitCode slot.val device = .error (.trap .counterOverflow) after ∧
      after.holding = device.holding := by
  obtain ⟨turns, emits, tells⟩ := told_emitCode able slot.val
  generalize emitCode slot.val device = result at emits tells
  generalize ended : outcome result = ending at emits
  cases emits with
  | emitted named found below =>
    cases Fin.ext named
    cases yields.symm.trans found
    rw [if_pos below]
    cases result with
    | ok _ after => cases ended; exact ⟨after, rfl⟩
    | error => cases ended
  | refused named found =>
    cases Fin.ext named
    cases yields.symm.trans found
  | unnamed none =>
    rw [Slot.select_val] at none
    cases none
  | limit named _ limit =>
    cases Fin.ext named
    rw [if_neg limit]
    cases result with
    | ok => cases ended
    | error failure after =>
      cases ended
      exact ⟨after, rfl, (Option.some.inj tells.replays).symm⟩
  | cut =>
    cases result with
    | ok => cases ended
    | error failure after =>
      cases ended
      cases (tells.supplied supplied).1

/-- What can be relied on for every slot of a device, whatever the other slots hold. -/
structure Serviceable (device : Device σ) : Prop where
  /-- A slot that has a code hands it out. -/
  emits : ∀ slot code, prospect device.vault device.credentials slot = .ok code →
    (device.credentials.get slot).counter.toNat + 1 < UInt64.size →
    ∃ after, emitCode slot.val device = .ok code after
  /-- After its last counter the program stops instead, with nothing changed. -/
  limits : ∀ slot code, prospect device.vault device.credentials slot = .ok code →
    ¬(device.credentials.get slot).counter.toNat + 1 < UInt64.size →
    ∃ after, emitCode slot.val device = .error (.trap .counterOverflow) after ∧
      after.holding = device.holding
  /-- A slot that has none refuses, with nothing changed. -/
  refuses : ∀ slot fault, prospect device.vault device.credentials slot = .error fault →
    ∃ after, emitCode slot.val device = .error (.fault fault) after ∧ after.facts = device.facts
  /-- If a press asks for it, that is reported, and the next presses are served. -/
  reports : ∀ (watch : ButtonWatch) (slot : Slot) fault mid,
    onBoard watch.nextEvent device = .ok ⟨slot.val, .short⟩ mid →
    prospect device.vault device.credentials slot = .error fault → fault ≠ .halted →
    ∃ after, serve watch device = serve watch after ∧ after.facts = mid.facts.report fault

/-- An able device whose supply does not fail is serviceable. -/
theorem Able.serviceable (able : device.Able) (supplied : device.board.charge = none) :
    Serviceable device where
  emits slot code yields below := by
    have emits := emitCode_of_prospect able supplied yields
    rwa [if_pos below] at emits
  limits slot code yields limit := by
    have emits := emitCode_of_prospect able supplied yields
    rwa [if_neg limit] at emits
  refuses slot fault refused := by
    have leads : Leads _ (emitCode slot.val) device.facts (.error fault) device.facts :=
      .emitCode_of_refused (able.fits slot) refused
    obtain ⟨after, ran, _, left⟩ := (leads device able.quiet.ready rfl).eq_fault supplied
    exact ⟨after, ran, left⟩
  reports watch slot fault mid found refused running := by
    have began := Told.onBoard_of_spares able watch.spares_nextEvent watch.rests_nextEvent
    obtain ⟨turns, spared, tells⟩ := began
    rw [found] at spared tells
    cases spared
    have kept : mid.facts.vault = device.vault ∧ mid.facts.credentials = device.credentials := by
      unfold onBoard at found
      split at found <;> cases found
      exact ⟨rfl, rfl⟩
    have ableMid := tells.able able
    have rest : mid.board.AtRest := ⟨ableMid.quiet.ready, tells.ended.2 supplied, ableMid.quiet.unread⟩
    rw [← kept.1, ← kept.2] at refused
    have leads := Leads.emitCode_of_refused (ableMid.fits slot) refused
    have brings : Brings (handle ⟨slot.val, .short⟩) mid.facts (.error fault) mid.facts :=
      .bind_fault (.of_leads leads.any)
    obtain ⟨after, served, _, left⟩ :=
      serve_of_ends found (brings mid rest rfl) fun same => running (by cases same; rfl)
    exact ⟨after, served, left⟩

/-- Uses a device time after time, going on after a fault. -/
def useAll : List Use → DeviceAct σ Unit
  | [] => pure ()
  | use :: uses => do
    let _ ← attempt use.perform
    useAll uses

/-- A supplied device that has been used is able to be used again, or has come to the limit of a
counter. -/
theorem useAll_cases (uses : List Use) (able : device.Able) (supplied : device.board.charge = none) :
    (∃ after, useAll uses device = .ok () after ∧ after.Able ∧ after.board.charge = none) ∨
      ∃ after, useAll uses device = .error (.trap .counterOverflow) after ∧ after.Exhausted := by
  induction uses generalizing device with
  | nil => exact .inl ⟨device, rfl, able, supplied⟩
  | cons use uses ih =>
    obtain ⟨turns, _, tells⟩ := told_use able use
    cases ran : use.perform device with
    | ok value mid =>
      rw [ran] at tells
      rw [useAll, bind_of_ok (attempt_of_ok ran)]
      exact ih (tells.able able) (tells.ended.2 supplied)
    | error failure mid =>
      rw [ran] at tells
      cases failure with
      | fault fault =>
        rw [useAll, bind_of_ok (attempt_of_fault ran)]
        exact ih (tells.able_of_fault able) (tells.ended.2 supplied)
      | trap trap =>
        obtain ⟨rfl, exhausted⟩ := tells.supplied supplied
        rw [useAll, bind_of_error (attempt_of_trap ran)]
        exact .inr ⟨mid, rfl, exhausted⟩

/-- A supplied device starts over every store. -/
theorem start_any_store {board : Board} (rest : board.AtRest) (vault : σ) :
    ∃ booted, start board vault = .ok () booted ∧ booted.Able ∧ booted.board.charge = none := by
  have blank : (initial board vault).Able := ⟨rest.quiet, Holding.fits_blank _⟩
  obtain ⟨turns, boots, tells⟩ := told_boot rest.quiet vault
  unfold start
  cases ran : boot (initial board vault) with
  | ok _ booted =>
    rw [ran] at tells
    exact ⟨booted, rfl, tells.able blank, tells.ended.2 rest.supplied⟩
  | error failure after =>
    rw [ran] at tells boots
    cases boots.eq_powerLoss
    cases (tells.supplied rest.supplied).1

/-- A device starts over every store, and it can be used in every way until a counter is at its limit:
every slot that has a code hands it out, and a slot that has none is reported. -/
theorem uses_any_store (store : Store) (input : Bytes) (buttons : Nat) (hasKeyboard : Bool) (vault : σ)
    (uses : List Use) :
    ∃ booted, start (.initial store input buttons hasKeyboard) vault = .ok () booted ∧
      ((∃ after, useAll uses booted = .ok () after ∧ Serviceable after) ∨
        ∃ after, useAll uses booted = .error (.trap .counterOverflow) after ∧ after.Exhausted) := by
  obtain ⟨booted, started, able, supplied⟩ :=
    start_any_store (.initial store input buttons hasKeyboard) vault
  refine ⟨booted, started, ?_⟩
  rcases useAll_cases uses able supplied with ⟨after, ran, ableAfter, suppliedAfter⟩ | stopped
  · exact .inl ⟨after, ran, ableAfter.serviceable suppliedAfter⟩
  · exact .inr stopped

end OtpToken.Device
