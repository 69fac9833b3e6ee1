import OtpToken.Proofs.Device.Telling

/-!
# Starts told in turns

A device that starts restores its slots one by one, and writes a blank record for each
of them that has none; it has in memory then what its store keeps, whatever has become
of these writes (`Loads.refilled`). So its start is told as the writes, the restoring of
what is in memory, and the programming of the default secret if the first slot had no
record (`told_boot`).
-/

namespace OtpToken

open Act

/-- How one slot is restored: its record is found, or a blank one is written. -/
inductive Recalls (kept : Option Credential) (slot : Slot) (before : Restored) :
    List Turn → Except Failure Restored → Prop
  | found {credential : Credential} (found : kept = some credential) :
      Recalls kept slot before []
        (.ok { before with credentials := before.credentials.set slot.val credential slot.isLt })
  | formatted {write : Turn} (missing : kept = none) (writes : write.Writes slot) :
      Recalls kept slot before [write]
        (.ok ⟨before.credentials.set slot.val (.blank slot) slot.isLt, before.formatted ++ [slot]⟩)
  | cut : Recalls kept slot before [] (.error (.trap .powerLoss))

/-- How slots are restored, one after the other. -/
inductive Loads (kept : Slot → Option Credential) :
    List Slot → Restored → List Turn → Except Failure Restored → Prop
  | nil {restored : Restored} : Loads kept [] restored [] (.ok restored)
  | cons {slot : Slot} {slots : List Slot} {before mid : Restored} {turns more : List Turn}
      {outcome : Except Failure Restored} (first : Recalls (kept slot) slot before turns (.ok mid))
      (rest : Loads kept slots mid more outcome) :
      Loads kept (slot :: slots) before (turns ++ more) outcome
  | stopped {slot : Slot} {slots : List Slot} {before : Restored} {turns : List Turn}
      {failure : Failure} (first : Recalls (kept slot) slot before turns (.error failure)) :
      Loads kept (slot :: slots) before turns (.error failure)

/-- Nothing but a loss of power ends the restoring of slots early. -/
theorem Loads.eq_powerLoss {kept : Slot → Option Credential} {slots : List Slot} {before : Restored}
    {turns : List Turn} {failure : Failure} (loads : Loads kept slots before turns (.error failure)) :
    failure = .trap .powerLoss := by
  generalize ended : (Except.error failure : Except Failure Restored) = outcome at loads
  induction loads with
  | nil => cases ended
  | cons _ _ ih => exact ih ended
  | stopped first =>
    cases ended
    cases first
    rfl

/-- What restoring some slots comes to: what is handed out for them is what the store keeps then, and
unless a write fails it keeps a record for each. The other slots stay as they are. -/
structure Refilled (slots : List Slot) (before restored : Restored) (turns : List Turn)
    (holding later : Holding) : Prop where
  memory : later.memory = holding.memory
  recalled : ∀ slot ∈ slots, restored.credentials.get slot =
    (later.store.credential? slot).getD (.blank slot)
  recorded : ∀ slot ∈ slots, .missed slot ∉ turns →
    ∃ credential, later.store.credential? slot = some credential
  apart : ∀ slot ∉ slots, restored.credentials.get slot = before.credentials.get slot
  stored : ∀ slot ∉ slots, later.stored slot = holding.stored slot

section

variable {slot : Slot} {slots : List Slot} {before mid restored : Restored}
  {turns more : List Turn} {holding between later : Holding}

/-- Restoring one slot refills it. -/
theorem Recalls.refilled {kept : Option Credential}
    (recalls : Recalls kept slot before turns (.ok restored))
    (replayed : replay turns holding = some later) (blank : holding.memory.get slot = .blank slot)
    (same : holding.store.credential? slot = kept) :
    Refilled [slot] before restored turns holding later := by
  have away : ∀ other, other ∉ [slot] → slot ≠ other := by
    intro other apart own
    exact apart (List.mem_singleton.mpr own.symm)
  cases recalls with
  | @found credential found =>
    cases replayed
    refine ⟨rfl, fun other own => ?_, fun other own _ => ?_, fun other apart => ?_, fun _ _ => rfl⟩
    · rw [List.mem_singleton.mp own, same, found, Keystore.get_set, if_pos rfl]
      rfl
    · rw [List.mem_singleton.mp own, same, found]
      exact ⟨credential, rfl⟩
    · rw [Keystore.get_set, if_neg (away other apart)]
  | @formatted write missing writes =>
    rw [replay_cons] at replayed
    obtain ⟨_, taken, ended⟩ := Option.bind_eq_some_iff.mp replayed
    cases ended
    have stored := stored_of_take taken
    cases writes with
    | missed =>
      cases Turn.take_missed taken
      refine ⟨rfl, fun other own => ?_, fun other own wrote => ?_, fun other apart => ?_,
        fun _ _ => rfl⟩
      · rw [List.mem_singleton.mp own, same, missing, Keystore.get_set, if_pos rfl]
        rfl
      · rw [List.mem_singleton.mp own] at wrote
        exact absurd (List.mem_singleton_self _) wrote
      · rw [Keystore.get_set, if_neg (away other apart)]
    | saved credential =>
      obtain ⟨held, store, put, rfl⟩ := Turn.take_saved taken
      rw [blank] at held
      subst held
      have found : store.credential? slot = some (.blank slot) := by
        rw [Store.credential?_put put, if_pos rfl]
        rfl
      refine ⟨rfl, fun other own => ?_, fun other own _ => ?_, fun other apart => ?_,
        fun other apart => ?_⟩
      · rw [List.mem_singleton.mp own, found, Keystore.get_set, if_pos rfl]
        rfl
      · rw [List.mem_singleton.mp own]
        exact ⟨_, found⟩
      · rw [Keystore.get_set, if_neg (away other apart)]
      · rw [stored, Turn.saved?, if_neg (away other apart)]
        rfl

/-- What is stored for a slot decides which credential it has. -/
theorem Holding.credential?_congr {slot : Slot} (same : later.stored slot = holding.stored slot) :
    later.store.credential? slot = holding.store.credential? slot := Store.credential?_congr same

/-- Slots that are refilled after another are refilled together with it. -/
theorem Refilled.append (fresh : slot ∉ slots)
    (first : Refilled [slot] before mid turns holding between)
    (rest : Refilled slots mid restored more between later) :
    Refilled (slot :: slots) before restored (turns ++ more) holding later := by
  have own := Holding.credential?_congr (rest.stored slot fresh)
  refine ⟨rest.memory.trans first.memory, ?_, ?_, fun other apart => ?_, fun other apart => ?_⟩
  · intro other member
    rcases List.mem_cons.mp member with rfl | member
    · rw [rest.apart _ fresh, first.recalled _ (List.mem_singleton_self _), own]
    · exact rest.recalled other member
  · intro other member wrote
    rw [List.mem_append, not_or] at wrote
    rcases List.mem_cons.mp member with rfl | member
    · rw [own]
      exact first.recorded _ (List.mem_singleton_self _) wrote.1
    · exact rest.recorded other member wrote.2
  · rw [List.mem_cons, not_or] at apart
    rw [rest.apart other apart.2, first.apart other (by simpa using apart.1)]
  · rw [List.mem_cons, not_or] at apart
    rw [rest.stored other apart.2, first.stored other (by simpa using apart.1)]

/-- Restoring slots one after the other refills all of them. -/
theorem Loads.refilled {kept : Slot → Option Credential}
    (loads : Loads kept slots before turns (.ok restored))
    (replayed : replay turns holding = some later)
    (blank : ∀ slot ∈ slots, holding.memory.get slot = .blank slot)
    (same : ∀ slot ∈ slots, holding.store.credential? slot = kept slot) (distinct : slots.Nodup) :
    Refilled slots before restored turns holding later := by
  generalize ended : (Except.ok restored : Except Failure Restored) = outcome at loads
  induction loads generalizing holding with
  | nil =>
    cases ended
    cases replayed
    exact ⟨rfl, by simp, by simp, fun _ _ => rfl, fun _ _ => rfl⟩
  | @cons slot slots before mid turns more outcome first _ ih =>
    obtain ⟨fresh, distinct⟩ := List.nodup_cons.mp distinct
    rw [replay_append] at replayed
    obtain ⟨between, one, rest⟩ := Option.bind_eq_some_iff.mp replayed
    have single := first.refilled one (blank slot List.mem_cons_self) (same slot List.mem_cons_self)
    refine single.append fresh
      (ih rest (fun other member => ?_) (fun other member => ?_) distinct ended)
    · rw [single.memory]
      exact blank other (List.mem_cons_of_mem _ member)
    · have away : other ∉ [slot] := by
        intro own
        exact fresh (List.mem_singleton.mp own ▸ member)
      rw [Holding.credential?_congr (single.stored other away)]
      exact same other (List.mem_cons_of_mem _ member)
  | stopped => cases ended

end

namespace Device

variable {σ α β : Type} {device mid : Device σ}

/-- One action after another on the board is one on the device after another. -/
theorem onBoard_bind (action : BoardAct α) (next : α → BoardAct β) :
    (onBoard (action >>= next) : DeviceAct σ β) =
      onBoard action >>= fun value => onBoard (next value) := by
  funext device
  cases ran : action device.board with
  | ok value board =>
    have first : (onBoard action : DeviceAct σ α) device =
        .ok value { device with board := board } := by
      rw [onBoard, ran]
    rw [bind_of_ok first, onBoard, bind_of_ok ran]
    rfl
  | error failure board =>
    have first : (onBoard action : DeviceAct σ α) device =
        .error failure { device with board := board } := by
      rw [onBoard, ran]
    rw [bind_of_error first, onBoard, bind_of_error ran]

/-- To attempt an action on the board is to attempt it on the device. -/
theorem onBoard_attempt (action : BoardAct α) :
    (onBoard (attempt action) : DeviceAct σ (Except Fault α)) = attempt (onBoard action) := by
  funext device
  simp only [onBoard, attempt]
  cases action device.board with
  | ok value board => rfl
  | error failure board => cases failure <;> rfl

/-- A slot without a record gets a blank one, or the store refuses it. -/
theorem told_format (able : device.Able) {slot : Slot}
    (blank : device.credentials.get slot = .blank slot) (before : Restored) :
    Told (Recalls none slot before)
      (onBoard do
        let _ ← attempt (Keystore.save slot (.blank slot))
        return ⟨before.credentials.set slot.val (.blank slot) slot.isLt, before.formatted ++ [slot]⟩)
      device := by
  rw [onBoard_bind, onBoard_attempt]
  refine (told_save able blank).bind_attempt (fun turns _ mid going _ _ ableMid => ?_)
    (fun turns fault mid going _ ableMid => ?_) able fun turns trap going => ?_
  · cases going with
    | saved credential => exact .pure ableMid (.formatted rfl (.saved credential))
  · cases going with
    | missed => exact .pure ableMid (.formatted rfl .missed)
  · cases going
    exact .cut

/-- How the restoring of one slot is told. -/
theorem told_restore (able : device.Able) {slot : Slot}
    (blank : device.credentials.get slot = .blank slot) (before : Restored) :
    Told (Recalls (device.board.store.credential? slot) slot before)
      (onBoard (Keystore.restore before slot)) device := by
  unfold Keystore.restore
  rw [onBoard_bind, onBoard_attempt]
  have ends := Keystore.ends_load able.quiet.ready slot
  refine (Told.onBoard_of_ends [] able ends rfl).bind_attempt
    (fun turns found mid going _ replays ableMid => ?_) (fun turns fault mid going _ _ => ?_) able
    fun turns trap going => ?_
  · cases going with
    | ok same =>
      rw [Except.ok.inj same]
      cases found with
      | some credential => exact .pure ableMid (.found rfl)
      | none =>
        have held : mid.credentials = device.credentials :=
          congrArg Holding.memory (Option.some.inj replays).symm
        exact told_format ableMid (by rw [held, blank]) before
  · cases going with
    | fault same => cases same
  · cases going
    exact .cut

/-- How the restoring of slots is told, as long as they are blank in memory. -/
theorem told_restoreAll (able : device.Able) {kept : Slot → Option Credential} {slots : List Slot}
    (blank : ∀ slot ∈ slots, device.credentials.get slot = .blank slot)
    (same : ∀ slot ∈ slots, device.board.store.credential? slot = kept slot)
    (distinct : slots.Nodup) (before : Restored) :
    Told (Loads kept slots before) (onBoard (slots.foldlM Keystore.restore before)) device := by
  induction slots generalizing device before with
  | nil => exact .pure able .nil
  | cons slot slots ih =>
    obtain ⟨fresh, distinct⟩ := List.nodup_cons.mp distinct
    have own := same slot List.mem_cons_self
    have unset := blank slot List.mem_cons_self
    rw [List.foldlM_cons, onBoard_bind]
    refine (told_restore able unset before).bind ?_ able fun turns failure going =>
      .stopped (own ▸ going)
    intro turns restored mid going _ replays ableMid
    have filled := going.refilled replays unset rfl
    have first : Recalls (kept slot) slot before turns (.ok restored) := own ▸ going
    refine (ih ableMid (fun other member => ?_) (fun other member => ?_) distinct restored).mono
      fun _ _ => .cons first
    · have memory : mid.credentials = device.credentials := filled.memory
      rw [memory, blank other (List.mem_cons_of_mem _ member)]
    · have away : other ∉ [slot] := by
        intro own
        exact fresh (List.mem_singleton.mp own ▸ member)
      have stored := Holding.credential?_congr (filled.stored other away)
      exact stored.trans (same other (List.mem_cons_of_mem _ member))

/-- How an act ends whose fault is reported. -/
def settled : Except Failure Unit → Except Failure Unit
  | .error (.trap trap) => .error (.trap trap)
  | _ => .ok ()

/-- How a start goes: the slots are restored, and the default secret is programmed if there was none
for the first one. -/
inductive Boots (kept : Slot → Option Credential) : List Turn → Except Failure Unit → Prop
  | restored {turns : List Turn} {restored : Restored}
      (loads : Loads kept Slot.all ⟨Vector.ofFn Credential.blank, []⟩ turns (.ok restored))
      (present : Slot.first ∉ restored.formatted) : Boots kept (turns ++ [.restored]) (.ok ())
  | programmed {turns more : List Turn} {restored : Restored} {outcome : Except Failure Unit}
      (loads : Loads kept Slot.all ⟨Vector.ofFn Credential.blank, []⟩ turns (.ok restored))
      (missing : Slot.first ∈ restored.formatted)
      (programs : Programs Slot.first.val more outcome) :
      Boots kept (turns ++ .restored :: more) (settled outcome)
  | stopped {turns : List Turn} {failure : Failure}
      (loads : Loads kept Slot.all ⟨Vector.ofFn Credential.blank, []⟩ turns (.error failure)) :
      Boots kept turns (.error failure)

/-- Slots that are restored without a write that fails have records in the store. -/
theorem inStep_of_loads {holding mid later : Holding} {turns past : List Turn} {restored : Restored}
    (loads : Loads holding.store.credential? Slot.all ⟨Vector.ofFn Credential.blank, []⟩ turns
      (.ok restored))
    (replayed : replay turns (.blank holding.store) = some mid)
    (taken : Turn.restored.take mid = some later) (written : ∀ slot, .missed slot ∉ turns) :
    InStep (past ++ [.restored]) later := by
  have filled := loads.refilled replayed (fun slot _ => Holding.get_blank _ slot) (fun _ _ => rfl)
    (List.nodup_finRange _)
  refine inStep_restored (fun slot => ?_) past taken
  exact filled.recorded slot (List.mem_finRange slot) (written slot)

/-- A start without a write that fails leaves memory and storage in step. -/
theorem Boots.inStep {holding later : Holding} {turns past : List Turn}
    {outcome : Except Failure Unit} (boots : Boots holding.store.credential? turns outcome)
    (runs : goesOn outcome = true) (replayed : replay turns (.blank holding.store) = some later)
    (written : ∀ slot, .missed slot ∉ turns) : InStep (past ++ turns) later := by
  cases boots with
  | @restored turns _ loads =>
    rw [replay_append] at replayed
    obtain ⟨mid, one, rest⟩ := Option.bind_eq_some_iff.mp replayed
    rw [← List.append_assoc]
    refine inStep_of_loads loads one ?_ fun slot missed =>
      written slot (List.mem_append_left _ missed)
    rw [replay_cons] at rest
    obtain ⟨_, taken, ended⟩ := Option.bind_eq_some_iff.mp rest
    cases ended
    exact taken
  | @programmed turns more _ ended loads _ programs =>
    rw [replay_append] at replayed
    obtain ⟨mid, one, rest⟩ := Option.bind_eq_some_iff.mp replayed
    rw [replay_cons] at rest
    obtain ⟨between, taken, rest⟩ := Option.bind_eq_some_iff.mp rest
    have restored : InStep ((past ++ turns) ++ [.restored]) between :=
      inStep_of_loads loads one taken fun slot missed => written slot (List.mem_append_left _ missed)
    have survives : goesOn ended = true := by
      rcases ended with (_ | _) | _
      · rfl
      · cases runs
      · rfl
    have last := programs.whole survives restored rest fun slot missed =>
      written slot (List.mem_append_right _ (List.mem_cons_of_mem _ missed))
    rw [List.append_assoc, List.append_assoc] at last
    exact last
  | stopped loads =>
    rw [loads.eq_powerLoss] at runs
    cases runs

/-- Nothing but a loss of power ends a start early. -/
theorem Boots.eq_powerLoss {kept : Slot → Option Credential} {turns : List Turn} {failure : Failure}
    (boots : Boots kept turns (.error failure)) : failure = .trap .powerLoss := by
  generalize ended : (Except.error failure : Except Failure Unit) = outcome at boots
  cases boots with
  | restored => cases ended
  | programmed _ _ programs => cases programs <;> cases ended; rfl
  | stopped loads =>
    cases ended
    exact loads.eq_powerLoss

variable [Vault σ]

/-- Programming the default secret goes as programming a slot does, and its faults are settled. -/
theorem told_programDefault (able : device.Able) :
    Told (fun turns outcome => ∃ ended, Programs Slot.first.val turns ended ∧ outcome = settled ended)
      programDefault device := by
  have programmed : Told (Programs Slot.first.val)
      (withLight Slot.first (programSecret Slot.first.val defaultSecret)) device :=
    .withLight able fun _ passes => told_programSecret passes.able _ _
  refine programmed.bind_attempt (fun turns _ mid going _ _ ableMid => ?_)
    (fun turns fault mid going _ ableMid => ?_) able fun turns trap going => ⟨_, going, rfl⟩
  · exact .pure ableMid ⟨.ok (), by rw [List.append_nil]; exact going, rfl⟩
  · exact .report ableMid fault ⟨.error (.fault fault), by rw [List.append_nil]; exact going, rfl⟩

/-- How a start is told. -/
theorem told_boot {board : Board} (quiet : board.Quiet) (vault : σ) :
    Told (Boots board.store.credential?) boot (initial board vault) := by
  have able : (initial board vault).Able := ⟨quiet, Holding.fits_blank _⟩
  have distinct : Slot.all.Nodup := List.nodup_finRange _
  have blank : ∀ slot, (initial board vault).credentials.get slot = .blank slot :=
    Holding.get_blank board.store
  refine (told_restoreAll able (fun slot _ => blank slot) (fun _ _ => rfl) distinct _).bind ?_ able
    fun turns failure going => .stopped going
  intro turns restored mid going _ replays ableMid
  have filled := going.refilled replays (fun slot _ => blank slot) (fun _ _ => rfl) distinct
  let after : Device σ := { mid with credentials := restored.credentials }
  have taken : Turn.restored.take mid.holding = some after.holding := by
    have memory : (Vector.ofFn fun slot => (mid.board.store.credential? slot).getD (.blank slot)) =
        restored.credentials := by
      refine Vector.ext fun place bound => ?_
      rw [Vector.getElem_ofFn]
      exact (filled.recalled ⟨place, bound⟩ (List.mem_finRange _)).symm
    exact congrArg (fun memory => some (⟨memory, mid.board.store⟩ : Holding)) memory
  have tells : Tells mid [.restored] (.ok () after) :=
    ⟨replay_of_take taken, ableMid.quiet, id⟩
  have ableAfter := tells.able ableMid
  have modified : (modify fun device => { device with credentials := restored.credentials } :
    DeviceAct σ Unit) mid = .ok () after := rfl
  refine .after ?_ tells modified
  by_cases missing : Slot.first ∈ restored.formatted
  · simp only [if_pos missing]
    refine (told_programDefault ableAfter).mono fun more outcome goes => ?_
    obtain ⟨ended, programs, rfl⟩ := goes
    exact .programmed going missing programs
  · simp only [if_neg missing]
    exact .pure ableAfter (.restored going missing)

end Device

end OtpToken
