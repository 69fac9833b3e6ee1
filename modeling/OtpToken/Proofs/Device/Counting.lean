import OtpToken.Proofs.Device.Serving

/-!
# Counters from press to press

A press is told in few turns, and only an emission uses up a counter, once (`Brief`). So no counter
rises by more than one from one press to the next (`counter_handleNext_le`), and a press is only
stopped where the counter of a configured slot was at its limit before (`exhausted_of_overflow`).
-/

namespace OtpToken

section

variable {start holding later : Holding} {turns part : List Turn}

/-- A turn that is no start raises a counter by no more than its use of it. -/
theorem counter_le_of_take {turn : Turn} (taken : turn.take holding = some later)
    (runs : turn ≠ .booted ∧ turn ≠ .restored) (slot : Slot) :
    (later.memory.get slot).counter.toNat ≤
      (holding.memory.get slot).counter.toNat + (turn.uses slot).toNat := by
  by_cases renews : turn.Renews slot
  · cases renews with
    | installed secret =>
      obtain ⟨credential, accepted, rfl⟩ := Turn.take_installed taken
      have fresh : credential.counter = 0 := by
        unfold Credential.install at accepted
        split at accepted <;> cases accepted
        rfl
      rw [Holding.get_remember, if_pos rfl, fresh]
      exact Nat.zero_le _
    | booted => exact absurd rfl runs.1
    | restored => exact absurd rfl runs.2
  · exact Nat.le_of_eq (counter_of_take taken renews)

/-- Turns without a start, of which one at most uses up a counter. -/
structure Brief (turns : List Turn) : Prop where
  runs : ∀ turn ∈ turns, turn ≠ .booted ∧ turn ≠ .restored
  once : ∀ slot, turns.countP (Turn.uses slot) ≤ 1

namespace Brief

/-- No turns are brief. -/
theorem nil : Brief [] := ⟨by simp, by simp⟩

/-- The first turns of brief ones are brief. -/
theorem cut (brief : Brief turns) (before : part <+: turns) : Brief part :=
  ⟨fun turn member => brief.runs turn (before.subset member),
    fun slot => Nat.le_trans (before.sublist.countP_le) (brief.once slot)⟩

/-- To use up a counter and write the record is brief. -/
theorem used {slot : Slot} {write : Turn} (counter : UInt64) (writes : write.Writes slot) :
    Brief [.used slot counter, write] := by
  refine ⟨?_, fun other => ?_⟩
  · cases writes <;> simp
  · cases writes <;> by_cases own : slot = other <;> simp [Turn.uses, own]

/-- To install a secret and write the record is brief. -/
theorem installed {slot : Slot} {write : Turn} (secret : Sealed) (writes : write.Writes slot) :
    Brief [.installed slot secret, write] := by
  cases writes <;> exact ⟨by simp, by simp [Turn.uses]⟩

/-- To clear a slot in memory is brief. -/
theorem cleared (slot : Slot) : Brief [.cleared slot] := ⟨by simp, by simp [Turn.uses]⟩

/-- No counter rises by more than one along such turns. -/
theorem counter_le (brief : Brief turns) (replayed : replay turns start = some later)
    (slot : Slot) :
    (later.memory.get slot).counter.toNat ≤ (start.memory.get slot).counter.toNat + 1 := by
  suffices total : (later.memory.get slot).counter.toNat ≤
      (start.memory.get slot).counter.toNat + turns.countP (Turn.uses slot) by
    have once := brief.once slot
    omega
  have runs := brief.runs
  clear brief
  induction turns generalizing start with
  | nil => cases replayed; exact Nat.le_refl _
  | cons turn turns ih =>
    obtain ⟨mid, taken, rest⟩ := Option.bind_eq_some_iff.mp replayed
    have first := counter_le_of_take taken (runs turn List.mem_cons_self) slot
    have others := ih rest fun one member => runs one (List.mem_cons_of_mem _ member)
    rw [List.countP_cons]
    cases used : turn.uses slot <;> rw [used] at first <;> simp at first ⊢ <;> omega

end Brief

end

namespace Device

open Act

variable {σ : Type} {device : Device σ} {number : Nat} {turns : List Turn}

/-- Programming a secret is brief. -/
theorem Programs.brief {outcome : Except Failure Unit} (programs : Programs number turns outcome) :
    Brief turns := by
  cases programs with
  | installed => exact .installed _ (.saved _)
  | unsaved => exact .installed _ .missed
  | cleared => exact .cleared _
  | unnamed => exact .nil
  | @cut slot secret => exact (Brief.installed secret .missed).cut ⟨[.missed slot], rfl⟩

/-- Asking for a secret is brief. -/
theorem Asks.brief {outcome : Except Failure Unit} (asks : Asks number turns outcome) :
    Brief turns := by
  cases asks with
  | entered programs => exact programs.brief
  | nothing | unread | cut => exact .nil

variable [Vault σ]

/-- Emitting a code is brief. -/
theorem Emits.brief {vault : σ} {memory : Vector Credential slotCount}
    {outcome : Except Failure Code} (emits : Emits vault memory number turns outcome) :
    Brief turns := by
  cases emits with
  | emitted _ _ _ writes => exact .used _ writes
  | refused | unnamed | limit => exact .nil
  | cut _ writes part => exact (Brief.used _ writes).cut part

/-- Meeting the next press is brief. -/
theorem Meets.brief {watch : ButtonWatch} {outcome : Except Failure Unit}
    (meets : Meets watch device turns outcome) : Brief turns := by
  cases meets with
  | missed | cut => exact .nil
  | met _ attends =>
    cases attends with
    | short _ emits => exact emits.brief
    | long _ asks => exact asks.brief

/-- A press that is stopped at a limit has not changed anything yet. -/
theorem Meets.eq_nil_of_overflow {watch : ButtonWatch}
    (meets : Meets watch device turns (.error (.trap .counterOverflow))) : turns = [] := by
  generalize stopped : (Except.error (.trap .counterOverflow) : Except Failure Unit) = outcome
    at meets
  cases meets with
  | missed => rfl
  | cut => rfl
  | met _ attends =>
    cases attends with
    | short _ emits => cases emits <;> first | rfl | cases stopped
    | long _ asks =>
      cases asks with
      | entered programs => cases programs <;> cases stopped
      | nothing | unread | cut => rfl

/-- From press to press no counter rises by more than one. -/
theorem counter_handleNext_le (able : device.Able) (watch : ButtonWatch) (slot : Slot) :
    ((ending (handleNext watch device)).credentials.get slot).counter.toNat ≤
      (device.credentials.get slot).counter.toNat + 1 := by
  obtain ⟨turns, meets, tells⟩ := told_handleNext able watch
  exact meets.brief.counter_le tells.replays slot

/-- A press that is stopped at a limit finds the counter there. -/
theorem exhausted_of_overflow {after : Device σ} (able : device.Able) {watch : ButtonWatch}
    (stopped : handleNext watch device = .error (.trap .counterOverflow) after)
    (exhausted : after.Exhausted) : device.Exhausted := by
  obtain ⟨turns, meets, tells⟩ := told_handleNext able watch
  rw [stopped] at meets tells
  obtain rfl := meets.eq_nil_of_overflow
  have same : device.credentials = after.credentials :=
    congrArg Holding.memory (Option.some.inj tells.replays)
  rwa [Exhausted, same]

end Device

end OtpToken
