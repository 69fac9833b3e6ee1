import OtpToken.Proofs.Blocking.Calls
import OtpToken.Proofs.Credential
import OtpToken.Proofs.Storage.Store

/-!
# Restoring credentials

The credential of a slot is what its record stores, and a blank one where there is no
record. When all slots have been restored from a writable store, every slot has a
record, which stores just what was restored, and nothing else has been written
(`loadAll_eq`).
-/

namespace OtpToken

namespace Store

/-- The credential that a store keeps for a slot. -/
def credential? (store : Store) (slot : Slot) : Option Credential :=
  (store.get? (Keystore.recordKey slot)).bind (Credential.ofRecord? slot)

/-- The value under the key of a slot decides which credential it has. -/
theorem credential?_congr {store other : Store} {slot : Slot}
    (same : other.get? (Keystore.recordKey slot) = store.get? (Keystore.recordKey slot)) :
    other.credential? slot = store.credential? slot := by
  rw [credential?, same, credential?]

/-- A record that has been written is what its slot keeps, and other slots keep what they kept. -/
theorem credential?_put {store after : Store} {slot : Slot} {credential : Credential}
    (put : store.put (Keystore.recordKey slot) credential.record = .ok after) (other : Slot) :
    after.credential? other =
      if slot = other then some { credential with digits := slot.digits }
      else store.credential? other := by
  by_cases same : slot = other
  · subst same
    rw [credential?, get?_put put, if_pos rfl, if_pos rfl]
    exact Credential.ofRecord?_record slot credential
  · have apart : Keystore.recordKey slot ≠ Keystore.recordKey other :=
      fun h => same (Keystore.recordKey_injective h)
    rw [if_neg same]
    exact credential?_congr (by rw [get?_put put, if_neg apart])

end Store

namespace Board.Ends

variable {α : Type} {board : Board} {traces : Traces} {result : EStateM.Result Failure Board α}

/-- On a supplied board an action ends with its outcome. -/
theorem eq_ok {value : α} (ends : board.Ends traces (.ok value) result)
    (supplied : board.charge = none) :
    ∃ after, result = .ok value after ∧ board.Continues after ∧ after.traces = traces := by
  cases ends with
  | ok continues left => exact ⟨_, rfl, continues, left⟩
  | cut charged _ _ => exact absurd supplied charged

end Board.Ends

namespace Keystore

open Act BoardAct

variable {board : Board}

/-- What is loaded for a slot is what the store keeps for it; loading leaves no trace. -/
theorem ends_load (ready : board.Ready) (slot : Slot) :
    board.Ends board.traces (.ok (board.store.credential? slot)) (load slot board) := by
  have got := ends_getValue ready Credential.recordSize (recordKey_ne_nil slot) (by decide)
  generalize ran : getValue (recordKey slot) Credential.recordSize board = result at got
  have missing : ∀ code, (code = .noSupport ∨ code = .size) →
      board.Ends board.traces (.error (.storage code)) result →
      board.Ends board.traces (.ok none) (load slot board) := by
    intro code known ends
    unfold load
    cases ends with
    | fault continues left =>
      rw [bind_of_ok (attempt_of_fault ran)]
      rcases known with rfl | rfl <;> exact .ok continues left
    | cut charged spent left =>
      rw [bind_of_error (attempt_of_trap ran)]
      exact .cut charged spent left
  cases found : board.store.get? (recordKey slot) with
  | none =>
    rw [found] at got
    rw [Store.credential?, found]
    exact missing .noSupport (.inl rfl) got
  | some value =>
    rw [found] at got
    rw [Store.credential?, found]
    by_cases fits : value.length ≤ Credential.recordSize
    · simp only [if_pos fits] at got
      unfold load
      cases got with
      | ok continues left =>
        rw [bind_of_ok (attempt_of_ok ran)]
        exact .ok continues left
      | cut charged spent left =>
        rw [bind_of_error (attempt_of_trap ran)]
        exact .cut charged spent left
    · simp only [if_neg fits] at got
      have noRecord : Credential.ofRecord? slot value = none := by
        refine dif_neg fun valid => fits ?_
        exact Nat.le_of_eq valid.1
      rw [Option.bind_some, noRecord]
      exact missing .size (.inr rfl) got

/-- With a supply that does not fail, loading a slot hands out what the store keeps for it, and
changes nothing there. -/
theorem load_eq (ready : board.Ready) (supplied : board.charge = none) (slot : Slot) :
    ∃ after, load slot board = .ok (board.store.credential? slot) after ∧ board.Continues after ∧
      after.traces = board.traces := (ends_load ready slot).eq_ok supplied

/-- With a supply that does not fail, saving a credential that the store takes leaves the store that
has taken it. -/
theorem save_eq (ready : board.Ready) (supplied : board.charge = none) {slot : Slot}
    {credential : Credential} {store : Store}
    (put : board.store.put (recordKey slot) credential.record = .ok store) :
    ∃ after, save slot credential board = .ok () after ∧ board.Continues after ∧
      after.traces = { board.traces with store := store } := by
  have written := ends_setValue ready credential.record (recordKey_ne_nil slot)
  rw [put] at written
  exact written.eq_ok supplied

/-- What restoring some slots comes to: they have what the store kept for them, or are blank; the
others stay, and so does what the store keeps apart from the records of slots that had none. -/
structure Restores (store : Store) (before : Restored) (slots : List Slot) (restored : Restored)
    (later : Store) : Prop where
  writable : later.Writable
  credentials : ∀ slot ∈ slots, restored.credentials.get slot =
    (store.credential? slot).getD (.blank slot)
  untouched : ∀ slot ∉ slots, restored.credentials.get slot = before.credentials.get slot
  formatted : restored.formatted =
    before.formatted ++ slots.filter fun slot => (store.credential? slot).isNone
  stored : ∀ slot ∈ slots, later.credential? slot = some (restored.credentials.get slot)
  others : ∀ key, (∀ slot ∈ slots, store.credential? slot = none → recordKey slot ≠ key) →
    later.get? key = store.get? key

/-- A credential that is put in a slot is in that slot and in no other. -/
theorem get_set {credentials : Vector Credential slotCount} (slot other : Slot)
    (credential : Credential) :
    (credentials.set slot.val credential slot.isLt).get other =
      if slot = other then credential else credentials.get other := by
  change (credentials.set slot.val credential slot.isLt)[other.val] = _
  rw [Vector.getElem_set]
  simp only [Fin.ext_iff]
  rfl

/-- With a supply that does not fail and a writable store, restoring a slot ends, and leaves the
slot with a credential. -/
theorem restore_eq (ready : board.Ready) (supplied : board.charge = none)
    (writable : board.store.Writable) (before : Restored) (slot : Slot) :
    ∃ restored after, restore before slot board = .ok restored after ∧ board.Continues after ∧
      after.traces = { board.traces with store := after.store } ∧
      Restores board.store before [slot] restored after.store := by
  obtain ⟨mid, loaded, continues, left⟩ := load_eq ready supplied slot
  have store : mid.store = board.store := congrArg Traces.store left
  cases kept : board.store.credential? slot with
  | some credential =>
    rw [kept] at loaded
    refine ⟨_, mid, bind_of_ok (attempt_of_ok loaded), continues, ?_, ?_⟩
    · rw [left, store]
      rfl
    · rw [store]
      refine ⟨writable, ?_, ?_, by simp [kept], ?_, fun _ _ => rfl⟩
      · intro other member
        rw [List.mem_singleton.mp member, kept]
        simp only [get_set, if_true, Option.getD_some]
      · intro other apart
        have different : slot ≠ other := fun same => apart (List.mem_singleton.mpr same.symm)
        simp only [get_set, if_neg different]
      · intro other member
        rw [List.mem_singleton.mp member, kept]
        simp only [get_set, if_true]
  | none =>
    obtain ⟨later, put, writableLater, frame⟩ :=
      writable.put (recordKey slot) (Credential.blank slot).record
    have putMid : mid.store.put (recordKey slot) (Credential.blank slot).record = .ok later := by
      rw [store, put]
    obtain ⟨after, saved, further, leftAfter⟩ :=
      save_eq continues.ready (continues.supplied supplied) putMid
    have storeAfter : after.store = later := congrArg Traces.store leftAfter
    rw [kept] at loaded
    refine ⟨_, after, (bind_of_ok (attempt_of_ok loaded)).trans
      (bind_of_ok (attempt_of_ok saved)), continues.trans further, ?_, ?_⟩
    · rw [leftAfter, left, storeAfter]
    · rw [storeAfter]
      refine ⟨writableLater, ?_, ?_, by simp [kept], ?_, ?_⟩
      · intro other member
        rw [List.mem_singleton.mp member, kept]
        simp only [get_set, if_true, Option.getD_none]
      · intro other apart
        have different : slot ≠ other := fun same => apart (List.mem_singleton.mpr same.symm)
        simp only [get_set, if_neg different]
      · intro other member
        rw [List.mem_singleton.mp member, Store.credential?_put put, if_pos rfl]
        simp only [get_set, if_true]
        rfl
      · intro key apart
        rw [frame, if_neg (apart slot (List.mem_singleton_self slot) kept)]

/-- Restoring goes slot by slot. -/
theorem Restores.append {store mid later : Store} {before between restored : Restored}
    {slot : Slot} {slots : List Slot} (fresh : slot ∉ slots)
    (first : Restores store before [slot] between mid)
    (rest : Restores mid between slots restored later) :
    Restores store before (slot :: slots) restored later := by
  have same : ∀ other ∈ slots, mid.credential? other = store.credential? other := by
    intro other member
    refine Store.credential?_congr (first.others _ fun one single _ same => fresh ?_)
    rw [List.mem_singleton.mp single] at same
    rw [recordKey_injective same]
    exact member
  have kept : later.get? (recordKey slot) = mid.get? (recordKey slot) := by
    refine rest.others _ fun other member _ same => fresh ?_
    rw [← recordKey_injective same]
    exact member
  have own := rest.untouched slot fresh
  refine ⟨rest.writable, ?_, ?_, ?_, ?_, ?_⟩
  · intro other member
    rcases List.mem_cons.mp member with rfl | member
    · rw [own, first.credentials _ (List.mem_singleton_self _)]
    · rw [rest.credentials other member, same other member]
  · intro other apart
    rw [List.mem_cons, not_or] at apart
    rw [rest.untouched other apart.2, first.untouched other (by simpa using apart.1)]
  · rw [rest.formatted, first.formatted, List.append_assoc, List.filter_congr
      fun other member => congrArg Option.isNone (same other member), ← List.filter_append]
    rfl
  · intro other member
    rcases List.mem_cons.mp member with rfl | member
    · rw [Store.credential?_congr kept, own]
      exact first.stored _ (List.mem_singleton_self _)
    · exact rest.stored other member
  · intro key apart
    rw [rest.others key fun other member none => apart other (List.mem_cons_of_mem _ member)
      ((same other member) ▸ none)]
    exact first.others key fun other single none => apart other
      (List.mem_singleton.mp single ▸ List.mem_cons_self) none

/-- Every slot is restored, and has a record then. -/
theorem loadAll_eq (ready : board.Ready) (supplied : board.charge = none)
    (writable : board.store.Writable) :
    ∃ restored after, loadAll board = .ok restored after ∧ board.Continues after ∧
      after.traces = { board.traces with store := after.store } ∧
      Restores board.store ⟨Vector.ofFn Credential.blank, []⟩ Slot.all restored after.store := by
  have each : ∀ (slots : List Slot), slots.Nodup → ∀ (before : Restored) (board : Board),
      board.Ready → board.charge = none → board.store.Writable →
      ∃ restored after, slots.foldlM restore before board = .ok restored after ∧
        board.Continues after ∧ after.traces = { board.traces with store := after.store } ∧
        Restores board.store before slots restored after.store := by
    intro slots
    induction slots with
    | nil =>
      intro _ before board ready supplied writable
      exact ⟨before, board, rfl, .refl ready, rfl, writable, by simp, fun _ _ => rfl, by simp,
        by simp, fun _ _ => rfl⟩
    | cons slot slots ih =>
      intro distinct before board ready supplied writable
      obtain ⟨fresh, distinct⟩ := List.nodup_cons.mp distinct
      obtain ⟨between, mid, ran, continues, left, first⟩ :=
        restore_eq ready supplied writable before slot
      obtain ⟨restored, after, rest, further, leftAfter, last⟩ :=
        ih distinct between mid continues.ready (continues.supplied supplied) first.writable
      refine ⟨restored, after, ?_, continues.trans further, ?_, first.append fresh last⟩
      · rw [List.foldlM_cons, bind_of_ok ran, rest]
      · rw [leftAfter, left]
  exact each Slot.all (List.nodup_finRange _) _ board ready supplied writable

end Keystore

end OtpToken
