import OtpToken.Proofs.Keystore

/-!
# Repairing a store

Where all slots are restored, each one that keeps no credential is formatted, as far as
the store takes its blank record. A writable store takes all of them, and is left alone
otherwise (`Writable.repairs`); a store that takes nothing, or where every slot keeps a
credential already, is left as it is.
-/

namespace OtpToken

namespace Restored

/-- The credentials with a slot restored: it gets what is found for it, or else it is formatted. -/
def enter (found : Slot → Option Credential) (restored : Restored) (slot : Slot) : Restored :=
  match found slot with
  | some credential =>
    { restored with credentials := restored.credentials.set slot.val credential slot.isLt }
  | none =>
    { credentials := restored.credentials.set slot.val (.blank slot) slot.isLt
      formatted := restored.formatted ++ [slot] }

/-- What all slots are restored to: what is found for them, and blank where nothing is. -/
def ofFound (found : Slot → Option Credential) : Restored where
  credentials := Vector.ofFn fun slot => (found slot).getD (.blank slot)
  formatted := Slot.all.filter fun slot => (found slot).isNone

variable {found : Slot → Option Credential}

/-- A slot that is restored gets what is found for it, and the others stay as they are. -/
theorem get_enter (restored : Restored) (slot other : Slot) :
    (restored.enter found slot).credentials.get other =
      if slot = other then (found slot).getD (.blank slot) else restored.credentials.get other := by
  unfold enter
  cases found slot <;> exact Keystore.get_set slot other _

/-- A slot is listed as formatted exactly if nothing is found for it. -/
theorem formatted_enter (restored : Restored) (slot : Slot) :
    (restored.enter found slot).formatted =
      restored.formatted ++ [slot].filter fun slot => (found slot).isNone := by
  unfold enter
  cases here : found slot <;> simp [here]

/-- Slots that are not restored stay as they are. -/
theorem get_foldl_enter_of_notMem {slots : List Slot} {other : Slot} (absent : other ∉ slots)
    (restored : Restored) :
    (slots.foldl (enter found) restored).credentials.get other = restored.credentials.get other := by
  induction slots generalizing restored with
  | nil => rfl
  | cons slot slots ih =>
    have apart : slot ≠ other := fun own => absent (own ▸ List.mem_cons_self)
    have later : other ∉ slots := fun member => absent (List.mem_cons_of_mem _ member)
    rw [List.foldl_cons, ih later, get_enter, if_neg apart]

/-- Each slot that is restored gets what is found for it, or is blank. -/
theorem get_foldl_enter_of_mem {slots : List Slot} {other : Slot} (member : other ∈ slots)
    (restored : Restored) :
    (slots.foldl (enter found) restored).credentials.get other =
      (found other).getD (.blank other) := by
  induction slots generalizing restored with
  | nil => cases member
  | cons slot slots ih =>
    rw [List.foldl_cons]
    by_cases later : other ∈ slots
    · exact ih later _
    · have own : slot = other := ((List.mem_cons.mp member).resolve_right later).symm
      rw [get_foldl_enter_of_notMem later, get_enter, if_pos own, own]

/-- The slots for which nothing is found are listed in their order. -/
theorem formatted_foldl_enter (slots : List Slot) (restored : Restored) :
    (slots.foldl (enter found) restored).formatted =
      restored.formatted ++ slots.filter fun slot => (found slot).isNone := by
  induction slots generalizing restored with
  | nil => simp
  | cons slot slots ih =>
    rw [List.foldl_cons, ih, formatted_enter, List.append_assoc, ← List.filter_append]
    rfl

/-- Slot by slot, all slots are restored. -/
theorem foldl_enter_all (found : Slot → Option Credential) :
    Slot.all.foldl (enter found) ⟨Vector.ofFn Credential.blank, []⟩ = ofFound found := by
  have credentials : (Slot.all.foldl (enter found) ⟨Vector.ofFn Credential.blank, []⟩).credentials =
      (ofFound found).credentials := by
    refine Vector.ext fun place bound => ?_
    have every : (⟨place, bound⟩ : Slot) ∈ Slot.all := List.mem_finRange _
    have entered := @get_foldl_enter_of_mem found _ _ every ⟨Vector.ofFn Credential.blank, []⟩
    exact entered.trans (by simp [ofFound])
  have formatted := @formatted_foldl_enter found Slot.all ⟨Vector.ofFn Credential.blank, []⟩
  generalize Slot.all.foldl (enter found) _ = restored at credentials formatted
  obtain ⟨_, _⟩ := restored
  cases credentials
  cases formatted
  rfl

/-- A slot is restored to what is found for it, or is blank. -/
theorem get_ofFound (slot : Slot) :
    (ofFound found).credentials.get slot = (found slot).getD (.blank slot) :=
  Vector.getElem_ofFn slot.isLt

/-- The slots that are formatted are those for which nothing is found. -/
theorem mem_formatted {slot : Slot} : slot ∈ (ofFound found).formatted ↔ found slot = none := by
  simp [ofFound, Slot.all]

end Restored

namespace Store

variable {store after : Store} {slot other : Slot} {slots : List Slot}

/-- The store with a value under a key, if it takes it. -/
def written (store : Store) (key value : Bytes) : Store := (store.put key value).toOption.getD store

/-- The store with a blank record for a slot that keeps no credential, if it takes it. -/
def mend (store : Store) (slot : Slot) : Store :=
  match store.credential? slot with
  | some _ => store
  | none => store.written (Keystore.recordKey slot) (Credential.blank slot).record

/-- The store when all slots have been restored. -/
def repaired (store : Store) : Store := Slot.all.foldl mend store

/-- A value that the store takes is written. -/
theorem written_of_ok {key value : Bytes} (put : store.put key value = .ok after) :
    store.written key value = after := by
  rw [written, put]
  rfl

/-- A value that the store refuses leaves it as it is. -/
theorem written_of_error {key value : Bytes} {error : StoreError}
    (refused : store.put key value = .error error) : store.written key value = store := by
  rw [written, refused]
  rfl

/-- Other keys keep their values. -/
theorem get?_written_of_ne {key value apart : Bytes} (different : key ≠ apart) :
    (store.written key value).get? apart = store.get? apart := by
  cases put : store.put key value with
  | ok after => rw [written_of_ok put, get?_put put, if_neg different]
  | error error => rw [written_of_error put]

/-- A slot that keeps a credential needs no mending. -/
theorem mend_of_some {credential : Credential} (kept : store.credential? slot = some credential) :
    store.mend slot = store := by
  rw [mend, kept]

/-- A slot that keeps none gets a blank record. -/
theorem mend_of_none (none : store.credential? slot = none) :
    store.mend slot =
      store.written (Keystore.recordKey slot) (Credential.blank slot).record := by
  rw [mend, none]

/-- To mend a slot leaves the others alone. -/
theorem credential?_mend (apart : slot ≠ other) :
    (store.mend slot).credential? other = store.credential? other := by
  cases kept : store.credential? slot with
  | some credential => rw [mend_of_some kept]
  | none =>
    rw [mend_of_none kept]
    exact credential?_congr (get?_written_of_ne fun same => apart (Keystore.recordKey_injective same))

/-- A store that refuses every blank record stays as it is. -/
theorem foldl_mend_of_refused (slots : List Slot)
    (refused : ∀ key value, ∃ error, store.put key value = .error error) :
    slots.foldl mend store = store := by
  have still : ∀ slot, store.mend slot = store := by
    intro slot
    cases kept : store.credential? slot with
    | some credential => exact mend_of_some kept
    | none =>
      obtain ⟨error, denied⟩ := refused (Keystore.recordKey slot) (Credential.blank slot).record
      exact (mend_of_none kept).trans (written_of_error denied)
  induction slots with
  | nil => rfl
  | cons slot slots ih => rw [List.foldl_cons, still, ih]

/-- A read-only store is left as it is. -/
theorem repaired_of_readOnly (locked : store.readOnly = true) : store.repaired = store :=
  foldl_mend_of_refused Slot.all fun _ _ => ⟨.readOnly, if_pos locked⟩

/-- Where every slot keeps a credential there is nothing to repair. -/
theorem repaired_of_stored (stored : ∀ slot, (store.credential? slot).isSome) :
    store.repaired = store := by
  have still : ∀ slots : List Slot, slots.foldl mend store = store := by
    intro slots
    induction slots with
    | nil => rfl
    | cons slot slots ih =>
      obtain ⟨credential, kept⟩ := Option.isSome_iff_exists.mp (stored slot)
      rw [List.foldl_cons, mend_of_some kept, ih]
  exact still Slot.all

/-- What mending some slots of a writable store comes to. -/
structure Mends (store : Store) (slots : List Slot) (later : Store) : Prop where
  writable : later.Writable
  blank : ∀ slot ∈ slots, store.credential? slot = none →
    later.get? (Keystore.recordKey slot) = some (Credential.blank slot).record
  kept : ∀ key, (∀ slot ∈ slots, store.credential? slot = none → Keystore.recordKey slot ≠ key) →
    later.get? key = store.get? key
  writes : later.writes =
    store.writes + (slots.filter fun slot => (store.credential? slot).isNone).length

/-- A writable store is mended in one slot by one write if that keeps no credential, and by none
otherwise. -/
theorem Writable.mends_one (writable : store.Writable) (slot : Slot) :
    store.Mends [slot] (store.mend slot) := by
  cases kept : store.credential? slot with
  | some credential =>
    rw [mend_of_some kept]
    exact ⟨writable, by simp [kept], fun _ _ => rfl, by simp [kept]⟩
  | none =>
    obtain ⟨after, put, writableAfter, frame⟩ :=
      writable.put (Keystore.recordKey slot) (Credential.blank slot).record
    rw [mend_of_none kept, written_of_ok put]
    refine ⟨writableAfter, ?_, ?_, ?_⟩
    · intro one single _
      rw [List.mem_singleton.mp single, frame, if_pos rfl]
    · intro key apart
      rw [frame, if_neg (apart slot (List.mem_singleton_self slot) kept)]
    · rw [writes_put put, List.filter_singleton, kept]
      rfl

/-- A writable store is mended slot by slot. -/
theorem Writable.mends (writable : store.Writable) (distinct : slots.Nodup) :
    store.Mends slots (slots.foldl mend store) := by
  induction slots generalizing store with
  | nil => exact ⟨writable, by simp, fun _ _ => rfl, by simp⟩
  | cons slot slots ih =>
    obtain ⟨fresh, distinct⟩ := List.nodup_cons.mp distinct
    have first := writable.mends_one slot
    have rest := ih first.writable distinct
    have same : ∀ one ∈ slots, (store.mend slot).credential? one = store.credential? one :=
      fun one member => credential?_mend fun h => fresh (h ▸ member)
    rw [List.foldl_cons]
    refine ⟨rest.writable, ?_, ?_, ?_⟩
    · intro one member none
      rcases List.mem_cons.mp member with rfl | member
      · refine (rest.kept _ fun other inside _ here => fresh ?_).trans
          (first.blank one (List.mem_singleton_self one) none)
        rw [← Keystore.recordKey_injective here]
        exact inside
      · exact rest.blank one member ((same one member).trans none)
    · intro key apart
      refine (rest.kept key fun one member none => ?_).trans (first.kept key fun one single none => ?_)
      · exact apart one (List.mem_cons_of_mem _ member) ((same one member).symm.trans none)
      · exact apart one (List.mem_singleton.mp single ▸ List.mem_cons_self) none
    · rw [rest.writes, first.writes, Nat.add_assoc, ← List.length_append, List.filter_congr
        fun one member => congrArg Option.isNone (same one member), ← List.filter_append]
      rfl

/-- What a repair comes to. Valid records and all other keys keep their bytes, the other slots hold
a blank record, and only these are written. -/
structure Repairs (store later : Store) : Prop where
  records : ∀ (slot : Slot) (value : Bytes), store.get? (Keystore.recordKey slot) = some value →
    Credential.IsRecord value → later.get? (Keystore.recordKey slot) = some value
  others : ∀ key, (∀ slot : Slot, Keystore.recordKey slot ≠ key) → later.get? key = store.get? key
  blank : ∀ slot ∈ (Restored.ofFound store.credential?).formatted,
    later.get? (Keystore.recordKey slot) = some (Credential.blank slot).record
  writes : later.writes =
    store.writes + (Restored.ofFound store.credential?).formatted.length
  writable : later.Writable

/-- Restoring all slots repairs a writable store: what is valid stays, and every other slot gets a
blank record by one write. -/
theorem Writable.repairs (writable : store.Writable) : store.Repairs store.repaired := by
  have mends := writable.mends (List.nodup_finRange slotCount)
  refine ⟨?_, ?_, ?_, mends.writes, mends.writable⟩
  · intro slot value found valid
    refine (mends.kept _ fun one _ none same => ?_).trans found
    rw [Keystore.recordKey_injective same, credential?, found, Option.bind_some,
      Credential.ofRecord?, dif_pos valid] at none
    cases none
  · exact fun key apart => mends.kept key fun slot _ _ => apart slot
  · exact fun slot formatted =>
      mends.blank slot (List.mem_finRange slot) (Restored.mem_formatted.mp formatted)

/-- After a repair every slot keeps what it was restored to. -/
theorem Repairs.stored {later : Store} (repairs : store.Repairs later) (slot : Slot) :
    later.credential? slot = some ((Restored.ofFound store.credential?).credentials.get slot) := by
  rw [Restored.get_ofFound]
  cases kept : store.credential? slot with
  | some credential =>
    obtain ⟨value, found, read⟩ := Option.bind_eq_some_iff.mp kept
    have valid : Credential.IsRecord value := by
      by_contra invalid
      rw [Credential.ofRecord?, dif_neg invalid] at read
      cases read
    rw [credential?, repairs.records slot value found valid]
    exact read
  | none =>
    rw [credential?, repairs.blank slot (Restored.mem_formatted.mpr kept)]
    exact Credential.ofRecord?_record slot _

end Store

end OtpToken
