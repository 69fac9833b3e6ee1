import OtpToken.Storage.Store

/-!
# Writable stores

A store is writable if no sequence of writes is ever refused. Such a store takes
every value, stays writable, and then gives that value back for its key and what it
gave before for every other key (`Writable.put`). Of any store it can be told whether
it takes a value for a key (`put_of_takes`, `put_of_not_takes`).
-/

namespace OtpToken.Store

/-- The store after a sequence of writes, unless one is refused. -/
def putAll (store : Store) (writes : List (Bytes × Bytes)) : Except StoreError Store :=
  writes.foldlM (fun store (key, value) => store.put key value) store

/-- No sequence of writes is refused. -/
def Writable (store : Store) : Prop := ∀ writes, ∃ after, store.putAll writes = .ok after

/-- The first of several writes is made before the others. -/
theorem putAll_cons (store : Store) (write : Bytes × Bytes) (writes : List (Bytes × Bytes)) :
    store.putAll (write :: writes) =
      (store.put write.1 write.2).bind fun after => after.putAll writes := rfl

/-- A write changes the value under its key, and no other. -/
theorem get?_put {store after : Store} {key value : Bytes} (put : store.put key value = .ok after)
    (other : Bytes) :
    after.get? other = if key = other then some value else store.get? other := by
  unfold Store.put at put
  split at put
  next => cases put
  next =>
    split at put <;> cases put
    exact Table.get?_insert key other value store.table

/-- A write that is accepted is counted. -/
theorem writes_put {store after : Store} {key value : Bytes}
    (put : store.put key value = .ok after) : after.writes = store.writes + 1 := by
  unfold Store.put at put
  split at put
  next => cases put
  next => split at put <;> cases put; rfl

/-- A store takes a value for a key if it is not read-only and its medium can be written. -/
def Takes (store : Store) (key value : Bytes) : Prop :=
  store.readOnly = false ∧ (flush? (store.table.insert key value) store.medium).isSome

instance (store : Store) (key value : Bytes) : Decidable (store.Takes key value) :=
  inferInstanceAs (Decidable (_ ∧ _))

/-- A store in memory takes every write unless it is read-only. -/
theorem takes_of_memory {store : Store} (memory : store.medium = .memory) (key value : Bytes) :
    store.Takes key value ↔ store.readOnly = false := by
  simp [Takes, memory, flush?]

/-- The store after a write is as before but for one key, and has counted the write. -/
structure Enters (store : Store) (key value : Bytes) (after : Store) : Prop where
  own : after.get? key = some value
  others : ∀ other, other ≠ key → after.get? other = store.get? other
  writes : after.writes = store.writes + 1

/-- A value that is taken becomes the value of its key. -/
theorem put_of_takes {store : Store} {key value : Bytes} (takes : store.Takes key value) :
    ∃ after, store.put key value = .ok after ∧ store.Enters key value after := by
  obtain ⟨unlocked, written⟩ := takes
  obtain ⟨medium, flushed⟩ := Option.isSome_iff_exists.mp written
  have put : store.put key value = .ok { store with
      table := store.table.insert key value, medium := medium, writes := store.writes + 1 } := by
    simp [Store.put, unlocked, flushed]
  refine ⟨_, put, ?_, fun other apart => ?_, writes_put put⟩
  · rw [get?_put put, if_pos rfl]
  · rw [get?_put put, if_neg apart.symm]

/-- A write that the store does not take is refused. -/
theorem put_of_not_takes {store : Store} {key value : Bytes} (refuses : ¬store.Takes key value) :
    ∃ error, store.put key value = .error error := by
  unfold Store.put
  split
  next => exact ⟨_, rfl⟩
  next unlocked =>
    split
    next medium flushed =>
      exact absurd ⟨by simpa using unlocked, by rw [flushed]; rfl⟩ refuses
    next => exact ⟨_, rfl⟩

/-- A writable store takes a value and stays writable. -/
theorem Writable.put {store : Store} (writable : store.Writable) (key value : Bytes) :
    ∃ after, store.put key value = .ok after ∧ after.Writable ∧
      ∀ other, after.get? other = if key = other then some value else store.get? other := by
  obtain ⟨_, one⟩ := writable [(key, value)]
  rw [putAll_cons] at one
  cases put : store.put key value with
  | error error =>
    rw [put] at one
    cases one
  | ok after =>
    refine ⟨after, rfl, fun writes => ?_, get?_put put⟩
    obtain ⟨last, all⟩ := writable ((key, value) :: writes)
    rw [putAll_cons, put] at all
    exact ⟨last, all⟩

/-- A store is writable if it takes every value, and does so again afterwards. -/
theorem writable_of_invariant (Invariant : Store → Prop)
    (takes : ∀ store, Invariant store → ∀ key value,
      ∃ after, store.put key value = .ok after ∧ Invariant after)
    {store : Store} (holds : Invariant store) : store.Writable := by
  intro writes
  induction writes generalizing store with
  | nil => exact ⟨store, rfl⟩
  | cons write writes ih =>
    obtain ⟨after, put, holds⟩ := takes store holds write.1 write.2
    rw [putAll_cons, put]
    exact ih holds

/-- A store in memory is writable unless it is read-only. -/
theorem writable_of_memory {store : Store} (memory : store.medium = .memory)
    (unlocked : store.readOnly = false) : store.Writable := by
  refine writable_of_invariant (fun store => store.medium = .memory ∧ store.readOnly = false) ?_
    ⟨memory, unlocked⟩
  rintro store ⟨memory, unlocked⟩ key value
  refine ⟨{ store with
    table := store.table.insert key value, medium := .memory, writes := store.writes + 1 }, ?_, rfl,
    unlocked⟩
  simp [Store.put, unlocked, memory, flush?]

end OtpToken.Store
