import OtpToken.Proofs.Act
import OtpToken.Storage.StateFile

/-!
# What state files hold

A state file that was written for a table holds that table and no other, whenever it can be read
(`eq_of_read_write`). Tables that are read or changed are in the order of their keys, so that no
entry of a file comes to nothing.
-/

namespace OtpToken

namespace Table

variable {table front : Table} {entry : Bytes × Bytes} {key value : Bytes}

/-- The entries of a table are in the order of their keys, and no key occurs twice. -/
def Ordered (table : Table) : Prop := table.Pairwise fun first second => first.1 < second.1

/-- An entry of a table after an insertion has the new key or was there before. -/
theorem key_of_mem_insert (member : entry ∈ table.insert key value) :
    entry.1 = key ∨ entry ∈ table := by
  induction table with
  | nil =>
    rw [List.mem_singleton.mp member]
    exact .inl rfl
  | cons first rest ih =>
    unfold insert at member
    split at member
    · rcases List.mem_cons.mp member with rfl | member
      · exact .inl rfl
      · exact .inr (List.mem_cons_of_mem _ member)
    · split at member
      · rcases List.mem_cons.mp member with rfl | member
        · exact .inl rfl
        · exact .inr member
      · rcases List.mem_cons.mp member with rfl | member
        · exact .inr List.mem_cons_self
        · exact (ih member).imp_right (List.mem_cons_of_mem _)

/-- An insertion keeps a table in order. -/
theorem Ordered.insert (ordered : table.Ordered) (key value : Bytes) :
    (table.insert key value).Ordered := by
  induction table with
  | nil => exact List.pairwise_singleton ..
  | cons first rest ih =>
    obtain ⟨later, ordered⟩ := List.pairwise_cons.mp ordered
    unfold Table.insert
    split
    next same =>
      subst same
      exact List.pairwise_cons.mpr ⟨later, ordered⟩
    next apart =>
      split
      next before =>
        refine List.pairwise_cons.mpr ⟨?_, List.pairwise_cons.mpr ⟨later, ordered⟩⟩
        intro other member
        rcases List.mem_cons.mp member with rfl | member
        · exact before
        · exact List.lt_trans before (later other member)
      next notBefore =>
        refine List.pairwise_cons.mpr ⟨?_, ih ordered⟩
        intro other member
        rcases key_of_mem_insert member with own | member
        · rw [own]
          exact (List.le_iff_lt_or_eq.mp (List.not_lt.mp notBefore)).resolve_right apart
        · exact later other member

/-- A key behind all others is put at the end. -/
theorem insert_of_behind (behind : ∀ entry ∈ table, entry.1 < key) :
    table.insert key value = table ++ [(key, value)] := by
  induction table with
  | nil => rfl
  | cons first rest ih =>
    have before := behind first List.mem_cons_self
    have apart : first.1 ≠ key := fun same => List.lt_irrefl key (same ▸ before)
    rw [insert, if_neg apart, if_neg fun after => List.lt_irrefl key (List.lt_trans after before),
      ih fun entry member => behind entry (List.mem_cons_of_mem _ member)]
    rfl

end Table

/-- What is read of a number that has been written is that number, and what stands behind it is
left. -/
theorem Varint.eq_of_readWithin_write {size number value : Nat} {rest left : Bytes}
    (taken : readWithin size (write number ++ rest) = .ok (value, left)) :
    value = number ∧ left = rest := by
  induction number using Nat.strongRecOn generalizing size value with
  | ind number ih =>
    cases size with
    | zero => cases taken
    | succ size =>
      rw [write] at taken
      by_cases small : number < 128
      · have byte : (UInt8.ofNat number).toNat = number :=
          UInt8.toNat_ofNat_of_lt' (Nat.lt_trans small (by decide))
        rw [if_pos small, List.singleton_append, readWithin, byte, if_pos small] at taken
        split at taken <;> cases taken
        exact ⟨rfl, rfl⟩
      · have byte : (UInt8.ofNat (number % 128 + 128)).toNat = number % 128 + 128 :=
          UInt8.toNat_ofNat_of_lt' (Nat.add_lt_add_right (Nat.mod_lt number (by decide)) 128)
        rw [if_neg small, List.cons_append, readWithin, byte, if_neg (by omega)] at taken
        split at taken
        next => cases taken
        next high after more =>
          cases taken
          obtain ⟨rfl, rfl⟩ := ih (number / 128) (by omega) more
          exact ⟨by omega, rfl⟩

namespace StateFile

variable {table front read : Table} {entries : List (Bytes × Bytes)} {bytes rest left value : Bytes}

/-- Bytes that are read from what was written are the ones that were written. -/
theorem eq_of_readBytes_writeBytes
    (taken : readBytes (writeBytes bytes ++ rest) = .ok (value, left)) :
    value = bytes ∧ left = rest := by
  rw [writeBytes, List.append_assoc] at taken
  obtain ⟨⟨length, after⟩, measured, taken⟩ := bind_eq_ok taken
  obtain ⟨rfl, rfl⟩ := Varint.eq_of_readWithin_write measured
  dsimp only at taken
  rw [if_pos (by simp), List.take_left, List.drop_left] at taken
  cases taken
  exact ⟨rfl, rfl⟩

/-- Entries that have been written are read into a table that they stand behind, one after the
other. -/
theorem eq_of_readEntries (ordered : Table.Ordered (front ++ table))
    (taken : readEntries table.length
      (table.flatMap fun entry => writeBytes entry.1 ++ writeBytes entry.2) front = .ok read) :
    read = front ++ table := by
  induction table generalizing front with
  | nil =>
    cases taken
    exact (List.append_nil _).symm
  | cons entry table ih =>
    obtain ⟨key, value⟩ := entry
    have behind : ∀ entry ∈ front, entry.1 < key := fun entry member =>
      (List.pairwise_append.mp ordered).2.2 entry member _ List.mem_cons_self
    rw [List.length_cons, List.flatMap_cons, List.append_assoc] at taken
    obtain ⟨⟨first, after⟩, taken, more⟩ := bind_eq_ok taken
    obtain ⟨rfl, rfl⟩ := eq_of_readBytes_writeBytes taken
    obtain ⟨⟨second, after⟩, taken, more⟩ := bind_eq_ok more
    obtain ⟨rfl, rfl⟩ := eq_of_readBytes_writeBytes taken
    dsimp only at more
    rw [Table.insert_of_behind behind] at more
    have whole : front ++ [(first, second)] ++ table = front ++ (first, second) :: table := by simp
    rw [← whole] at ordered ⊢
    exact ih ordered more

/-- Nothing but a table is read where it has been written. -/
theorem eq_of_read_write (ordered : table.Ordered)
    (taken : StateFile.read (write table) = .ok read) : read = table := by
  obtain ⟨⟨count, after⟩, counted, taken⟩ := bind_eq_ok taken
  obtain ⟨rfl, rfl⟩ := Varint.eq_of_readWithin_write counted
  exact eq_of_readEntries (by rwa [List.nil_append]) taken

/-- The file of an empty table is read as an empty table. -/
theorem read_write_nil : StateFile.read (write []) = .ok [] := by
  have written : write [] = [0] := by simp [write, Varint.write]
  rw [written]
  rfl

/-- Entries that are read after a table in order keep it in order. -/
theorem ordered_of_readEntries {count : Nat} (ordered : front.Ordered)
    (taken : readEntries count bytes front = .ok table) : table.Ordered := by
  induction count generalizing bytes front with
  | zero =>
    cases taken
    exact ordered
  | succ count ih =>
    obtain ⟨⟨key, _⟩, _, taken⟩ := bind_eq_ok taken
    obtain ⟨⟨value, _⟩, _, taken⟩ := bind_eq_ok taken
    exact ih (ordered.insert key value) taken

/-- What is read is in order. -/
theorem ordered_of_read (taken : StateFile.read bytes = .ok table) : table.Ordered := by
  obtain ⟨_, _, taken⟩ := bind_eq_ok taken
  exact ordered_of_readEntries .nil taken

end StateFile

end OtpToken
