import OtpToken.KeyFile
import OtpToken.Proofs.Act
import OtpToken.Proofs.Storage.Repair
import OtpToken.Proofs.Storage.StateFile

/-!
# Stores on a disk

A file that a program looks for is read, or else made (`Disk.Provides`), and a file that was made
can be told from none. A store that has been opened from a state file keeps its table in that file:
every write replaces the file as a whole, and nothing else on the disk changes (`Backed.put`). What
the file holds is never the table of another store, so the disk shows whether the table has changed
(`Backed.disk_ne`).
-/

namespace OtpToken

namespace Disk

variable {disk after : Disk} {place other : Place} {node : Node} {path : String}
  {content initial : Bytes}

/-- What is put at a place last is there. -/
theorem set_set (disk : Disk) (place : Place) (node later : Node) :
    (disk.set place node).set place later = disk.set place later := by
  unfold set
  congr 1
  funext other
  by_cases same : other = place <;> simp [same]

/-- To put at a place what is there changes nothing. -/
theorem set_self (here : disk.node place = node) : disk.set place node = disk := by
  obtain ⟨working, nodes⟩ := disk
  unfold set
  congr 1
  funext other
  by_cases same : other = place
  · rw [if_pos same, same]
    exact here.symm
  · rw [if_neg same]

/-- A path that leads to a file reads its content. -/
theorem read_of_find (leads : disk.find path = .ok place) (here : disk.node place = .file content) :
    disk.read path = .ok content := by
  unfold read
  simp only [leads, bind, Except.bind, here, pure, Except.pure]

/-- What is read by a path is the content of the file that it leads to. -/
theorem exists_of_read (found : disk.read path = .ok content) :
    ∃ place, disk.find path = .ok place ∧ disk.node place = .file content := by
  unfold read at found
  obtain ⟨place, leads, here⟩ := bind_eq_ok found
  refine ⟨place, leads, ?_⟩
  cases held : disk.node place <;> rw [held] at here <;> cases here
  rfl

/-- A file that is made or replaced bars no path. -/
theorem find_set_file (apart : disk.node place ≠ .folder) (leads : disk.find path = .ok other) :
    (disk.set place (.file content)).find path = .ok other := by
  refine find_of_folders (by rfl) (fun one folder => ?_) leads
  have different : one ≠ place := by
    rintro rfl
    exact apart folder
  rwa [set_other _ _ different]

/-- A disk once a file has been looked for: it has been found, or it has been made. -/
inductive Provides (disk : Disk) (path : String) (initial : Bytes) : Disk → Prop
  | found {content : Bytes} (found : disk.read path = .ok content) :
      Provides disk path initial disk
  | made {after : Disk} (missing : disk.read path = .error .notFound)
      (wrote : disk.write? path initial = some after) : Provides disk path initial after

namespace Provides

/-- A file that can be read, or is refused, is not made. -/
theorem eq_of_found (provides : disk.Provides path initial after)
    (present : disk.read path ≠ .error .notFound) : after = disk := by
  cases provides with
  | found => rfl
  | made missing => exact absurd missing present

/-- A missing file is made where there was nothing. -/
theorem vacant_of_missing (provides : disk.Provides path initial after)
    (missing : disk.read path = .error .notFound) :
    ∃ place, disk.find path = .ok place ∧ disk.node place = .vacant ∧
      after = disk.set place (.file initial) := by
  cases provides with
  | found found =>
    rw [missing] at found
    cases found
  | made _ wrote =>
    unfold write? at wrote
    split at wrote
    next => cases wrote
    next place leads =>
      split at wrote <;> cases wrote
      next _ here =>
        rw [read_of_find leads here] at missing
        cases missing
      next here => exact ⟨place, leads, here, rfl⟩

/-- All files that there were are still as they were. -/
theorem file (provides : disk.Provides path initial after)
    (held : disk.node place = .file content) : after.node place = .file content := by
  by_cases missing : disk.read path = .error .notFound
  · obtain ⟨spot, _, vacant, rfl⟩ := provides.vacant_of_missing missing
    have apart : place ≠ spot := by
      rintro rfl
      rw [held] at vacant
      cases vacant
    rwa [set_other _ _ apart]
  · rwa [provides.eq_of_found missing]

/-- A file that was made can be told from none as long as it is a file. -/
theorem ne_of_missing {later : Disk} (provides : disk.Provides path initial after)
    (missing : disk.read path = .error .notFound)
    (files : ∀ place content, after.node place = .file content →
      ∃ now, later.node place = .file now) : later ≠ disk := by
  rintro rfl
  obtain ⟨place, _, vacant, rfl⟩ := provides.vacant_of_missing missing
  obtain ⟨now, held⟩ := files place initial (set_same ..)
  rw [vacant] at held
  cases held

/-- All paths still lead where they led. -/
theorem find {way : String} (provides : disk.Provides path initial after)
    (leads : disk.find way = .ok place) : after.find way = .ok place := by
  by_cases missing : disk.read path = .error .notFound
  · obtain ⟨spot, _, vacant, rfl⟩ := provides.vacant_of_missing missing
    exact find_set_file (by simp [vacant]) leads
  · rwa [provides.eq_of_found missing]

/-- Only the place that the path leads to has changed. -/
theorem find_of_changed (provides : disk.Provides path initial after)
    (changed : after.node place ≠ disk.node place) : after.find path = .ok place := by
  by_cases missing : disk.read path = .error .notFound
  · obtain ⟨spot, leads, vacant, rfl⟩ := provides.vacant_of_missing missing
    by_cases own : place = spot
    · rw [own]
      exact find_set_file (by simp [vacant]) leads
    · exact absurd (set_other _ _ own) changed
  · rw [provides.eq_of_found missing] at changed
    exact absurd rfl changed

end Provides

end Disk

/-- A key file that has been loaded is there, or has been made with the drawn key. -/
theorem KeyFile.provides_of_load {path : String} {drawn key : DeviceKey} {disk left : Disk}
    (loads : load path drawn disk = .ok (key, left)) : disk.Provides path drawn.val left := by
  unfold load at loads
  split at loads
  next content found =>
    obtain ⟨one, -, same⟩ := bind_eq_ok loads
    cases same
    exact .found found
  next missing =>
    split at loads <;> cases loads
    next wrote => exact .made missing wrote
  next => cases loads

namespace Store

variable {store after : Store} {path : String} {disk made : Disk} {place : Place}

/-- A store that keeps its table in the file at a place of a disk. The file may hold something that
cannot be read, but it holds no other table. -/
structure Backed (store : Store) (path : String) (disk : Disk) (place : Place) : Prop where
  unlocked : store.readOnly = false
  ordered : store.table.Ordered
  leads : disk.find path = .ok place
  isFile : ∃ content, disk.node place = .file content
  medium : ∃ content, store.medium = .file path (disk.set place (.file content)) ∧
    ∀ table, StateFile.read content = .ok table → table = store.table

/-- A store that has just been opened from a state file. -/
structure Opened (store : Store) (path : String) (disk made : Disk) (place : Place) : Prop where
  provides : disk.Provides path (StateFile.write []) made
  unlocked : store.readOnly = false
  medium : store.medium = .file path made
  leads : made.find path = .ok place
  holds : ∃ content, made.node place = .file content ∧ StateFile.read content = .ok store.table

/-- A store that has been opened from a file is backed by the file at the place of its path. -/
theorem opened_of_openFile (opens : openFile path disk = .ok store) :
    ∃ made place, store.Opened path disk made place := by
  unfold openFile at opens
  split at opens
  next content found =>
    split at opens <;> cases opens
    next read =>
      obtain ⟨place, leads, here⟩ := Disk.exists_of_read found
      exact ⟨disk, place, .found found, rfl, rfl, leads, content, here, read⟩
  next missing =>
    split at opens <;> cases opens
    next medium flushed =>
      obtain ⟨made, wrote, rfl⟩ := Option.map_eq_some_iff.mp flushed
      obtain ⟨place, leads, here⟩ := Disk.exists_of_read (Disk.read_of_write? wrote)
      exact ⟨made, place, .made missing wrote, rfl, rfl, leads, _, here, StateFile.read_write_nil⟩
  next => cases opens

/-- The disk of a store that has been opened is the one with its file on it. -/
theorem Opened.disk?_eq (opened : store.Opened path disk made place) : store.disk? = some made := by
  rw [disk?, opened.medium]

/-- A change of the disk keeps the path of the store. -/
theorem Opened.mapDisk_eq (opened : store.Opened path disk made place) (change : Disk → Disk) :
    store.mapDisk change = { store with medium := .file path (change made) } := by
  rw [mapDisk, opened.medium]

/-- Opened from a state file, a store keeps its table there, also when other files have been made
since. -/
theorem Opened.backed {way : String} {initial : Bytes} {left : Disk}
    (opened : store.Opened path disk made place) (provides : made.Provides way initial left) :
    (store.mapDisk fun _ => left).Backed path left place := by
  obtain ⟨content, here, read⟩ := opened.holds
  have there := provides.file here
  rw [opened.mapDisk_eq]
  refine ⟨opened.unlocked, StateFile.ordered_of_read read, provides.find opened.leads,
    ⟨content, there⟩, content, ?_, fun table again => ?_⟩
  · rw [Disk.set_self there]
  · rw [read] at again
    exact (Except.ok.inj again).symm

/-- Such a store takes every value. -/
theorem Backed.put (backed : store.Backed path disk place) (key value : Bytes) :
    ∃ after, store.put key value = .ok after ∧ after.Backed path disk place := by
  obtain ⟨content, medium, _⟩ := backed.medium
  obtain ⟨old, isFile⟩ := backed.isFile
  let table := store.table.insert key value
  have ordered : table.Ordered := backed.ordered.insert key value
  have leads : (disk.set place (.file content)).find path = .ok place :=
    Disk.find_set_file (by simp [isFile]) backed.leads
  have flushed : flush? table store.medium =
      some (.file path (disk.set place (.file (StateFile.write table)))) := by
    simp [flush?, medium, Disk.write?, leads, Disk.set_set]
  refine ⟨{ store with
    table := table
    medium := .file path (disk.set place (.file (StateFile.write table)))
    writes := store.writes + 1 }, ?_, backed.unlocked, ordered, backed.leads, ⟨old, isFile⟩,
    _, rfl, fun read => StateFile.eq_of_read_write ordered⟩
  rw [Store.put, if_neg (by simp [backed.unlocked])]
  simp only [table] at flushed ⊢
  rw [flushed]

/-- A store that is backed by a file can be written. -/
theorem Backed.writable (backed : store.Backed path disk place) : store.Writable :=
  writable_of_invariant (·.Backed path disk place) (fun _ backed => backed.put) backed

/-- A store is still backed after a write. -/
theorem Backed.written (backed : store.Backed path disk place) (key value : Bytes) :
    (store.written key value).Backed path disk place := by
  obtain ⟨after, put, backed⟩ := backed.put key value
  rwa [written_of_ok put]

/-- A store is still backed when a slot has been mended. -/
theorem Backed.mend (backed : store.Backed path disk place) (slot : Slot) :
    (store.mend slot).Backed path disk place := by
  cases kept : store.credential? slot with
  | some credential => rwa [mend_of_some kept]
  | none =>
    rw [mend_of_none kept]
    exact backed.written _ _

/-- A store is still backed when all slots have been restored. -/
theorem Backed.repaired (backed : store.Backed path disk place) :
    store.repaired.Backed path disk place := by
  have each : ∀ slots : List Slot, (slots.foldl Store.mend store).Backed path disk place := by
    intro slots
    induction slots generalizing store with
    | nil => exact backed
    | cons slot slots ih => exact ih (backed.mend slot)
  exact each Slot.all

/-- Nothing on the disk has changed but the file. -/
theorem Backed.disk? (backed : store.Backed path disk place) :
    ∃ content, store.disk? = some (disk.set place (.file content)) := by
  obtain ⟨content, medium, _⟩ := backed.medium
  exact ⟨content, by rw [Store.disk?, medium]⟩

/-- A store whose table is another than the one that the file held has changed the file. -/
theorem Backed.disk_ne (backed : store.Backed path disk place) {content : Bytes} {table : Table}
    (held : disk.node place = .file content) (read : StateFile.read content = .ok table)
    (changed : store.table ≠ table) : store.disk? ≠ some disk := by
  intro same
  obtain ⟨now, medium, holds⟩ := backed.medium
  rw [Store.disk?, medium, Option.some.injEq] at same
  have here : Node.file now = .file content := by
    rw [← held, ← same, Disk.set_same]
  cases here
  exact changed (holds table read).symm

end Store

end OtpToken
