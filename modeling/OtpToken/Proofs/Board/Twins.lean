import Mathlib.Data.List.Forall2
import OtpToken.Credential
import OtpToken.Proofs.Blocking.Supply

/-!
# Twin boards

Two boards are twins if they differ at most in the values of their stores, in the buffers for such
values and in the contents of their disks, and if what the one has in these places is alike to
what the other has there. Whatever counts as alike, as long as alike values have one length, twins
serve the same operations at the same ticks, with the same upcalls, and stay twins
(`Twins.yield`).
-/

namespace OtpToken

/-- Two answers are the same refusal, or values of which one stands for the other. -/
inductive Answers {ε α : Type} (values : α → α → Prop) : Except ε α → Except ε α → Prop
  | ok {value other : α} (same : values value other) : Answers values (.ok value) (.ok other)
  | error (refusal : ε) : Answers values (.error refusal) (.error refusal)

/-- An answer is the same as itself. -/
theorem Answers.refl {ε α : Type} (answer : Except ε α) : Answers Eq answer answer := by
  cases answer with
  | ok value => exact .ok rfl
  | error refusal => exact .error refusal

/-- Which values are alike: none and none, and otherwise values of the size of a record. -/
structure Likeness (alike : Bytes → Bytes → Prop) : Prop where
  empty : alike [] []
  length : ∀ {value other}, alike value other → other.length = value.length
  whole : ∀ {value other}, alike value other →
    value.length = 0 ∨ value.length = Credential.recordSize

/-- Disks that differ at most in the contents of their files. -/
structure Disk.Twins (disk other : Disk) : Prop where
  working : other.working = disk.working
  node : ∀ place, other.node place = disk.node place ∨
    ∃ content changed, disk.node place = .file content ∧ other.node place = .file changed

/-- The same medium, with twin disks. -/
inductive Medium.Twins : Medium → Medium → Prop
  | memory : Twins .memory .memory
  | file (path : String) {disk other : Disk} (disks : disk.Twins other) :
      Twins (.file path disk) (.file path other)

/-- Tables with the same keys and alike values. -/
abbrev Table.Twins (alike : Bytes → Bytes → Prop) : Table → Table → Prop :=
  List.Forall₂ fun entry other => other.1 = entry.1 ∧ alike entry.2 other.2

/-- Stores that differ at most in what is alike. -/
structure Store.Twins (alike : Bytes → Bytes → Prop) (store other : Store) : Prop where
  table : Table.Twins alike store.table other.table
  medium : store.medium.Twins other.medium
  readOnly : other.readOnly = store.readOnly
  writes : other.writes = store.writes

/-- Key-value units that differ at most in what is alike. -/
structure KeyValue.Twins (alike : Bytes → Bytes → Prop) (unit other : KeyValue) : Prop where
  store : Store.Twins alike unit.store other.store
  subscriber : other.subscriber = unit.subscriber
  key : other.key = unit.key
  value : alike unit.value other.value
  destination : alike unit.destination other.destination
  pending : other.pending = unit.pending

/-- The board with another key-value unit. -/
def Board.withKeyValue (board : Board) (unit : KeyValue) : Board := { board with keyValue := unit }

/-- Boards that differ at most in what is alike. -/
structure Board.Twins (alike : Bytes → Bytes → Prop) (board other : Board) : Prop where
  rest : other = board.withKeyValue other.keyValue
  unit : KeyValue.Twins alike board.keyValue other.keyValue

variable {alike : Bytes → Bytes → Prop}

namespace Disk.Twins

variable {disk other : Disk}

/-- A disk is a twin of itself. -/
theorem refl (disk : Disk) : disk.Twins disk := ⟨rfl, fun _ => .inl rfl⟩

/-- On twin disks a part of a path leads to the same place. -/
theorem enter (twins : disk.Twins other) (place : Place) (part : String) :
    other.enter place part = disk.enter place part := by
  rcases twins.node place with same | ⟨content, changed, here, there⟩
  · rw [Disk.enter, same, Disk.enter]
  · rw [Disk.enter, there, Disk.enter, here]

/-- Twin disks find the same place for a path, or fail in the same way. -/
theorem find (twins : disk.Twins other) (path : String) : other.find path = disk.find path := by
  have enter : other.enter = disk.enter :=
    funext fun place => funext fun part => twins.enter place part
  rw [Disk.find, Disk.find, enter, twins.working]

/-- Disks stay twins when a file is written at the same place on both. -/
theorem set (twins : disk.Twins other) (place : Place) (content changed : Bytes) :
    (disk.set place (.file content)).Twins (other.set place (.file changed)) := by
  refine ⟨twins.working, fun one => ?_⟩
  by_cases same : one = place
  · subst same
    exact .inr ⟨content, changed, Disk.set_same .., Disk.set_same ..⟩
  · rw [Disk.set_other _ _ same, Disk.set_other _ _ same]
    exact twins.node one

/-- Twin disks take the same files. -/
theorem write? (twins : disk.Twins other) (path : String) (content changed : Bytes) :
    Option.Rel Disk.Twins (disk.write? path content) (other.write? path changed) := by
  unfold Disk.write?
  rw [twins.find]
  cases disk.find path with
  | error _ => exact .none
  | ok place =>
    dsimp only
    rcases twins.node place with same | ⟨old, new, here, there⟩
    · rw [same]
      cases disk.node place with
      | file _ | vacant => exact .some (twins.set place content changed)
      | folder | barred => exact .none
    · rw [here, there]
      exact .some (twins.set place content changed)

end Disk.Twins

/-- A medium is a twin of itself. -/
theorem Medium.Twins.refl (medium : Medium) : medium.Twins medium := by
  cases medium with
  | memory => exact .memory
  | file path disk => exact .file path (.refl disk)

/-- Twin media take the same tables. -/
theorem Medium.Twins.flush? {medium other : Medium} (twins : medium.Twins other)
    (table changed : Table) :
    Option.Rel Medium.Twins (Store.flush? table medium) (Store.flush? changed other) := by
  cases twins with
  | memory => exact .some .memory
  | @file path disk other disks =>
    have written := disks.write? path (StateFile.write table) (StateFile.write changed)
    simp only [Store.flush?]
    generalize disk.write? path (StateFile.write table) = first,
      other.write? path (StateFile.write changed) = second at written ⊢
    cases written with
    | none => exact .none
    | some same => exact .some (.file path same)

namespace Table.Twins

variable {table other : Table}

/-- A key is missing from both tables, or has alike values in them. -/
theorem get? (twins : Table.Twins alike table other) (key : Bytes) :
    Option.Rel alike (table.get? key) (other.get? key) := by
  induction twins with
  | nil => exact .none
  | @cons entry changed rest others same _ ih =>
    obtain ⟨first, value⟩ := entry
    obtain ⟨second, found⟩ := changed
    obtain ⟨rfl, like⟩ := same
    simp only [Table.get?]
    split
    · exact .some like
    · exact ih

/-- Tables stay twins when alike values are put under the same key. -/
theorem insert (twins : Table.Twins alike table other) (key : Bytes) {value changed : Bytes}
    (like : alike value changed) :
    Table.Twins alike (table.insert key value) (other.insert key changed) := by
  induction twins with
  | nil => exact .cons ⟨rfl, like⟩ .nil
  | @cons entry changed rest others same twins ih =>
    obtain ⟨first, old⟩ := entry
    obtain ⟨second, found⟩ := changed
    obtain ⟨rfl, kept⟩ := same
    simp only [Table.insert]
    split
    · exact .cons ⟨rfl, like⟩ twins
    · split
      · exact .cons ⟨rfl, like⟩ (.cons ⟨rfl, kept⟩ twins)
      · exact .cons ⟨rfl, kept⟩ ih

end Table.Twins

namespace Store.Twins

variable {store other : Store}

/-- A key is missing from both stores, or has alike values in them. -/
theorem get? (twins : Store.Twins alike store other) (key : Bytes) :
    Option.Rel alike (store.get? key) (other.get? key) := twins.table.get? key

/-- Stores stay twins when both are locked, or both unlocked. -/
theorem setReadOnly (twins : Store.Twins alike store other) (readOnly : Bool) :
    Store.Twins alike (store.setReadOnly readOnly) (other.setReadOnly readOnly) :=
  ⟨twins.table, twins.medium, rfl, twins.writes⟩

/-- Twin stores take the same writes. -/
theorem put (twins : Store.Twins alike store other) (key : Bytes) {value changed : Bytes}
    (like : alike value changed) :
    Answers (Store.Twins alike) (store.put key value) (other.put key changed) := by
  have flushed := twins.medium.flush? (store.table.insert key value) (other.table.insert key changed)
  unfold Store.put
  rw [twins.readOnly]
  split
  · exact .error _
  · generalize flush? (store.table.insert key value) store.medium = first,
      flush? (other.table.insert key changed) other.medium = second at flushed
    cases flushed with
    | none => exact .error _
    | some medium =>
      exact .ok ⟨twins.table.insert key like, medium, rfl, congrArg Nat.succ twins.writes⟩

end Store.Twins

/-- What is read into alike destinations is alike. -/
theorem Likeness.copyInto (likeness : Likeness alike) {destination changed value other : Bytes}
    (into : alike destination changed) (like : alike value other) :
    alike (KeyValue.copyInto destination value) (KeyValue.copyInto changed other) := by
  -- All of these are empty or have the size of a record, so that a copy is one of the two, whole.
  have room := likeness.length into
  have length := likeness.length like
  have empty : ∀ {bytes : Bytes}, bytes.length = 0 → bytes = [] := List.length_eq_zero_iff.mp
  rcases likeness.whole into with none | whole
  · rw [empty none, empty (room.trans none)]
    simpa [KeyValue.copyInto] using likeness.empty
  · rcases likeness.whole like with none | full
    · rw [empty none, empty (length.trans none)]
      simpa [KeyValue.copyInto] using into
    · have replaced : ∀ {first second : Bytes}, first.length = Credential.recordSize →
          second.length = Credential.recordSize → KeyValue.copyInto first second = second := by
        intro first second one two
        rw [KeyValue.copyInto, List.take_of_length_le (by omega), List.drop_of_length_le (by omega),
          List.append_nil]
      rw [replaced whole full, replaced (room.trans whole) (length.trans full)]
      exact like

namespace KeyValue.Twins

variable {unit other : KeyValue}

/-- The accesses of twins are due at the same tick. -/
theorem deadline (twins : KeyValue.Twins alike unit other) : other.deadline = unit.deadline := by
  rw [KeyValue.deadline, twins.pending, KeyValue.deadline]

/-- Twin units complete the same access, with the same upcall. -/
theorem service (likeness : Likeness alike) (twins : KeyValue.Twins alike unit other) :
    KeyValue.Twins alike unit.service.1 other.service.1 ∧ other.service.2 = unit.service.2 := by
  unfold KeyValue.service
  rw [twins.pending]
  cases pending : unit.pending with
  | none => exact ⟨twins, rfl⟩
  | some access =>
    obtain ⟨due, access⟩ := access
    cases access with
    | get =>
      have found := twins.store.get? unit.key
      dsimp only
      rw [twins.key]
      generalize unit.store.get? unit.key = first, other.store.get? unit.key = second at found
      cases found with
      | none => exact ⟨{ twins with key := rfl, pending := rfl }, by rw [twins.subscriber]⟩
      | some like =>
        refine ⟨{ twins with
          key := rfl
          destination := likeness.copyInto twins.destination like
          pending := rfl }, ?_⟩
        simp only [likeness.length like, likeness.length twins.destination, twins.subscriber]
    | set =>
      have put := twins.store.put unit.key twins.value
      dsimp only
      rw [twins.key]
      generalize unit.store.put unit.key unit.value = first,
        other.store.put unit.key other.value = second at put
      cases put with
      | error => exact ⟨{ twins with key := rfl, pending := rfl }, by rw [twins.subscriber]⟩
      | ok stores =>
        refine ⟨{ twins with store := stores, key := rfl, pending := rfl }, ?_⟩
        simp only [likeness.length twins.value, twins.subscriber]

end KeyValue.Twins

namespace Board

variable {board other : Board}

/-- The board with its own key-value unit is the board. -/
theorem withKeyValue_self (board : Board) : board.withKeyValue board.keyValue = board := rfl

/-- An operation of another driver completes alike whatever the key-value unit is. -/
theorem complete_withKeyValue (board : Board) (due : Nat) {source : Source}
    (apart : source ≠ .keyValue) (unit : KeyValue) :
    (board.withKeyValue unit).complete due source =
      ((board.complete due source).1, (board.complete due source).2.withKeyValue unit) := by
  have serves : ((board.withKeyValue unit).advanceTo due).service source =
      ((board.advanceTo due).service source).map (·.withKeyValue unit) := by
    cases source with
    | alarms => rfl
    | buttons =>
      simp only [service, advanceTo, withKeyValue]
      cases board.buttons.service <;> rfl
    | console =>
      simp only [service, advanceTo, withKeyValue]
      cases board.console.service <;> rfl
    | macUnit =>
      simp only [service, advanceTo, withKeyValue]
      cases board.macUnit.service <;> rfl
    | keyboard =>
      simp only [service, advanceTo, withKeyValue]
      cases board.keyboard <;> rfl
    | keyValue => exact absurd rfl apart
  unfold complete
  rw [serves]
  cases (board.advanceTo due).service source <;> rfl

/-- A stimulus is found alike whatever the key-value unit is. -/
theorem stimulate_withKeyValue (board : Board) (unit : KeyValue) :
    (board.withKeyValue unit).stimulate =
      (board.stimulate.1, board.stimulate.2.withKeyValue unit) := by
  simp only [stimulate, withKeyValue]
  by_cases hungry : board.console.isHungry
  · simp only [hungry, if_true]
    cases board.console.feed? board.clock <;> rfl
  · simp only [hungry, Bool.false_eq_true, if_false]
    obtain ⟨gesture, rest⟩ := takeGesture board.console.input
    cases gesture <;> rfl

namespace Twins

/-- Twins stay so while their key-value units are left alone. -/
theorem of_unit {after : Board} (twins : Board.Twins alike board other)
    (same : after.keyValue = board.keyValue) :
    Board.Twins alike after (after.withKeyValue other.keyValue) :=
  ⟨rfl, by rw [same]; exact twins.unit⟩

/-- Twins stay twins on the same supply. -/
theorem withCharge (twins : Board.Twins alike board other) (charge : Option Nat) :
    Board.Twins alike (board.withCharge charge) (other.withCharge charge) :=
  ⟨by rw [twins.rest]; rfl, twins.unit⟩

/-- Boards stay twins when both stores are locked, or both unlocked. -/
theorem setReadOnly (twins : Board.Twins alike board other) (readOnly : Bool) :
    Board.Twins alike (board.setStore (board.store.setReadOnly readOnly))
      (other.setStore (other.store.setReadOnly readOnly)) :=
  ⟨by rw [twins.rest]; rfl, { twins.unit with store := twins.unit.store.setReadOnly readOnly }⟩

/-- The same operation is due first on twins. -/
theorem nextDue? (twins : Board.Twins alike board other) : other.nextDue? = board.nextDue? := by
  rw [twins.rest]
  simp only [Board.nextDue?, deadlines, withKeyValue, twins.unit.deadline]

/-- An operation completes on twins in the same way, and leaves twins. -/
theorem complete (likeness : Likeness alike) (twins : Board.Twins alike board other) (due : Nat)
    (source : Source) :
    (other.complete due source).1 = (board.complete due source).1 ∧
      Board.Twins alike (board.complete due source).2 (other.complete due source).2 := by
  by_cases own : source = .keyValue
  · subst own
    obtain ⟨units, call⟩ := twins.unit.service likeness
    rw [twins.rest]
    refine ⟨rfl, ?_, units⟩
    simp only [Board.complete, service, advanceTo, withKeyValue, record, discharge, call]
  · have same := complete_withKeyValue board due own other.keyValue
    rw [← twins.rest] at same
    rw [same]
    exact ⟨rfl, twins.of_unit (keyValue_complete board due own)⟩

/-- Twins find the same stimulus, and stay twins. -/
theorem stimulate (twins : Board.Twins alike board other) :
    other.stimulate.1 = board.stimulate.1 ∧
      Board.Twins alike board.stimulate.2 other.stimulate.2 := by
  have same := stimulate_withKeyValue board other.keyValue
  rw [← twins.rest] at same
  have unit : board.stimulate.2.keyValue = board.keyValue := by
    unfold Board.stimulate
    split <;> split <;> rfl
  rw [same]
  exact ⟨rfl, twins.of_unit unit⟩

/-- Twins serve the same operation next, and stay twins. -/
theorem serveNext (likeness : Likeness alike) (twins : Board.Twins alike board other) :
    other.serveNext.1 = board.serveNext.1 ∧
      Board.Twins alike board.serveNext.2 other.serveNext.2 := by
  unfold Board.serveNext
  rw [twins.nextDue?]
  cases board.nextDue? with
  | some entry => exact twins.complete likeness entry.1 entry.2
  | none =>
    obtain ⟨found, stimulated⟩ := twins.stimulate
    generalize board.stimulate = first, other.stimulate = second at found stimulated
    obtain ⟨heard, after⟩ := first
    obtain ⟨_, left⟩ := second
    cases found
    cases heard with
    | false => exact ⟨rfl, stimulated⟩
    | true =>
      dsimp only at stimulated ⊢
      rw [stimulated.nextDue?]
      cases after.nextDue? with
      | some entry => exact stimulated.complete likeness entry.1 entry.2
      | none => exact ⟨rfl, stimulated⟩

/-- Twins serve the same operation, and stay twins. -/
theorem yield (likeness : Likeness alike) (twins : Board.Twins alike board other) :
    other.yield.1 = board.yield.1 ∧ Board.Twins alike board.yield.2 other.yield.2 := by
  have charge : other.charge = board.charge := by
    rw [twins.rest]
    rfl
  unfold Board.yield
  rw [charge]
  split
  · exact ⟨rfl, twins⟩
  · exact twins.serveNext likeness

/-- The same upcalls have run on twins. -/
theorem calls (twins : Board.Twins alike board other) : other.calls = board.calls := by
  rw [twins.rest]
  rfl

end Twins

end Board

end OtpToken
