import OtpToken.Device.Basic
import OtpToken.Proofs.Keystore

/-!
# Chronicles of the slots

What becomes of the slots of a device can be told turn by turn: a counter is used up, a
secret is installed or lost, a record is saved or refused by the store, the device is
started again. A chronicle is replayed on what is in memory and in the store at first,
with what the device itself does to a credential and to the store at each turn.

In every chronicle that can be replayed, the store has for a slot what that slot had in
memory when its record was last saved (`stored_of_replay`), and the counters of a slot
that are used between two new starts of it are consecutive (`counter_of_used`). After
a turn in memory that is followed by a save, memory and storage agree again
(`InStep.save`).
-/

namespace OtpToken

/-- The credentials that are in memory, and the store. -/
structure Holding where
  memory : Vector Credential slotCount
  store : Store

namespace Holding

/-- What is in the store for a slot. -/
def stored (holding : Holding) (slot : Slot) : Option Bytes :=
  holding.store.get? (Keystore.recordKey slot)

/-- The holding with another credential in memory. -/
def remember (holding : Holding) (slot : Slot) (credential : Credential) : Holding :=
  { holding with memory := holding.memory.set slot.val credential slot.isLt }

/-- Only the slot whose credential is remembered changes in memory. -/
theorem get_remember (holding : Holding) (slot other : Slot) (credential : Credential) :
    (holding.remember slot credential).memory.get other =
      if slot = other then credential else holding.memory.get other := Keystore.get_set ..

/-- A store, with nothing in memory yet. -/
def blank (store : Store) : Holding := ⟨Vector.ofFn Credential.blank, store⟩

/-- Credentials that are given slot by slot are found slot by slot. -/
theorem get_ofFn (credentials : Slot → Credential) (slot : Slot) :
    (Vector.ofFn credentials).get slot = credentials slot := by
  change (Vector.ofFn credentials)[slot.val] = _
  rw [Vector.getElem_ofFn]

/-- At first every slot is blank. -/
theorem get_blank (store : Store) (slot : Slot) : (blank store).memory.get slot = .blank slot :=
  get_ofFn _ slot

/-- The digits in memory are those of the slots. -/
def Fits (holding : Holding) : Prop := ∀ slot : Slot, (holding.memory.get slot).digits = slot.digits

/-- Blank slots have the digits of their slots. -/
theorem fits_blank (store : Store) : (blank store).Fits := by
  intro slot
  rw [get_blank]
  rfl

/-- A credential with the digits of its slot may be remembered there. -/
theorem Fits.remember {holding : Holding} (fits : holding.Fits) {slot : Slot}
    {credential : Credential} (digits : credential.digits = slot.digits) :
    (holding.remember slot credential).Fits := by
  intro other
  rw [get_remember]
  split
  next same => rw [← same, digits]
  next => exact fits other

end Holding

/-- A turn in what becomes of the slots. -/
inductive Turn
  /-- The counter of a slot is used up in memory. -/
  | used (slot : Slot) (counter : UInt64)
  /-- A fresh secret is installed in memory. -/
  | installed (slot : Slot) (secret : Sealed)
  /-- A slot loses its secret in memory. -/
  | cleared (slot : Slot)
  /-- The record of the credential in memory is written. -/
  | saved (slot : Slot) (credential : Credential)
  /-- The store refuses the record of the credential in memory. -/
  | missed (slot : Slot)
  /-- The program starts, with nothing in memory. -/
  | booted
  /-- Memory is filled from the store. -/
  | restored
  /-- The store refuses writes from now on, or accepts them again. -/
  | locked (readOnly : Bool)

namespace Turn

/-- What a turn makes of memory and store, if it can be taken. -/
def take (turn : Turn) (holding : Holding) : Option Holding :=
  match turn with
  | used slot counter =>
    match (holding.memory.get slot).advance with
    | .ok (current, advanced) =>
      if current = counter then some (holding.remember slot advanced) else none
    | .error _ => none
  | installed slot secret =>
    match (holding.memory.get slot).install secret with
    | .ok credential => some (holding.remember slot credential)
    | .error _ => none
  | cleared slot => some (holding.remember slot (holding.memory.get slot).clear)
  | saved slot credential =>
    if holding.memory.get slot = credential then
      match holding.store.put (Keystore.recordKey slot) credential.record with
      | .ok store => some { holding with store := store }
      | .error _ => none
    else none
  | missed slot =>
    match holding.store.put (Keystore.recordKey slot) (holding.memory.get slot).record with
    | .ok _ => none
    | .error _ => some holding
  | booted => some (.blank holding.store)
  | restored => some { holding with
      memory := Vector.ofFn fun slot => (holding.store.credential? slot).getD (.blank slot) }
  | locked readOnly => some { holding with store := holding.store.setReadOnly readOnly }

/-- The turn is the attempt to write the record of a slot. -/
inductive Writes (slot : Slot) : Turn → Prop
  | saved (credential : Credential) : Writes slot (.saved slot credential)
  | missed : Writes slot (.missed slot)

/-- The counter of a slot starts anew. -/
inductive Renews (slot : Slot) : Turn → Prop
  | installed (secret : Sealed) : Renews slot (.installed slot secret)
  | booted : Renews slot .booted
  | restored : Renews slot .restored

/-- The credential that a turn saves for a slot. -/
def saved? (slot : Slot) : Turn → Option Credential
  | saved other credential => if other = slot then some credential else none
  | _ => none

/-- Whether the turn uses up a counter of the slot. -/
def uses (slot : Slot) : Turn → Bool
  | used other _ => other == slot
  | _ => false

end Turn

/-- What a chronicle makes of memory and store, if all of its turns can be taken. -/
def replay (turns : List Turn) (holding : Holding) : Option Holding :=
  turns.foldlM (fun holding turn => turn.take holding) holding

/-- The credential of a slot that was last saved. -/
def lastSaved? (slot : Slot) : List Turn → Option Credential
  | [] => none
  | turn :: rest => (lastSaved? slot rest).or (turn.saved? slot)

/-- Whether a slot has lost its secret since it last started anew, given whether it had before. -/
def Turn.clears (slot : Slot) (before : Bool) : Turn → Bool
  | cleared other => if other = slot then true else before
  | installed other _ => if other = slot then false else before
  | booted | restored => false
  | _ => before

/-- Whether a slot has lost its secret since it last started anew. -/
def isCleared (slot : Slot) (turns : List Turn) : Bool := turns.foldl (Turn.clears slot) false

section

variable {start mid later holding : Holding} {turns more : List Turn} {slot : Slot}
  {credential : Credential}

/-- An empty chronicle leaves everything as it is. -/
@[simp] theorem replay_nil (holding : Holding) : replay [] holding = some holding := rfl

/-- A chronicle is replayed from its first turn on. -/
theorem replay_cons (turn : Turn) (turns : List Turn) (holding : Holding) :
    replay (turn :: turns) holding = (turn.take holding).bind (replay turns) := rfl

/-- A single turn that can be taken is a chronicle. -/
theorem replay_of_take {turn : Turn} (taken : turn.take holding = some later) :
    replay [turn] holding = some later := by
  rw [replay_cons, taken]
  rfl

/-- Chronicles are replayed one after the other. -/
theorem replay_append (turns more : List Turn) (holding : Holding) :
    replay (turns ++ more) holding = (replay turns holding).bind (replay more) :=
  List.foldlM_append

/-- What two chronicles lead to one after the other, they lead to together. -/
theorem replay_trans (first : replay turns start = some mid) (second : replay more mid = some later) :
    replay (turns ++ more) start = some later := by
  rw [replay_append, first, Option.bind_some, second]

/-- The last turn is taken where the chronicle before it leads. -/
theorem replay_concat (turns : List Turn) (turn : Turn) :
    replay (turns ++ [turn]) start = (replay turns start).bind turn.take := by
  rw [replay_append]
  cases replay turns start with
  | none => rfl
  | some mid =>
    rw [Option.bind_some, Option.bind_some, replay_cons]
    cases turn.take mid <;> rfl

namespace Turn

/-- A counter that is used is the one in memory, below its limit, and the next one follows it. -/
theorem take_used {counter : UInt64} (taken : (used slot counter).take holding = some later) :
    (holding.memory.get slot).counter = counter ∧ counter.toNat + 1 < UInt64.size ∧
      later = holding.remember slot (holding.memory.get slot).next := by
  by_cases below : (holding.memory.get slot).counter.toNat + 1 < UInt64.size
  · simp only [take, Credential.advance_of_lt below, Option.ite_none_right_eq_some,
      Option.some.injEq] at taken
    obtain ⟨same, rfl⟩ := taken
    exact ⟨same, same ▸ below, rfl⟩
  · simp only [take, Credential.advance, if_neg below, reduceCtorEq] at taken

/-- The counter in memory can be used as long as it is below its limit. -/
theorem take_used_of_lt (holding : Holding)
    (below : (holding.memory.get slot).counter.toNat + 1 < UInt64.size) :
    (used slot (holding.memory.get slot).counter).take holding =
      some (holding.remember slot (holding.memory.get slot).next) := by
  simp only [take, Credential.advance_of_lt below, if_true]

/-- A secret that is installed is in memory afterwards. -/
theorem take_installed {secret : Sealed}
    (taken : (installed slot secret).take holding = some later) :
    ∃ credential, (holding.memory.get slot).install secret = .ok credential ∧
      later = holding.remember slot credential := by
  simp only [take] at taken
  split at taken
  next credential accepted => exact ⟨credential, accepted, (Option.some.inj taken).symm⟩
  next => cases taken

/-- What is saved is what is in memory, and the store takes its record. -/
theorem take_saved (taken : (saved slot credential).take holding = some later) :
    holding.memory.get slot = credential ∧ ∃ store,
      holding.store.put (Keystore.recordKey slot) credential.record = .ok store ∧
      later = { holding with store := store } := by
  simp only [take] at taken
  split at taken
  next same =>
    split at taken
    next store put => exact ⟨same, store, put, (Option.some.inj taken).symm⟩
    next => cases taken
  next => cases taken

/-- What is in memory can be saved if the store takes its record. -/
theorem take_saved_of_put (holding : Holding) {store : Store}
    (put : holding.store.put (Keystore.recordKey slot) (holding.memory.get slot).record = .ok store) :
    (saved slot (holding.memory.get slot)).take holding = some { holding with store := store } := by
  simp only [take, if_true, put]

/-- A write that fails changes nothing. -/
theorem take_missed (taken : (missed slot).take holding = some later) : later = holding := by
  simp only [take] at taken
  split at taken
  next => cases taken
  next => exact (Option.some.inj taken).symm

/-- A write may fail if the store refuses it. -/
theorem take_missed_of_put (holding : Holding) {error : StoreError}
    (put : holding.store.put (Keystore.recordKey slot) (holding.memory.get slot).record =
      .error error) : (missed slot).take holding = some holding := by
  simp only [take, put]

end Turn

/-- No turn makes digits in memory that are not those of the slot. -/
theorem Holding.Fits.take {turn : Turn} (fits : holding.Fits)
    (taken : turn.take holding = some later) :
    later.Fits := by
  cases turn with
  | used slot counter =>
    obtain ⟨_, _, rfl⟩ := Turn.take_used taken
    exact fits.remember (fits slot)
  | installed slot secret =>
    obtain ⟨credential, accepted, rfl⟩ := Turn.take_installed taken
    refine fits.remember ?_
    unfold Credential.install at accepted
    split at accepted <;> cases accepted
    exact fits slot
  | cleared slot =>
    cases taken
    exact fits.remember (fits slot)
  | saved slot credential =>
    obtain ⟨_, store, _, rfl⟩ := Turn.take_saved taken
    exact fits
  | missed slot => exact Turn.take_missed taken ▸ fits
  | booted =>
    cases taken
    exact fits_blank _
  | restored =>
    cases taken
    intro slot
    simp only [get_ofFn]
    cases kept : holding.store.credential? slot with
    | none => rfl
    | some credential =>
      obtain ⟨bytes, _, read⟩ := Option.bind_eq_some_iff.mp kept
      exact Credential.digits_ofRecord? read
  | locked readOnly =>
    cases taken
    exact fits

/-- The digits in memory stay those of the slots through every chronicle. -/
theorem Holding.Fits.replay (fits : holding.Fits) (replayed : replay turns holding = some later) :
    later.Fits := by
  induction turns generalizing holding with
  | nil => cases replayed; exact fits
  | cons turn turns ih =>
    obtain ⟨mid, taken, goes⟩ := Option.bind_eq_some_iff.mp replayed
    exact ih (fits.take taken) goes

/-- Only a save changes what is in the store, and only for its own slot. -/
theorem stored_of_take {turn : Turn} (taken : turn.take holding = some later) (slot : Slot) :
    later.stored slot =
      (turn.saved? slot).elim (holding.stored slot) fun credential => some credential.record := by
  cases turn with
  | used other counter =>
    obtain ⟨_, _, rfl⟩ := Turn.take_used taken
    rfl
  | installed other secret =>
    obtain ⟨credential, _, rfl⟩ := Turn.take_installed taken
    rfl
  | saved other credential =>
    obtain ⟨_, store, put, rfl⟩ := Turn.take_saved taken
    rw [Holding.stored, Store.get?_put put, Turn.saved?]
    by_cases same : other = slot
    · rw [if_pos same, if_pos (by rw [same])]
      rfl
    · rw [if_neg same, if_neg fun keys => same (Keystore.recordKey_injective keys)]
      rfl
  | missed other => exact congrArg (Holding.stored · slot) (Turn.take_missed taken)
  | cleared | booted | restored | locked => cases taken; rfl

/-- The store has for a slot what was last saved of it, and what it had at first otherwise. -/
theorem stored_of_replay (replayed : replay turns start = some later) (slot : Slot) :
    later.stored slot =
      (lastSaved? slot turns).elim (start.stored slot) fun credential => some credential.record := by
  induction turns generalizing start with
  | nil => cases replayed; rfl
  | cons turn turns ih =>
    obtain ⟨mid, taken, goes⟩ := Option.bind_eq_some_iff.mp replayed
    rw [ih goes, stored_of_take taken, lastSaved?]
    cases lastSaved? slot turns <;> rfl

/-- Right after a save the store has what is in memory. -/
theorem stored_of_saved (replayed : replay (turns ++ [.saved slot credential]) start = some later) :
    later.stored slot = some (later.memory.get slot).record := by
  rw [replay_concat] at replayed
  obtain ⟨mid, _, taken⟩ := Option.bind_eq_some_iff.mp replayed
  have stored := stored_of_take taken slot
  obtain ⟨same, store, _, rfl⟩ := Turn.take_saved taken
  rw [stored, same, Turn.saved?, if_pos rfl]
  rfl

/-- A turn that does not start a slot anew leaves its counter as it is, or uses it up. -/
theorem counter_of_take {turn : Turn} (taken : turn.take holding = some later)
    (goes : ¬turn.Renews slot) :
    (later.memory.get slot).counter.toNat =
      (holding.memory.get slot).counter.toNat + (turn.uses slot).toNat := by
  cases turn with
  | used other counter =>
    obtain ⟨same, below, rfl⟩ := Turn.take_used taken
    rw [Holding.get_remember, Turn.uses]
    by_cases own : other = slot
    · subst own
      rw [if_pos rfl, Credential.toNat_counter_next (same ▸ below), beq_self_eq_true]
      rfl
    · rw [if_neg own, beq_eq_false_iff_ne.mpr own]
      rfl
  | installed other secret =>
    obtain ⟨credential, _, rfl⟩ := Turn.take_installed taken
    rw [Holding.get_remember, if_neg]
    · rfl
    · rintro rfl
      exact goes (.installed secret)
  | cleared other =>
    cases taken
    rw [Holding.get_remember]
    by_cases own : other = slot
    · rw [if_pos own, own]
      rfl
    · rw [if_neg own]
      rfl
  | saved other credential =>
    obtain ⟨_, store, _, rfl⟩ := Turn.take_saved taken
    rfl
  | missed other =>
    rw [Turn.take_missed taken]
    rfl
  | booted => exact absurd .booted goes
  | restored => exact absurd .restored goes
  | locked readOnly =>
    cases taken
    rfl

/-- Unless a slot starts anew, its counter has moved on by the number of counters used. -/
theorem counter_of_replay (replayed : replay turns start = some later)
    (goes : ∀ turn ∈ turns, ¬turn.Renews slot) :
    (later.memory.get slot).counter.toNat =
      (start.memory.get slot).counter.toNat + turns.countP (Turn.uses slot) := by
  induction turns generalizing start with
  | nil => cases replayed; rfl
  | cons turn turns ih =>
    obtain ⟨mid, taken, rest⟩ := Option.bind_eq_some_iff.mp replayed
    rw [ih rest fun turn member => goes turn (List.mem_cons_of_mem _ member),
      counter_of_take taken (goes turn List.mem_cons_self), List.countP_cons]
    cases turn.uses slot <;> simp +arith

/-- Between two uses of a slot's counter that it has not been started anew between, every counter is
used, and each of them once. -/
theorem counter_of_used {first last : UInt64} {before middle after : List Turn}
    (replayed : replay (before ++ .used slot first :: (middle ++ .used slot last :: after)) start =
      some later)
    (goes : ∀ turn ∈ middle, ¬turn.Renews slot) :
    last.toNat = first.toNat + 1 + middle.countP (Turn.uses slot) := by
  rw [replay_append] at replayed
  obtain ⟨one, _, replayed⟩ := Option.bind_eq_some_iff.mp replayed
  rw [replay_cons] at replayed
  obtain ⟨two, taken, replayed⟩ := Option.bind_eq_some_iff.mp replayed
  rw [replay_append] at replayed
  obtain ⟨three, between, replayed⟩ := Option.bind_eq_some_iff.mp replayed
  rw [replay_cons] at replayed
  obtain ⟨four, again, _⟩ := Option.bind_eq_some_iff.mp replayed
  have counted := counter_of_replay between goes
  obtain ⟨same, below, rfl⟩ := Turn.take_used taken
  obtain ⟨sameLast, _, _⟩ := Turn.take_used again
  rw [Holding.get_remember, if_pos rfl, Credential.toNat_counter_next (same ▸ below), sameLast, same]
    at counted
  exact counted

/-- Whether a slot has lost its secret is told turn by turn. -/
theorem isCleared_append (slot : Slot) (turns more : List Turn) :
    isCleared slot (turns ++ more) = more.foldl (Turn.clears slot) (isCleared slot turns) :=
  List.foldl_append

/-- Memory and storage of every slot are the same, except that a slot may have lost its secret in
memory since it last started anew. -/
def InStep (turns : List Turn) (holding : Holding) : Prop :=
  ∀ slot, ∃ kept : Credential, holding.stored slot = some kept.record ∧
    holding.memory.get slot = if isCleared slot turns then kept.clear else kept

/-- Unless a write fails, these turns leave memory and storage in step. -/
def Whole (part : List Turn) : Prop :=
  ∀ {turns : List Turn} {holding later : Holding}, InStep turns holding →
    replay part holding = some later → (∀ slot, .missed slot ∉ part) → InStep (turns ++ part) later

/-- An empty chronicle leaves memory and storage in step. -/
theorem whole_nil : Whole [] := by
  intro turns holding later inStep replayed _
  cases replayed
  rw [List.append_nil]
  exact inStep

/-- Turns of whole operations may follow one another. -/
theorem Whole.append {part : List Turn} (first : Whole part) (second : Whole more) :
    Whole (part ++ more) := by
  intro turns holding later inStep replayed written
  rw [replay_append] at replayed
  obtain ⟨mid, one, two⟩ := Option.bind_eq_some_iff.mp replayed
  have between := first inStep one fun slot missed => written slot (List.mem_append_left _ missed)
  rw [← List.append_assoc]
  exact second between two fun slot missed => written slot (List.mem_append_right _ missed)

/-- A slot that is changed in memory and then saved is in step again. -/
theorem InStep.save {turn : Turn} {store : Store} (inStep : InStep turns holding)
    (others : ∀ other, other ≠ slot → ∀ before, turn.clears other before = before)
    (cleared : turn.clears slot (isCleared slot turns) = true → credential.clear = credential)
    (put : holding.store.put (Keystore.recordKey slot) credential.record = .ok store) :
    InStep (turns ++ [turn, .saved slot credential])
      { holding.remember slot credential with store := store } := by
  intro other
  rw [isCleared_append, List.foldl_cons, List.foldl_cons, List.foldl_nil]
  change ∃ kept, _ ∧ _ = if turn.clears other (isCleared other turns) then _ else _
  have memory :
      ({ holding.remember slot credential with store := store } : Holding).memory.get other =
        if slot = other then credential else holding.memory.get other := Holding.get_remember ..
  have stored : ({ holding.remember slot credential with store := store } : Holding).stored other =
      if Keystore.recordKey slot = Keystore.recordKey other then some credential.record
      else holding.stored other := Store.get?_put put _
  rw [memory, stored]
  by_cases own : slot = other
  · subst own
    refine ⟨credential, if_pos rfl, ?_⟩
    rw [if_pos rfl]
    split
    next lost => exact (cleared lost).symm
    next => rfl
  · rw [if_neg own, if_neg fun keys => own (Keystore.recordKey_injective keys),
      others other (fun same => own same.symm)]
    exact inStep other

/-- So it is if its record is written right after the change, unless that fails. -/
theorem whole_written {turn write : Turn} (writes : write.Writes slot)
    (others : ∀ other, other ≠ slot → ∀ before, turn.clears other before = before)
    (changes : ∀ {turns : List Turn} {holding mid : Holding}, InStep turns holding →
      turn.take holding = some mid → ∃ credential, mid = holding.remember slot credential ∧
        (turn.clears slot (isCleared slot turns) = true → credential.clear = credential)) :
    Whole [turn, write] := by
  intro turns holding later inStep replayed written
  cases writes with
  | missed => exact absurd (by simp) (written slot)
  | saved credential =>
    rw [replay_cons] at replayed
    obtain ⟨mid, changed, replayed⟩ := Option.bind_eq_some_iff.mp replayed
    rw [replay_cons] at replayed
    obtain ⟨last, saved, ended⟩ := Option.bind_eq_some_iff.mp replayed
    cases ended
    obtain ⟨credential, rfl, cleared⟩ := changes inStep changed
    obtain ⟨same, store, put, rfl⟩ := Turn.take_saved saved
    rw [Holding.get_remember, if_pos rfl] at same
    subst same
    exact inStep.save others cleared put

/-- A counter that is used and saved leaves memory and storage in step. -/
theorem whole_used {counter : UInt64} {write : Turn} (writes : write.Writes slot) :
    Whole [.used slot counter, write] := by
  refine whole_written writes (fun _ _ _ => rfl) fun {turns holding mid} inStep taken => ?_
  obtain ⟨_, _, rfl⟩ := Turn.take_used taken
  refine ⟨_, rfl, fun lost => ?_⟩
  have lost : isCleared slot turns = true := lost
  obtain ⟨kept, _, memory⟩ := inStep slot
  rw [memory, if_pos lost]
  rfl

/-- The turns of a secret that is installed and saved are those of a whole operation. -/
theorem whole_installed {secret : Sealed} {write : Turn} (writes : write.Writes slot) :
    Whole [.installed slot secret, write] := by
  refine whole_written writes (fun other apart before => ?_) fun _ taken => ?_
  · rw [Turn.clears, if_neg apart.symm]
  obtain ⟨fresh, _, rfl⟩ := Turn.take_installed taken
  refine ⟨fresh, rfl, fun lost => ?_⟩
  rw [Turn.clears, if_pos rfl] at lost
  cases lost

/-- A slot that loses its secret in memory is still in step, since that is allowed for. -/
theorem whole_cleared (slot : Slot) : Whole [.cleared slot] := by
  intro turns holding later inStep replayed _ other
  cases replayed
  rw [isCleared_append, List.foldl_cons, List.foldl_nil, Turn.clears, Holding.get_remember]
  obtain ⟨kept, stored, memory⟩ := inStep other
  refine ⟨kept, stored, ?_⟩
  by_cases own : slot = other
  · subst own
    rw [if_pos rfl, if_pos rfl, memory]
    split <;> rfl
  · rw [if_neg own, if_neg own, memory]

/-- Locking or unlocking the store touches neither memory nor storage. -/
theorem whole_locked (readOnly : Bool) : Whole [.locked readOnly] := by
  intro turns holding later inStep replayed _ other
  cases replayed
  rw [isCleared_append]
  exact inStep other

/-- What has been restored is in step with a store that has a record for every slot. -/
theorem inStep_restored (recorded : ∀ slot, ∃ kept, holding.store.credential? slot = some kept)
    (turns : List Turn) (taken : Turn.restored.take holding = some later) :
    InStep (turns ++ [.restored]) later := by
  cases taken
  intro slot
  obtain ⟨kept, found⟩ := recorded slot
  obtain ⟨bytes, stored, read⟩ := Option.bind_eq_some_iff.mp found
  refine ⟨kept, ?_, ?_⟩
  · rw [Credential.record_ofRecord? read]
    exact stored
  · rw [isCleared_append]
    simp only [Holding.get_ofFn, found, Option.getD_some]
    rfl

end

end OtpToken
