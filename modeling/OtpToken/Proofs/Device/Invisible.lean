import OtpToken.Proofs.Device.Life
import OtpToken.Proofs.Device.Twins

/-!
# What is seen of a device

Somebody who does not hold the device key sees how a device answers, what it prints, types and
lights, when it does so, and all of its credentials and records but their initialization vectors
and sealed secrets. None of this depends on the device key or on the nonces that are drawn under
it (`Life.observe_under_eq`): the lives of two devices with different keys that start on a blank
store stay twins through every event.
-/

namespace OtpToken

open Act

/-- What can be seen of a credential. -/
structure Credential.Outline where
  secretLength : Nat
  counter : UInt64
  digits : Nat
  deriving DecidableEq, Repr

/-- A credential without its vector and its sealed secret. -/
def Credential.outline (credential : Credential) : Outline :=
  ⟨credential.secretLength, credential.counter, credential.digits⟩

/-- What can be seen of an entry of a store. -/
structure EntryOutline where
  key : Bytes
  length : Nat
  secretLength : Bytes
  counter : Bytes
  deriving DecidableEq, Repr

/-- An entry of a store without the vector and the sealed secret of its record. -/
def EntryOutline.of (entry : Bytes × Bytes) : EntryOutline where
  key := entry.1
  length := entry.2.length
  secretLength := entry.2.take 1
  counter := entry.2.drop Credential.counterOffset

/-- What can be seen of a device. -/
structure View where
  clock : Nat
  transcript : String
  typed? : Option (List String)
  runs : Nat
  lights : Lights
  writes : Nat
  credentials : Slot → Credential.Outline
  records : List EntryOutline

/-- The device as it can be seen. -/
def Device.view {σ : Type} (device : Device σ) : View where
  clock := device.board.clock
  transcript := device.board.console.transcript
  typed? := device.board.typed?
  runs := device.board.macUnit.runs
  lights := device.board.lights
  writes := device.board.store.writes
  credentials slot := (device.credentials.get slot).outline
  records := device.board.store.table.map .of

namespace Act

variable {σ α : Type} {states : σ → σ → Prop} {act other : Act σ α} {state twin : σ}

/-- Acts that match have the same outcome on twins. -/
theorem Matches.outcome (same : Matches states Eq act other) (twins : states state twin) :
    Act.outcome (other twin) = Act.outcome (act state) := by
  have ended := same _ _ twins
  generalize act state = first, other twin = second at ended
  cases ended with
  | ok same => exact congrArg Except.ok same.symm
  | error => rfl

end Act

namespace Life

open Device

/-- The event with a device key; the number of a start says which nonces it draws. -/
def Event.under (key : DeviceKey) (nonces : Nat → Nat → Nonce) : Event Nat → Event KeyedVault
  | boot input buttons hasKeyboard charge number =>
    boot input buttons hasKeyboard charge ⟨key, nonces number, 0⟩
  | use kind charge => use kind charge
  | lock readOnly => lock readOnly

section Observation

variable {σ : Type} [Vault σ]

/-- How the use of a device ends, with the code where one has been emitted. -/
def answer (use : Use) (device : Device σ) : Except Failure (Option Code) :=
  match use with
  | .emit number => (outcome (emitCode number device)).map some
  | .program .. | .programNew _ | .run => (outcome (use.perform device)).map fun _ => none

/-- How an event ends. -/
def Event.answer (event : Event σ) (life : Life σ) : Except Failure (Option Code) :=
  match event with
  | boot input buttons hasKeyboard charge vault =>
    (outcome (start ((Board.initial life.device.board.store input buttons hasKeyboard).withCharge
      charge) vault)).map fun _ => none
  | use kind charge =>
    if life.running then Life.answer kind (life.device.lasting charge) else .ok none
  | lock _ => .ok none

/-- What is seen of events, one after the other: how each ends, and the device after it. -/
def observe : List (Event σ) → Life σ → List (Except Failure (Option Code) × View)
  | [], _ => []
  | event :: events, life =>
    (event.answer life, (event.take life).device.view) :: observe events (event.take life)

end Observation

end Life

variable {one other : DeviceKey}

/-- What is seen of twin tables is the same. -/
theorem map_outline {table changed : Table}
    (twins : Table.Twins (RecordsAlike one other) table changed) :
    changed.map EntryOutline.of = table.map EntryOutline.of := by
  induction twins with
  | nil => rfl
  | cons same _ ih =>
    obtain ⟨key, alike⟩ := same
    rw [List.map_cons, List.map_cons, ih, EntryOutline.of, key, alike.length, alike.secretLength,
      alike.counter, EntryOutline.of]

/-- What is seen of twins is the same. -/
theorem Device.Twins.view {device twin : Device KeyedVault}
    (twins : Device.Twins one other device twin) : twin.view = device.view := by
  have units := twins.board.unit
  have rest := twins.board.rest
  have writes : twin.board.store.writes = device.board.store.writes := units.store.writes
  have credentials : (fun slot => (twin.credentials.get slot).outline) =
      fun slot => (device.credentials.get slot).outline := by
    funext slot
    have same := twins.credentials slot
    rw [Credential.outline, same.secretLength, same.counter, same.digits, Credential.outline]
  have records : twin.board.store.table.map EntryOutline.of =
      device.board.store.table.map EntryOutline.of := map_outline units.store.table
  unfold Device.view
  rw [writes, credentials, records, rest]
  rfl

namespace Life

open Device

/-- Lives of twins. -/
structure Twins (one other : DeviceKey) (life twin : Life KeyedVault) : Prop where
  device : Device.Twins one other life.device twin.device
  running : twin.running = life.running

variable {life twin : Life KeyedVault}

/-- A blind act leaves twins. -/
theorem twins_after {act : DeviceAct KeyedVault Unit} (blind : Device.Blind one other act)
    {device found : Device KeyedVault} (twins : Device.Twins one other device found) :
    Twins one other (after (act device)) (after (act found)) :=
  ⟨blind.ending twins, congrArg goesOn (blind.outcome twins)⟩

/-- No use tells twins apart. -/
theorem blind_perform (use : Use) : Device.Blind one other use.perform := by
  cases use with
  | emit number => exact .bind_eq (blind_emitCode number) fun _ => .pure rfl
  | program number text => exact blind_programSecret number text
  | programNew number => exact blind_programNewSecret number
  | run => exact blind_run

/-- Twins answer a use alike. -/
theorem answer_twins (use : Use) {device found : Device KeyedVault}
    (twins : Device.Twins one other device found) : answer use found = answer use device := by
  have same := congrArg (Except.map fun _ => (none : Option Code))
    ((blind_perform use).outcome twins)
  cases use with
  | emit number => exact congrArg (Except.map some) ((blind_emitCode number).outcome twins)
  | program number text => exact same
  | programNew number => exact same
  | run => exact same

/-- Twin stores make twins of devices that are about to be started. -/
theorem twins_initial {store changed : Store}
    (stores : Store.Twins (RecordsAlike one other) store changed) (input : Bytes) (buttons : Nat)
    (hasKeyboard : Bool) (charge : Option Nat) {vault found : KeyedVault} (key : vault.key = one)
    (otherKey : found.key = other) :
    Device.Twins one other
      (initial ((Board.initial store input buttons hasKeyboard).withCharge charge) vault)
      (initial ((Board.initial changed input buttons hasKeyboard).withCharge charge) found) where
  board := ⟨rfl, stores, rfl, rfl, RecordsAlike.likeness.empty, RecordsAlike.likeness.empty, rfl⟩
  key := key
  otherKey := otherKey
  credentials := Credential.Twins.blank

/-- An event that happens to twins ends in the same way, and leaves twins. -/
theorem Twins.take (twins : Twins one other life twin) (nonces drawn : Nat → Nat → Nonce)
    (event : Event Nat) :
    (event.under other drawn).answer twin = (event.under one nonces).answer life ∧
      Twins one other ((event.under one nonces).take life) ((event.under other drawn).take twin) := by
  cases event with
  | boot input buttons hasKeyboard charge number =>
    have fresh := @twins_initial one other _ _ twins.device.board.unit.store input buttons
      hasKeyboard charge ⟨one, nonces number, 0⟩ ⟨other, drawn number, 0⟩ rfl rfl
    exact ⟨congrArg (Except.map _) (blind_boot.outcome fresh), twins_after blind_boot fresh⟩
  | use kind charge =>
    cases running : life.running with
    | false =>
      have stopped := twins.running.trans running
      simp only [Event.under, Event.answer, Event.take, running, stopped, Bool.false_eq_true,
        if_false]
      exact ⟨trivial, twins⟩
    | true =>
      have goes := twins.running.trans running
      have lasting : Device.Twins one other (life.device.lasting charge)
          (twin.device.lasting charge) :=
        { twins.device with board := twins.device.board.withCharge charge }
      simp only [Event.under, Event.answer, Event.take, running, goes, if_true]
      exact ⟨answer_twins kind lasting, twins_after (blind_perform kind) lasting⟩
  | lock readOnly =>
    have boards := twins.device.board.setReadOnly readOnly
    exact ⟨rfl, { twins.device with board := boards }, twins.running⟩

/-- Twins are observed alike through any list of events. -/
theorem observe_twins (nonces drawn : Nat → Nat → Nonce) (events : List (Event Nat))
    (twins : Twins one other life twin) :
    observe (events.map (.under other drawn)) twin =
      observe (events.map (.under one nonces)) life := by
  induction events generalizing life twin with
  | nil => rfl
  | cons event events ih =>
    obtain ⟨answered, left⟩ := twins.take nonces drawn event
    simp only [List.map_cons, observe]
    rw [answered, left.device.view, ih left]

/-- Neither the device key nor the nonces are seen. Whatever happens to a device that starts on a
blank store, every event ends alike and leaves the same to be seen under another key and with other
nonces. -/
theorem observe_under_eq (one other : DeviceKey) (nonces drawn : Nat → Nat → Nonce)
    (medium : Medium) (readOnly : Bool) (events : List (Event Nat)) :
    let store : Store := ⟨[], medium, readOnly, 0⟩
    observe (events.map (.under one nonces)) (.fresh store ⟨one, nonces 0, 0⟩) =
      observe (events.map (.under other drawn)) (.fresh store ⟨other, drawn 0, 0⟩) := by
  have stores : Store.Twins (RecordsAlike one other) ⟨[], medium, readOnly, 0⟩
      ⟨[], medium, readOnly, 0⟩ := ⟨.nil, .refl medium, rfl, rfl⟩
  have fresh : Twins one other (.fresh ⟨[], medium, readOnly, 0⟩ ⟨one, nonces 0, 0⟩)
      (.fresh ⟨[], medium, readOnly, 0⟩ ⟨other, drawn 0, 0⟩) :=
    ⟨twins_initial stores [] 0 false none rfl rfl, rfl⟩
  exact (observe_twins nonces drawn events fresh).symm

end Life

end OtpToken
