import OtpToken.Device.Run
import OtpToken.Proofs.Blocking.Delay
import OtpToken.Proofs.Blocking.Input
import OtpToken.Proofs.Device.Program

/-!
# Devices that can be reached

A device is reached from its start over a writable store by what can be done with it:
emitting, programming, handling presses and running, in any order, with commands to
the alarms, the buttons and the lights and with yields in between. Whatever has been
done, the board is at rest, and the store keeps for every slot what is in memory,
except that a slot may have lost its secret in memory alone (`Reached.durable`).
-/

namespace OtpToken

namespace Facts

variable {σ : Type}

/-- The store can be written, and it keeps for every slot what is in memory, unless the slot has lost
its secret there. -/
structure Kept (facts : Facts σ) : Prop where
  writable : facts.traces.store.Writable
  stored : ∀ slot, ∃ kept, facts.traces.store.credential? slot = some kept ∧
    (facts.credentials.get slot = kept ∨ facts.credentials.get slot = kept.clear)

variable {facts : Facts σ}

/-- Where the store keeps what is in memory, the digits in memory are those of the slots. -/
theorem Kept.digits (kept : facts.Kept) (slot : Slot) :
    (facts.credentials.get slot).digits = slot.digits := by
  obtain ⟨credential, stored, same⟩ := kept.stored slot
  obtain ⟨bytes, _, read⟩ := Option.bind_eq_some_iff.mp stored
  have right : credential.digits = slot.digits := Credential.digits_ofRecord? read
  rcases same with same | same <;> rw [same, ← right]
  rfl

/-- A configured slot is in memory as it is in the store. -/
theorem Kept.of_configured (kept : facts.Kept) {slot : Slot}
    (configured : (facts.credentials.get slot).isConfigured = true) :
    facts.traces.store.credential? slot = some (facts.credentials.get slot) := by
  obtain ⟨credential, stored, same | same⟩ := kept.stored slot
  · rw [same, stored]
  · rw [same] at configured
    cases configured

/-- A slot whose new record has been stored is kept again. -/
theorem Kept.replace (kept : facts.Kept) {slot : Slot} {credential : Credential} {store : Store}
    (digits : credential.digits = slot.digits)
    (put : facts.traces.store.put (Keystore.recordKey slot) credential.record = .ok store)
    (writable : store.Writable) : ((facts.setCredential slot credential).setStore store).Kept := by
  refine ⟨writable, fun other => ?_⟩
  have held : ((facts.setCredential slot credential).setStore store).credentials.get other =
    if slot = other then credential else facts.credentials.get other := Keystore.get_set ..
  rw [held, setStore, Store.credential?_put put]
  by_cases same : slot = other
  · rw [if_pos same, if_pos same, ← digits]
    exact ⟨credential, rfl, .inl rfl⟩
  · rw [if_neg same, if_neg same]
    exact kept.stored other

/-- A slot may lose its secret in memory. -/
theorem Kept.clear (kept : facts.Kept) (slot : Slot) :
    (facts.setCredential slot (facts.credentials.get slot).clear).Kept := by
  refine ⟨kept.writable, fun other => ?_⟩
  have held : (facts.setCredential slot (facts.credentials.get slot).clear).credentials.get other =
    if slot = other then (facts.credentials.get slot).clear else facts.credentials.get other :=
      Keystore.get_set ..
  rw [held]
  obtain ⟨credential, stored, same⟩ := kept.stored other
  refine ⟨credential, stored, ?_⟩
  by_cases own : slot = other
  · subst own
    rw [if_pos rfl]
    rcases same with same | same <;> rw [same]
    · exact .inr rfl
    · exact .inr rfl
  · rw [if_neg own]
    exact same

/-- Nothing but memory and store matters. -/
theorem Kept.congr {later : Facts σ} (kept : facts.Kept)
    (store : later.traces.store = facts.traces.store)
    (credentials : later.credentials = facts.credentials) : later.Kept := by
  refine ⟨store ▸ kept.writable, fun slot => ?_⟩
  rw [store, credentials]
  exact kept.stored slot

/-- What an emission leaves in the store and in memory is kept. -/
theorem Kept.emitted {slot : Slot} {code : Code} {store : Store} (kept : facts.Kept)
    (writable : store.Writable)
    (put : facts.traces.store.put (Keystore.recordKey slot)
      (facts.credentials.get slot).next.record = .ok store) :
    (((facts.setCredential slot (facts.credentials.get slot).next).setStore store).deliver
      code (facts.credentials.get slot).counter).Kept := by
  have digits : (facts.credentials.get slot).next.digits = slot.digits := kept.digits slot
  refine (kept.replace digits put writable).congr ?_ rfl
  exact Traces.store_deliver ..

end Facts

namespace Device

open Act

variable {σ α β : Type}

/-- The board of the device is at rest, and its store keeps what is in memory. -/
structure Durable (device : Device σ) : Prop where
  rest : device.board.AtRest
  kept : device.facts.Kept

/-- Unless it was stopped, the device is durable in the end. -/
def Survives (result : EStateM.Result Failure (Device σ) α) : Prop :=
  match failure? result with
  | some (.trap _) => True
  | _ => (ending result).Durable

/-- An act leaves a durable device durable, unless it stops it. -/
abbrev Keeps (act : DeviceAct σ α) : Prop := Follows (.keeping Durable) act

/-- A durable device survives an act that is known by the facts it leads to. -/
theorem Durable.leads {device : Device σ} {act : DeviceAct σ α} {outcome : Except Fault α}
    {later : Facts σ} (durable : device.Durable)
    (leads : Leads (fun _ => True) act device.facts outcome later) (kept : later.Kept) :
    Survives (act device) := by
  have ends := leads device durable.rest.ready rfl
  generalize act device = result at ends
  cases ends with
  | ok continues left => exact ⟨durable.rest.continues continues, left ▸ kept⟩
  | fault continues left => exact ⟨durable.rest.continues continues, left ▸ kept⟩
  | cut => trivial

/-- Nothing is asked of an act that is stopped. -/
theorem Durable.stops {device : Device σ} {act : DeviceAct σ α} {trap : Trap} {later : Facts σ}
    (durable : device.Durable) (stops : Stops act device.facts trap later) :
    Survives (act device) := by
  obtain ⟨after, ran, _⟩ := stops device durable.rest.ready durable.rest.supplied rfl
  rw [ran]
  trivial

namespace Keeps

/-- A durable device survives an act that keeps it durable. -/
theorem survives {device : Device σ} {act : DeviceAct σ α} (keeps : Keeps act)
    (durable : device.Durable) : Survives (act device) := keeps device durable

/-- What is done with a board at rest that leaves it at rest and its store as it is. -/
theorem onBoard {action : BoardAct α}
    (keeps : ∀ board : Board, board.AtRest →
      match failure? (action board) with
      | some (.trap _) => True
      | _ => (ending (action board)).AtRest ∧ (ending (action board)).store = board.store) :
    Keeps (Device.onBoard action : DeviceAct σ α) := by
  intro device durable
  have one := keeps device.board durable.rest
  unfold Device.onBoard
  cases ran : action device.board with
  | ok value after =>
    rw [ran] at one
    exact ⟨one.1, durable.kept.congr one.2 rfl⟩
  | error failure after =>
    rw [ran] at one
    cases failure with
    | fault fault => exact ⟨one.1, durable.kept.congr one.2 rfl⟩
    | trap trap => trivial

/-- Printing a line keeps a device durable. -/
theorem printLine (line : String) : Keeps (Device.printLine line : DeviceAct σ Unit) :=
  fun _ durable => durable.leads (Leads.printLine line)
    (durable.kept.congr rfl rfl)

/-- Turning a light on or off keeps it durable. -/
theorem setLight (slot : Slot) (lit : Bool) : Keeps (Device.setLight slot lit : DeviceAct σ Unit) :=
  fun _ durable => durable.leads (Leads.setLight slot lit) durable.kept

/-- What keeps a device durable in the dark keeps it so under a light. -/
theorem withLight (slot : Slot) {body : DeviceAct σ α} (keeps : Keeps body) :
    Keeps (Device.withLight slot body) :=
  .bind (setLight slot true) fun _ => .bind (.attempt keeps) fun result =>
    .bind (setLight slot false) fun _ => .ofExcept result

/-- To wait for a press leaves a board at rest, and so does the look at the button after it. -/
theorem nextEvent (watch : ButtonWatch) :
    Keeps (Device.onBoard watch.nextEvent : DeviceAct σ ButtonEvent) := by
  refine .onBoard fun board rest => ?_
  have kept := rest.watch
    (fun _ calls => (watch.ticket.pressed? board.calls.length calls).isSome) (fun _ => false) 0
  have waited := watch.nextPress_eq board
  rw [Board.waitUntil] at waited
  generalize board.watch _ _ _ = watched at kept waited
  obtain ⟨result, polls, left⟩ := watched
  cases result with
  | error failure =>
    rw [ButtonWatch.nextEvent, bind_of_error waited]
    cases failure with
    | fault fault => exact kept
    | trap trap => trivial
  | ok _ =>
    have whole : ticksFor tickFrequency ButtonWatch.debounceMilliseconds = .ok 16384 := by decide
    obtain ⟨after, delayed, continues, traces, _⟩ := BoardAct.delay_eq kept.1 whole
    have store : after.store = board.store := (congrArg Traces.store traces).trans kept.2
    have restAfter := kept.1.continues continues
    rw [ButtonWatch.nextEvent_of_pressed waited delayed]
    cases after.buttons.read _ <;> exact ⟨restAfter, store⟩

end Keeps

section

variable [Vault σ] {known : Facts σ} {slot : Slot}

/-- How an emission on a configured slot goes where the store keeps what is in memory: its secret
cannot be used, or its counter is at the limit, or a code is delivered after the next counter has
been stored. -/
theorem emitCode_cases (kept : known.Kept)
    (configured : (known.credentials.get slot).isConfigured = true) :
    (∃ fault, Leads (· = known.traces) (emitCode slot.val) known (.error fault) known) ∨
    (¬(known.credentials.get slot).counter.toNat + 1 < UInt64.size ∧
      Stops (emitCode slot.val) known .counterOverflow known) ∨
    ∃ code store, store.Writable ∧
      known.traces.store.put (Keystore.recordKey slot) (known.credentials.get slot).next.record =
        .ok store ∧
      Leads (fun traces => traces = known.traces ∨ traces = { known.traces with store := store })
        (emitCode slot.val) known (.ok code)
        (((known.setCredential slot (known.credentials.get slot).next).setStore store).deliver
          code (known.credentials.get slot).counter) := by
  have right : 1 ≤ (known.credentials.get slot).digits ∧
      (known.credentials.get slot).digits ≤ Code.maxDigits := by
    rw [kept.digits]
    exact slot.digits_mem
  cases opened : Vault.openSecret known.vault (known.credentials.get slot).iv
      (known.credentials.get slot).sealedSecret with
  | error fault => exact .inl ⟨fault, .emitCode configured (.nextCode_of_sealed opened)⟩
  | ok secret =>
    cases derived : Code.derive secret (known.credentials.get slot).counter
        (known.credentials.get slot).digits with
    | error fault => exact .inl ⟨fault, .emitCode configured (.nextCode_of_unfit opened right derived)⟩
    | ok code =>
      by_cases below : (known.credentials.get slot).counter.toNat + 1 < UInt64.size
      · obtain ⟨store, put, writable, _⟩ := kept.writable.put (Keystore.recordKey slot)
          (known.credentials.get slot).next.record
        exact .inr (.inr ⟨code, store, writable, put,
          .emitCode configured (.nextCode opened right derived below put)⟩)
      · exact .inr (.inl ⟨below, .emitCode configured opened right derived below⟩)

/-- An emission keeps a device durable, whatever number is pressed. -/
theorem Keeps.emitCode (number : Nat) : Keeps (Device.emitCode number : DeviceAct σ Code) := by
  intro device durable
  rcases Slot.select_cases number with ⟨slot, rfl⟩ | none
  · cases configured : (device.facts.credentials.get slot).isConfigured with
    | false => exact durable.leads (Leads.emitCode_of_blank configured) durable.kept
    | true =>
      rcases emitCode_cases durable.kept configured with
        ⟨fault, leads⟩ | ⟨_, stops⟩ | ⟨code, store, writable, put, leads⟩
      · exact durable.leads leads.any durable.kept
      · exact durable.stops stops
      · exact durable.leads leads.any (durable.kept.emitted writable put)
  · exact durable.leads (Leads.bind_fault (Leads.slotOf_of_error none)) durable.kept

/-- Programming a text keeps a device durable, whether or not it is a secret. -/
theorem Keeps.programSecret (number : Nat) (text : String) :
    Keeps (Device.programSecret number text : DeviceAct σ Unit) := by
  intro device durable
  rcases Slot.select_cases number with ⟨slot, rfl⟩ | none
  · cases installs : installing device.facts.vault (device.facts.credentials.get slot) text with
    | mk answer vault =>
      cases answer with
      | error fault =>
        refine durable.leads (Leads.programSecret_of_error installs) ?_
        exact (durable.kept.clear slot).congr rfl rfl
      | ok installed =>
        obtain ⟨store, put, writable, _⟩ := durable.kept.writable.put (Keystore.recordKey slot)
          installed.record
        have digits : installed.digits = slot.digits :=
          (fields_of_installing installs).1.trans (durable.kept.digits slot)
        refine durable.leads (Leads.programSecret installs put).any ?_
        exact (durable.kept.replace digits put writable).congr rfl rfl
  · exact durable.leads (Leads.bind_fault (Leads.slotOf_of_error none)) durable.kept

/-- Asking for a secret and programming it keeps a device durable. -/
theorem Keeps.programNewSecret (number : Nat) :
    Keeps (Device.programNewSecret number : DeviceAct σ Unit) := by
  refine .bind (.ofExcept _) fun slot => withLight slot (.bind (printLine _) fun _ => ?_)
  refine .bind (printLine _) fun _ => .bind (onBoard fun board rest => ?_) fun line => ?_
  · obtain ⟨after, ran, continues, _, left⟩ := SecretEntry.readLine_eq rest
    have store : after.store = board.store := congrArg Traces.store left
    rw [ran]
    by_cases ended : (SecretEntry.scan 0 board.console.input).2.2 = true
    · rw [if_pos ended]
      exact ⟨rest.continues continues, store⟩
    · rw [if_neg ended]
      exact ⟨rest.continues continues, store⟩
  · split
    · exact printLine _
    · exact programSecret number line

/-- Programming the default secret keeps a device durable. -/
theorem Keeps.programDefault : Keeps (Device.programDefault : DeviceAct σ Unit) := by
  refine .bind (.attempt (withLight _ (programSecret _ _))) fun result => ?_
  cases result with
  | ok _ => exact .pure ()
  | error fault => exact printLine _

/-- Handling a press keeps a device durable. -/
theorem Keeps.handle (event : ButtonEvent) : Keeps (Device.handle event : DeviceAct σ Unit) := by
  unfold Device.handle
  split
  · exact programNewSecret event.button
  · exact .bind (emitCode event.button) fun _ => .pure ()

/-- Waiting for the next press and handling it keeps a device durable. -/
theorem Keeps.handleNext (watch : ButtonWatch) :
    Keeps (Device.handleNext watch : DeviceAct σ Unit) :=
  .bind (nextEvent watch) handle

/-- Running keeps a device durable. -/
theorem Keeps.run : Keeps (Device.run : DeviceAct σ Unit) := by
  refine .bind (printLine _) fun _ => .bind (.attempt (onBoard fun board rest => ?_)) fun begun => ?_
  · obtain ⟨after, ran, restAfter, left, _⟩ := ButtonWatch.begin_eq rest
    rw [ran]
    exact ⟨restAfter, congrArg Traces.store left⟩
  · cases begun with
    | ok watch => exact follows_serve (handleNext watch) fun _ => printLine _
    | error fault => exact .bind (printLine _) fun _ => .fail fault

end

/-- What can be done with a device from outside. -/
inductive Deed
  | emit (number : Nat)
  | program (number : Nat) (text : String)
  | programNew (number : Nat)
  | handle (event : ButtonEvent)
  | run
  | report (fault : Fault)
  /-- A command to its board. -/
  | command (command : Command Subscriber Nat) (aside : command.IsAside)
  /-- A yield to its board. -/
  | yield

/-- Gives a command to the board. -/
def obey (command : Command Subscriber Nat) : DeviceAct σ Unit :=
  onBoard fun board =>
    match board.obey command with
    | .ok (_, after) => .ok () after
    | .error code => .error (.fault (.rejected code)) board

/-- Yields to the board. -/
def yield : DeviceAct σ Unit :=
  onBoard fun board =>
    match board.yield with
    | (.stopped trap, after) => .error (.trap trap) after
    | (_, after) => .ok () after

/-- Does something with a device. -/
def Deed.perform [Vault σ] : Deed → DeviceAct σ Unit
  | emit number => do let _ ← emitCode number
  | program number text => programSecret number text
  | programNew number => programNewSecret number
  | handle event => Device.handle event
  | run => Device.run
  | report fault => Device.report fault
  | command given _ => obey given
  | yield => Device.yield

/-- The devices that can be reached: what is done may fail, but must not stop the program. -/
inductive Reached [Vault σ] : Device σ → Prop
  | start {store : Store} (input : Bytes) (buttons : Nat) (hasKeyboard : Bool) (vault : σ)
      {device : Device σ} (writable : store.Writable)
      (started : Device.start (.initial store input buttons hasKeyboard) vault = .ok () device) :
      Reached device
  | done {device after : Device σ} (reached : Reached device) (deed : Deed)
      (ended : deed.perform device = .ok () after) : Reached after
  | failed {device after : Device σ} {fault : Fault} (reached : Reached device) (deed : Deed)
      (ended : deed.perform device = .error (.fault fault) after) : Reached after

/-- Commands to the alarms, the buttons and the lights keep a device durable. -/
theorem Keeps.obey {command : Command Subscriber Nat} (aside : command.IsAside) :
    Keeps (Device.obey command : DeviceAct σ Unit) := by
  refine onBoard fun board rest => ?_
  cases obeyed : board.obey command with
  | error code => exact ⟨rest, rfl⟩
  | ok answered => exact rest.obey aside (Board.obeys_of_ok obeyed)

/-- A yield keeps a device durable. -/
theorem Keeps.yield : Keeps (Device.yield : DeviceAct σ Unit) := by
  refine onBoard fun board rest => ?_
  obtain ⟨yielded, after, ran, running, kept⟩ := rest.yield
  simp only [ran]
  cases yielded with
  | serviced | idle => exact kept
  | stopped trap => exact absurd rfl (running trap)

/-- Whatever is done with a device from outside keeps it durable. -/
theorem Keeps.perform [Vault σ] (deed : Deed) : Keeps (deed.perform : DeviceAct σ Unit) := by
  cases deed with
  | emit number => exact .bind (Keeps.emitCode number) fun _ => .pure ()
  | program number text => exact Keeps.programSecret number text
  | programNew number => exact Keeps.programNewSecret number
  | handle event => exact Keeps.handle event
  | run => exact Keeps.run
  | report fault => exact Keeps.printLine _
  | command command aside => exact Keeps.obey aside
  | yield => exact Keeps.yield

/-- A device that has restored its slots over a board: they are in memory as they are in the store. -/
structure Awake (board : Board) (device : Device σ) : Prop where
  continues : board.Continues device.board
  traces : device.board.traces = { board.traces with store := device.board.store }
  durable : device.Durable
  credentials : ∀ slot, device.credentials.get slot =
    (board.store.credential? slot).getD (.blank slot)
  stored : ∀ slot, device.board.store.credential? slot = some (device.credentials.get slot)

/-- A start restores the slots, and programs the default secret if the first slot had no record. -/
theorem start_awake [Vault σ] {board : Board} (rest : board.AtRest)
    (writable : board.store.Writable) (vault : σ) :
    ∃ found : Device σ, Awake board found ∧ found.vault = vault ∧ start board vault =
      if board.store.credential? Slot.first = none then programDefault found else .ok () found := by
  obtain ⟨restored, after, continues, left, restores, begins⟩ :=
    start_eq rest.ready rest.supplied writable vault
  have every : ∀ slot, slot ∈ Slot.all := List.mem_finRange
  have stored := fun slot => restores.stored slot (every slot)
  have held := fun slot => restores.credentials slot (every slot)
  refine ⟨⟨after, vault, restored.credentials⟩, ⟨continues, left, ?_, held, stored⟩, rfl, begins⟩
  exact ⟨rest.continues continues, restores.writable, fun slot => ⟨_, stored slot, .inl rfl⟩⟩

/-- A device that starts over a writable store is durable. -/
theorem durable_of_start [Vault σ] {store : Store} {input : Bytes} {buttons : Nat}
    {hasKeyboard : Bool} {vault : σ} {device : Device σ} (writable : store.Writable)
    (started : start (.initial store input buttons hasKeyboard) vault = .ok () device) :
    device.Durable := by
  obtain ⟨found, awake, _, begins⟩ :=
    start_awake (.initial store input buttons hasKeyboard) writable vault
  rw [begins] at started
  split at started
  · have kept := Keeps.programDefault found awake.durable
    rw [started] at kept
    exact kept
  · cases started
    exact awake.durable

/-- Whatever has been done with a device, it is durable. -/
theorem Reached.durable [Vault σ] {device : Device σ} (reached : Reached device) :
    device.Durable := by
  induction reached with
  | start _ _ _ _ writable started => exact durable_of_start writable started
  | done _ deed ended durable =>
    have kept := Keeps.perform deed _ durable
    rw [ended] at kept
    exact kept
  | failed _ deed ended durable =>
    have kept := Keeps.perform deed _ durable
    rw [ended] at kept
    exact kept

end Device

end OtpToken
