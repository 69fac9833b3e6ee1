import OtpToken.Program
import OtpToken.Proofs.Device.Repairing
import OtpToken.Proofs.Storage.FileStore

/-!
# Requests that are refused

An invocation may name a slot that there is not. The program looks at the request only after it has
been brought up, so such a run ends with the error of the request, or with an error that came
before it. What was written by then stays: a state file or a key file that was missing, and a record
for every slot that had none. `run_of_refused_request` says that the disk is changed exactly in
these cases.
-/

namespace OtpToken

open CommandLine

namespace Board

variable (store later : Store) (input : Bytes) (buttons : Nat) (hasKeyboard : Bool)

/-- An initial board has the store that it is given. -/
theorem store_initial : (initial store input buttons hasKeyboard).store = store := rfl

/-- An initial board with another store is the initial board for that store. -/
theorem setStore_initial : (initial store input buttons hasKeyboard).setStore later =
    initial later input buttons hasKeyboard := rfl

end Board

/-- A device that starts over a state file changes nothing on the disk but this file, and leaves the
file alone exactly if every slot has a record there. -/
theorem Device.start_over_file (board : Board) (vault : KeyedVault) {path : String} {disk : Disk}
    {place : Place} {content : Bytes} (reachable : board.Reachable)
    (idle : board.keyValue.pending = none) (backed : board.store.Backed path disk place)
    (medium : board.store.medium = .file path disk) (held : disk.node place = .file content)
    (read : StateFile.read content = .ok board.store.table) :
    ∃ booted after, Device.start board vault = .ok () booted ∧
      booted.board.store.disk? = some (disk.set place (.file after)) ∧
      (disk.set place (.file after) = disk ↔ ∀ slot, (board.store.credential? slot).isSome) := by
  have atop : (initial board vault).board.Over false board.store := reachable.over_of_idle idle
  obtain ⟨loaded, booted, boots, left⟩ := bootsOver atop
  have repaired : loaded.store = board.store.repaired := left
  have repairs : board.store.Repairs loaded.store := repaired ▸ backed.writable.repairs
  have backedLoaded : loaded.store.Backed path disk place := repaired ▸ backed.repaired
  have backedBooted : booted.board.store.Backed path disk place := by
    by_cases formatted : Slot.first ∈ (Restored.ofFound board.store.credential?).formatted
    · obtain ⟨credential, _, _, _, _, atop⟩ := (boots.refilled formatted).keyed
      rw [atop.board.stored, Store.writing_idle]
      exact backedLoaded.written _ _
    · rw [boots.kept formatted]
      exact backedLoaded
  obtain ⟨after, wrote⟩ := backedBooted.disk?
  refine ⟨booted, after, boots.ends, wrote, fun same slot => ?_, fun stored => ?_⟩
  · have table : booted.board.store.table = board.store.table := by
      by_contra changed
      exact backedBooted.disk_ne held read changed (wrote.trans (congrArg some same))
    have recorded := boots.stored repairs slot
    rw [Store.credential?, Store.get?, table] at recorded
    exact Option.isSome_of_eq_some recorded
  · have unformatted : Slot.first ∉ (Restored.ofFound board.store.credential?).formatted := by
      intro formatted
      have none := stored Slot.first
      rw [Restored.mem_formatted.mp formatted] at none
      cases none
    have same : booted.board.store = board.store := by
      rw [boots.kept unformatted]
      exact repaired.trans (Store.repaired_of_stored stored)
    rw [same, Store.disk?, medium] at wrote
    exact (Option.some.inj wrote).symm

namespace Program

variable {surroundings : Surroundings} {invocation : Invocation} {config : Config}
  {drawn key : DeviceKey} {disk left : Disk} {store : Store} {error : UsageError}

/-- The program is brought up from its files: the state file is opened, there can be a table for the
buttons, and the device key is loaded. -/
structure Starts (config : Config) (drawn : DeviceKey) (disk : Disk) (store : Store)
    (key : DeviceKey) (left : Disk) : Prop where
  opens : Store.openFile config.stateFile disk = .ok store
  enough : config.buttons ≤ maxButtons
  loads : KeyFile.load config.keyFile drawn (store.disk?.getD disk) = .ok (key, left)

/-- Something is written while the program is brought up and its device starts. -/
inductive StartWrites (config : Config) (drawn : DeviceKey) (disk : Disk) : Prop
  /-- A state file is made. -/
  | stateFile {store : Store} (opens : Store.openFile config.stateFile disk = .ok store)
      (missing : disk.read config.stateFile = .error .notFound)
  /-- A key file is made. -/
  | keyFile {store : Store} {key : DeviceKey} {left : Disk}
      (starts : Starts config drawn disk store key left)
      (missing : disk.read config.keyFile = .error .notFound)
  /-- A slot without a record gets one. -/
  | record {store : Store} {key : DeviceKey} {left : Disk}
      (starts : Starts config drawn disk store key left) {slot : Slot}
      (unset : store.credential? slot = none)

/-- Nothing has changed but what is found by the paths of the two files. -/
def TouchesOnlyFiles (config : Config) (disk after : Disk) : Prop :=
  ∀ place, after.node place ≠ disk.node place →
    after.find config.stateFile = .ok place ∨ after.find config.keyFile = .ok place

/-- Once the program has been brought up, the device starts over the disk that is left then. -/
theorem bringUp_of_starts
    (starts : Starts config surroundings.drawnKey surroundings.disk store key left) :
    bringUp surroundings invocation config =
      launch invocation (.initial (store.mapDisk fun _ => left) surroundings.input config.buttons
        config.usbKeyboard) ⟨key, surroundings.nonces, 0⟩ left := by
  rw [bringUp, openStore, starts.opens]
  dsimp only
  rw [boardOf, if_pos starts.enough]
  dsimp only
  rw [loadKey, starts.loads]
  dsimp only
  rw [Board.setStore_initial]
  rfl

/-- A started device is told of the refusal, and nothing else is done with it. -/
theorem launch_of_refused {board : Board} {vault : KeyedVault} {booted : Device KeyedVault}
    (refused : invocation.request = .error error)
    (begins : Device.start board vault = .ok () booted) :
    launch invocation board vault disk =
      .ofError booted.board.console.transcript error.message (diskOf booted.board disk) := by
  unfold launch
  rw [begins]
  dsimp only
  unfold finish
  rw [refused]

/-- The disk of a started device is another one exactly if a file has been made or a slot had no
record. -/
theorem Starts.ne_iff_writes {made : Disk} {place : Place} {after : Bytes}
    (starts : Starts config drawn disk store key left)
    (opened : store.Opened config.stateFile disk made place)
    (provides : made.Provides config.keyFile drawn.val left)
    (unchanged : left.set place (.file after) = left ↔ ∀ slot, (store.credential? slot).isSome) :
    left.set place (.file after) ≠ disk ↔ StartWrites config drawn disk := by
  have files : ∀ spot content, left.node spot = .file content →
      ∃ now, (left.set place (.file after)).node spot = .file now := by
    intro spot content held
    by_cases own : spot = place
    · exact ⟨after, by rw [own, Disk.set_same]⟩
    · exact ⟨content, by rwa [Disk.set_other _ _ own]⟩
  constructor
  · intro changed
    by_contra spared
    have present : disk.read config.stateFile ≠ .error .notFound := fun missing =>
      spared (.stateFile starts.opens missing)
    obtain rfl := opened.provides.eq_of_found present
    have keyed : made.read config.keyFile ≠ .error .notFound := fun missing =>
      spared (.keyFile starts missing)
    obtain rfl := provides.eq_of_found keyed
    refine changed (unchanged.mpr fun slot => ?_)
    cases unset : store.credential? slot with
    | some credential => rfl
    | none => exact absurd (.record starts unset) spared
  · intro writes same
    have present : disk.read config.stateFile ≠ .error .notFound := fun missing =>
      opened.provides.ne_of_missing missing (fun spot content held =>
        files spot content (provides.file held)) same
    obtain rfl := opened.provides.eq_of_found present
    have keyed : made.read config.keyFile ≠ .error .notFound := fun missing =>
      provides.ne_of_missing missing files same
    obtain rfl := provides.eq_of_found keyed
    cases writes with
    | stateFile _ missing => exact present missing
    | keyFile _ missing => exact keyed missing
    | @record other _ _ others slot unset =>
      obtain rfl : other = store := Except.ok.inj (others.opens.symm.trans starts.opens)
      have kept := unchanged.mp same slot
      rw [unset] at kept
      cases kept

/-- A started device has touched the two files at most. -/
theorem touchesOnlyFiles_of_started {made : Disk} {place : Place} {content after : Bytes}
    (opened : store.Opened config.stateFile disk made place)
    (provides : made.Provides config.keyFile drawn.val left)
    (held : left.node place = .file content) :
    TouchesOnlyFiles config disk (left.set place (.file after)) := by
  have still : ∀ way spot, left.find way = .ok spot →
      (left.set place (.file after)).find way = .ok spot :=
    fun _ _ => Disk.find_set_file (by simp [held])
  intro spot changed
  by_cases own : spot = place
  · rw [own]
    exact .inl (still _ _ (provides.find opened.leads))
  · rw [Disk.set_other _ _ own] at changed
    by_cases opening : made.node spot = disk.node spot
    · rw [← opening] at changed
      exact .inr (still _ _ (provides.find_of_changed changed))
    · exact .inl (still _ _ (provides.find (opened.provides.find_of_changed opening)))

/-- Brought up, a run ends with the error of its request. -/
theorem Starts.bringUp_of_refused
    (starts : Starts config surroundings.drawnKey surroundings.disk store key left)
    (refused : invocation.request = .error error) :
    ∃ printed after,
      bringUp surroundings invocation config = .ofError printed error.message after ∧
      (after ≠ surroundings.disk ↔ StartWrites config surroundings.drawnKey surroundings.disk) ∧
      TouchesOnlyFiles config surroundings.disk after := by
  obtain ⟨made, place, opened⟩ := Store.opened_of_openFile starts.opens
  have loads := starts.loads
  rw [opened.disk?_eq, Option.getD_some] at loads
  have provides := KeyFile.provides_of_load loads
  obtain ⟨content, here, read⟩ := opened.holds
  have backed := opened.backed provides
  have mapped := opened.mapDisk_eq fun _ => left
  obtain ⟨booted, after, begins, wrote, unchanged⟩ := Device.start_over_file
    (.initial (store.mapDisk fun _ => left) surroundings.input config.buttons config.usbKeyboard)
    ⟨key, surroundings.nonces, 0⟩ (.initial ..) rfl backed
    (by rw [Board.store_initial, mapped]) (provides.file here)
    (by rw [Board.store_initial, mapped]; exact read)
  rw [Board.store_initial, mapped] at unchanged
  refine ⟨booted.board.console.transcript, left.set place (.file after), ?_,
    starts.ne_iff_writes opened provides unchanged,
    touchesOnlyFiles_of_started opened provides (provides.file here)⟩
  rw [bringUp_of_starts starts, launch_of_refused refused begins, diskOf, wrote, Option.getD_some]

/-- Where the program cannot be brought up, nothing but a state file can be made. -/
theorem StartWrites.made (writes : StartWrites config drawn disk)
    (fails : ∀ store key left, ¬Starts config drawn disk store key left) :
    ∃ store, Store.openFile config.stateFile disk = .ok store ∧
      disk.read config.stateFile = .error .notFound := by
  cases writes with
  | stateFile opens missing => exact ⟨_, opens, missing⟩
  | keyFile starts => exact absurd starts (fails _ _ _)
  | record starts => exact absurd starts (fails _ _ _)

/-- A run that cannot be brought up ends with an error, and may have made the state file. -/
theorem bringUp_of_not_starts
    (fails : ∀ store key left,
      ¬Starts config surroundings.drawnKey surroundings.disk store key left) :
    (bringUp surroundings invocation config).status ≠ succeeded ∧
      ((bringUp surroundings invocation config).disk ≠ surroundings.disk ↔
        StartWrites config surroundings.drawnKey surroundings.disk) ∧
      TouchesOnlyFiles config surroundings.disk
        (bringUp surroundings invocation config).disk := by
  rw [bringUp, openStore]
  cases opens : Store.openFile config.stateFile surroundings.disk with
  | error refusal =>
    refine ⟨(by decide : failed ≠ succeeded), ⟨fun changed => absurd rfl changed, fun writes => ?_⟩,
      fun _ changed => absurd rfl changed⟩
    obtain ⟨_, opened, _⟩ := writes.made fails
    rw [opens] at opened
    cases opened
  | ok store =>
    obtain ⟨made, place, opened⟩ := Store.opened_of_openFile opens
    have writes : made ≠ surroundings.disk ↔
        StartWrites config surroundings.drawnKey surroundings.disk := by
      refine ⟨fun changed => ?_, fun writes => ?_⟩
      · refine .stateFile opens ?_
        by_contra present
        exact changed (opened.provides.eq_of_found present)
      · obtain ⟨_, _, missing⟩ := writes.made fails
        exact opened.provides.ne_of_missing missing fun _ content held => ⟨content, held⟩
    have touches : TouchesOnlyFiles config surroundings.disk made :=
      fun _ changed => .inl (opened.provides.find_of_changed changed)
    dsimp only
    rw [opened.disk?_eq, Option.getD_some, boardOf]
    by_cases enough : config.buttons ≤ maxButtons
    · rw [if_pos enough, loadKey]
      cases loads : KeyFile.load config.keyFile surroundings.drawnKey made with
      | error refusal => exact ⟨(by decide : failed ≠ succeeded), writes, touches⟩
      | ok loaded =>
        refine absurd ⟨opens, enough, ?_⟩ (fails store loaded.1 loaded.2)
        rw [opened.disk?_eq]
        exact loads
    · rw [if_neg enough]
      exact ⟨(by decide : trapped ≠ succeeded), writes, touches⟩

/-- A run whose request is refused ends with an error, which is that of the request if the program
can be brought up. It leaves the disk as it was unless a file is made or a slot without a record is
formatted before the request is looked at, and touches nothing but the two files. -/
theorem run_of_refused_request
    (reads : CommandLine.read surroundings.arguments = .ok invocation)
    (refused : invocation.request = .error error) :
    (run surroundings).status ≠ succeeded ∧
    (∀ config store key left, invocation.config = .ok config →
      Starts config surroundings.drawnKey surroundings.disk store key left →
      (run surroundings).status = failed ∧
        (run surroundings).error = some (errorLine error.message)) ∧
    ((run surroundings).disk ≠ surroundings.disk ↔ ∃ config, invocation.config = .ok config ∧
      StartWrites config surroundings.drawnKey surroundings.disk) ∧
    ∀ config, invocation.config = .ok config →
      TouchesOnlyFiles config surroundings.disk (run surroundings).disk := by
  cases configured : invocation.config with
  | error usage =>
    rw [run, reads]
    dsimp only
    rw [configured]
    refine ⟨(by decide : failed ≠ succeeded), ?_, ⟨fun changed => absurd rfl changed, ?_⟩, ?_⟩
    · intro config _ _ _ means
      cases means
    · rintro ⟨config, means, -⟩
      cases means
    · intro config means
      cases means
  | ok config =>
    have ran : run surroundings = bringUp surroundings invocation config := by
      rw [run, reads]
      dsimp only
      rw [configured]
    rw [ran]
    simp only [Except.ok.injEq, exists_eq_left', forall_eq']
    by_cases brought : ∃ store key left,
        Starts config surroundings.drawnKey surroundings.disk store key left
    · obtain ⟨store, key, left, starts⟩ := brought
      obtain ⟨printed, after, ends, writes, touches⟩ := starts.bringUp_of_refused refused
      rw [ends]
      exact ⟨(by decide : failed ≠ succeeded), fun _ _ _ _ _ _ => ⟨rfl, rfl⟩, writes, touches⟩
    · push Not at brought
      obtain ⟨fails, written⟩ := bringUp_of_not_starts brought
      refine ⟨fails, fun other store key left means starts => ?_, written⟩
      cases means
      exact absurd starts (brought store key left)

/-- A first run that asks for a code of a fifth slot. -/
def firstRun : Surroundings :=
  ⟨["code", "4"], [], .blank, Block.zero _, fun _ => Block.zero _⟩

/-- The first run ends with an error, and has made a state file. -/
theorem run_of_refused_request_first :
    ∃ invocation, CommandLine.read firstRun.arguments = .ok invocation ∧
      invocation.request = .error (.slotOutOfRange 4) ∧
      (run firstRun).status ≠ succeeded ∧ (run firstRun).disk ≠ firstRun.disk := by
  let invocation : Invocation := ⟨.code, .nothing, ⟨[], [], ["4"]⟩⟩
  have reads : CommandLine.read firstRun.arguments = .ok invocation := by decide +kernel
  have refused : invocation.request = .error (.slotOutOfRange 4) := by decide +kernel
  have configured : invocation.config = .ok ⟨"hotp-state.bin", "hotp-oracle.key", 4, false, 0⟩ := by
    decide +kernel
  have missing : firstRun.disk.read "hotp-state.bin" = .error .notFound := by decide +kernel
  have made : (Store.flush? [] (.file "hotp-state.bin" firstRun.disk)).isSome := by decide +kernel
  obtain ⟨medium, flushed⟩ := Option.isSome_iff_exists.mp made
  have opens : Store.openFile "hotp-state.bin" firstRun.disk = .ok ⟨[], medium, false, 0⟩ := by
    simp only [Store.openFile, missing, flushed]
  obtain ⟨fails, -, changed, -⟩ := run_of_refused_request reads refused
  exact ⟨invocation, reads, refused, fails,
    changed.mpr ⟨_, configured, .stateFile opens missing⟩⟩

end Program

end OtpToken
