import OtpToken.Bench.BoardSession
import OtpToken.Bench.TrialVault
import OtpToken.Device.Run

/-!
# Sessions with a device

A session starts a device over a store in memory or in a file, and takes steps with
it. The device can be restarted over what it has stored. A restart that cannot open
the store leaves the device as it is, but with an empty store in memory.
-/

namespace OtpToken.Bench

open Act

/-- How a board is set up. -/
structure Setup where
  input : Bytes
  buttons : Nat
  hasKeyboard : Bool
  readOnly : Bool

/-- The board of a setup over a store. -/
def Setup.board (setup : Setup) (store : Store) : Board :=
  .initial (store.setReadOnly setup.readOnly) setup.input setup.buttons setup.hasKeyboard

/-- How a session with a device begins. -/
structure Opening where
  setup : Setup
  key : DeviceKey
  mode : VaultMode
  /-- What is stored before the device starts. -/
  entries : List (Bytes × Bytes)
  /-- Whether the store is kept in a file. -/
  onFile : Bool

/-- A step with a device. -/
inductive DeviceStep
  | run
  | emit (slot : Nat)
  | program (slot : Nat) (secret : String)
  | programNew (slot : Nat)
  | handle (event : ButtonEvent)
  | credential (slot : Nat)
  | report (fault : Fault)
  | setMode (mode : VaultMode)
  | setReadOnly (readOnly : Bool)
  | peekValue (key : Bytes)
  | putValue (key value : Bytes)
  /-- The folder of the state file vanishes. -/
  | breakStorage
  /-- A step at the bench of the board. -/
  | board (step : Step)
  | restart (setup : Setup)

/-- What a step with a device hands out. -/
inductive DeviceReply
  /-- A step that cannot fail has been taken. -/
  | taken
  /-- A step that could have failed has been taken. -/
  | done
  | code (code : Code)
  | credential (credential : Credential)
  | value (value : Option Bytes)
  | stored (result : Except StoreError Unit)
  | restarted (result : Except StoreError Unit)
  | board (reply : Reply)

/-- A device at the bench. -/
structure DeviceSession where
  device : Device TrialVault
  memory : Memory
  /-- The disk that the state file is on, if there is one; that of the store in use comes first. -/
  disk : Option Disk
  /-- The number of characters that have been shown. -/
  shown : Nat

/-- What is done in a session with a device. -/
abbrev DeviceSessionAct (α : Type) := Act DeviceSession α

namespace DeviceSession

variable {α : Type}

/-- The path of the state file. -/
def statePath : String := "state.bin"

/-- Does something with the device. -/
def onDevice (act : DeviceAct TrialVault α) : DeviceSessionAct α := fun session =>
  match act session.device with
  | .ok value device => .ok value { session with device := device }
  | .error failure device => .error failure { session with device := device }

/-- Takes a step at the bench of the board. -/
def onBench (step : Step) : DeviceSessionAct Reply := fun session =>
  let resume (bench : Session) : DeviceSession :=
    { session with
      device := { session.device with board := bench.board }
      memory := bench.memory }
  match Session.takeStep step (.beginStep session.device.board session.memory) with
  | .ok reply after => .ok reply (resume after)
  | .error failure after => .error failure (resume after)

/-- Changes the store. -/
def changeStore (change : Store → Store) : DeviceSessionAct Unit :=
  onDevice (Device.onBoard (BoardAct.change fun board => board.setStore (change board.store)))

/-- The disk that the state file is on, if there is one. -/
def disk? (session : DeviceSession) : Option Disk :=
  session.device.board.store.disk?.or session.disk

/-- Changes the disk that the state file is on. -/
def changeDisk (change : Disk → Disk) : DeviceSessionAct Unit := do
  changeStore (·.mapDisk change)
  modify fun session => { session with disk := session.disk?.map change }

/-- Puts a value into the store. -/
def putValue (key value : Bytes) : DeviceSessionAct (Except StoreError Unit) := do
  match (← get).device.board.store.put key value with
  | .ok store =>
    changeStore fun _ => store
    return .ok ()
  | .error error => return .error error

/-- The store to restart from. -/
def reopened (session : DeviceSession) : Except StoreError Store :=
  match session.disk? with
  | some disk => Store.openFile statePath disk
  | none => .ok session.device.board.store

/-- Leaves the device with an empty store in memory; the disk stays as it is. -/
def loseStore : DeviceSessionAct Unit := do
  modify fun session => { session with disk := session.disk? }
  changeStore fun _ => .inMemory

/-- A session with a device that has just been started; nothing has been shown. -/
def ofDevice (disk : Option Disk) (device : Device TrialVault) : DeviceSession :=
  { device := device, memory := .empty, disk := disk, shown := 0 }

/-- Starts the device over another board. -/
def startOver (board : Board) : DeviceSessionAct Unit := fun session =>
  match Device.start board session.device.vault with
  | .ok () device => .ok () (ofDevice session.disk? device)
  | .error failure device => .error failure (ofDevice session.disk? device)

/-- Restarts the device over what has been stored. -/
def restart (setup : Setup) : DeviceSessionAct (Except StoreError Unit) := do
  match (← get).reopened with
  | .ok store =>
    startOver (setup.board store)
    return .ok ()
  | .error error =>
    loseStore
    return .error error

/-- Takes a step. -/
def take : DeviceStep → DeviceSessionAct DeviceReply
  | .run => do
    onDevice Device.run
    return .done
  | .emit slot => return .code (← onDevice (Device.emitCode slot))
  | .program slot secret => do
    onDevice (Device.programSecret slot secret)
    return .done
  | .programNew slot => do
    onDevice (Device.programNewSecret slot)
    return .done
  | .handle event => do
    onDevice (Device.handle event)
    return .done
  | .credential slot => do
    let slot ← ofExcept (Slot.select slot)
    return .credential (← onDevice (Device.credential slot))
  | .report fault => do
    onDevice (Device.report fault)
    return .taken
  | .setMode mode => do
    modify fun session =>
      { session with
        device := { session.device with vault := { session.device.vault with mode := mode } } }
    return .taken
  | .setReadOnly readOnly => do
    changeStore (·.setReadOnly readOnly)
    return .taken
  | .peekValue key => return .value ((← get).device.board.store.get? key)
  | .putValue key value => return .stored (← putValue key value)
  | .breakStorage => do
    changeDisk fun disk => disk.removeFolder disk.working
    return .taken
  | .board step => return .board (← onBench step)
  | .restart setup => return .restarted (← restart setup)

/-- What a step leaves: its reply or what went wrong, what was printed in the course of it, and the
device after it. -/
structure Line where
  result : Except Failure DeviceReply
  printed : String
  device : Device TrialVault

/-- The line of a step. -/
def line (session : DeviceSession) (result : Except Failure DeviceReply) : Line :=
  ⟨result, printedSince session.shown session.device.board, session.device⟩

/-- The session with all that has been printed shown. -/
def showAll (session : DeviceSession) : DeviceSession :=
  { session with shown := session.device.board.console.transcript.length }

/-- Takes steps one after the other, each of which leaves a line. -/
def takeAll (session : DeviceSession) : List DeviceStep → List Line
  | [] => []
  | step :: rest =>
    match take step session with
    | .ok reply after => after.line (.ok reply) :: takeAll after.showAll rest
    | .error (.fault fault) after =>
      after.line (.error (.fault fault)) :: takeAll after.showAll rest
    | .error (.trap trap) after => [after.line (.error (.trap trap))]

/-- The store that a session begins with. -/
def firstStore (opening : Opening) : Except StoreError Store := do
  let store ← if opening.onFile then Store.openFile statePath Disk.blank else .ok .inMemory
  opening.entries.foldlM (fun store entry => store.put entry.1 entry.2) store

/-- Starts a device and takes steps with it. The first line is that of the start. -/
def run (opening : Opening) (steps : List DeviceStep) : Except StoreError (List Line) := do
  let store ← firstStore opening
  return match Device.start (opening.setup.board store) ⟨opening.key, opening.mode, 0⟩ with
    | .ok () device =>
      let session := ofDevice store.disk? device
      session.line (.ok .taken) :: takeAll session.showAll steps
    | .error failure device => [(ofDevice store.disk? device).line (.error failure)]

end DeviceSession

end OtpToken.Bench
