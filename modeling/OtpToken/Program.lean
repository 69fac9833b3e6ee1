import OtpToken.CommandLine.Config
import OtpToken.Device.Run
import OtpToken.KeyFile

/-!
# The program

One run of the program brings the board up from its state file, loads the device
key, starts the device and does what the command line asks for. Each stage may end
the run, and what was printed and written by then stays.
-/

namespace OtpToken.Program

open Act CommandLine

/-- What a run starts from. -/
structure Surroundings where
  /-- The arguments after the name of the program. -/
  arguments : List String
  input : Bytes
  disk : Disk
  /-- The device key that is used if there is none. -/
  drawnKey : DeviceKey
  /-- The nonces that will be drawn. -/
  nonces : Nat → Nonce

/-- What a run leaves: the exit status, what was printed, the error that ended it, and the disk. -/
structure Outcome where
  status : Nat
  printed : String
  error : Option String
  disk : Disk

/-- The exit status of a run that did what it was asked for. -/
def succeeded : Nat := 0

/-- The exit status of a run that ended with an error. -/
def failed : Nat := 1

/-- The exit status of a run that ended with a trap. -/
def trapped : Nat := 101

/-- The exit status where the arguments end the program before it has begun. -/
def refused : Refusal → Nat
  | .helpDisplayed | .versionDisplayed => succeeded
  | _ => failed

/-- The line that tells the error that ended a run. -/
def errorLine (message : String) : String := "Error: " ++ message

/-- The greatest number of buttons that there is a table for. -/
def maxButtons : Nat := UInt64.size / 2 - 1

/-- Why the program could not be brought up. -/
inductive BringUpError
  | openingState (path : String)
  | key (path : String) (error : KeyFileError)
  deriving DecidableEq, Repr

/-- The wording of an error while the program is brought up. -/
def BringUpError.message : BringUpError → String
  | openingState path => "opening " ++ path
  | key path error => error.message path

/-- Opens the state file that a board is brought up from. -/
def openStore (path : String) (disk : Disk) : Except BringUpError Store :=
  match Store.openFile path disk with
  | .ok store => .ok store
  | .error _ => .error (.openingState path)

/-- The board of a configuration over its store. -/
def boardOf (config : Config) (input : Bytes) (store : Store) : Except Trap Board :=
  if config.buttons ≤ maxButtons then
    .ok (Board.initial store input config.buttons config.usbKeyboard)
  else .error .capacityOverflow

/-- Loads the device key. -/
def loadKey (path : String) (drawn : DeviceKey) (disk : Disk) :
    Except BringUpError (DeviceKey × Disk) :=
  match KeyFile.load path drawn disk with
  | .ok result => .ok result
  | .error error => .error (.key path error)

/-- The line that tells the state of a slot. -/
def statusLine (slot : Slot) (credential : Credential) : String :=
  if credential.isConfigured then
    "slot " ++ toString slot.val ++ ": " ++ toString credential.digits ++ " digits, counter "
      ++ toString credential.counter.toNat
  else "slot " ++ toString slot.val ++ ": not configured"

/-- Prints the state of a slot. -/
def printStatus {σ : Type} (slot : Slot) : DeviceAct σ Unit := do
  Device.printLine (statusLine slot (← Device.credential slot))

/-- Does something, and reports what goes wrong with it. -/
def reporting {σ : Type} (body : DeviceAct σ Unit) : DeviceAct σ Unit := do
  match ← attempt body with
  | .ok () => pure ()
  | .error fault =>
    Device.report fault
    fail fault

/-- Does what is to be done with a started device. -/
def perform {σ : Type} [Vault σ] : Request → DeviceAct σ Unit
  | .run => Device.run
  | .code slot => reporting do let _ ← Device.emitCode slot.val
  | .program slot secret => reporting (Device.programSecret slot.val secret)
  | .status => Slot.all.forM printStatus

/-- The disk of a board, or the given one where its store is not on a disk. -/
def diskOf (board : Board) (disk : Disk) : Disk := board.store.disk?.getD disk

/-- The outcome of a run that got as far as having a board. -/
def Outcome.ofBoard (board : Board) (disk : Disk) : Option Failure → Outcome
  | none => ⟨succeeded, board.console.transcript, none, diskOf board disk⟩
  | some (.fault fault) =>
    ⟨failed, board.console.transcript, some (errorLine fault.message), diskOf board disk⟩
  | some (.trap _) => ⟨trapped, board.console.transcript, none, diskOf board disk⟩

/-- The outcome of a run that ended with an error message. -/
def Outcome.ofError (printed message : String) (disk : Disk) : Outcome :=
  ⟨failed, printed, some (errorLine message), disk⟩

/-- Does what an invocation asks for with a started device. -/
def finish (invocation : Invocation) (device : Device KeyedVault) (disk : Disk) : Outcome :=
  match invocation.request with
  | .error error =>
    .ofError device.board.console.transcript error.message (diskOf device.board disk)
  | .ok request =>
    match perform request device with
    | .ok () device => .ofBoard device.board disk none
    | .error failure device => .ofBoard device.board disk (some failure)

/-- Starts the device over a board and goes on. -/
def launch (invocation : Invocation) (board : Board) (vault : KeyedVault) (disk : Disk) : Outcome :=
  match Device.start board vault with
  | .ok () device => finish invocation device disk
  | .error failure device => .ofBoard device.board disk (some failure)

/-- Brings the program up from its files and goes on. -/
def bringUp (surroundings : Surroundings) (invocation : Invocation) (config : Config) : Outcome :=
  match openStore config.stateFile surroundings.disk with
  | .error error => .ofError "" error.message surroundings.disk
  | .ok store =>
    let disk := store.disk?.getD surroundings.disk
    match boardOf config surroundings.input store with
    | .error _ => ⟨trapped, "", none, disk⟩
    | .ok board =>
      match loadKey config.keyFile surroundings.drawnKey disk with
      | .error error => .ofError "" error.message disk
      | .ok (key, disk) =>
        let board := board.setStore (board.store.mapDisk fun _ => disk)
        launch invocation board ⟨key, surroundings.nonces, 0⟩ disk

/-- Runs the program. -/
def run (surroundings : Surroundings) : Outcome :=
  match CommandLine.read surroundings.arguments with
  | .error refusal => ⟨refused refusal, "", none, surroundings.disk⟩
  | .ok invocation =>
    match invocation.config with
    | .error error => .ofError "" error.message surroundings.disk
    | .ok config => bringUp surroundings invocation config

end OtpToken.Program
