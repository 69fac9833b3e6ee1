import OtpToken.Delivery
import OtpToken.Keystore
import OtpToken.Presses
import OtpToken.SecretEntry

/-!
# The device

A device is a board, a vault and the credentials of its slots. A short press of a
button emits the next code of its slot, and a long one asks for a new secret. The
counter is advanced and stored before its code is shown, so that a code that has
been seen is not shown again after the supply has failed.
-/

namespace OtpToken

/-- A device whose secrets are sealed by a vault. -/
structure Device (σ : Type) where
  board : Board
  vault : σ
  credentials : Vector Credential slotCount

/-- What a device does. -/
abbrev DeviceAct (σ α : Type) := Act (Device σ) α

namespace Device

open Act

variable {σ α : Type}

/-- A device whose slots have not been restored yet. -/
def initial (board : Board) (vault : σ) : Device σ :=
  ⟨board, vault, Vector.ofFn Credential.blank⟩

/-- Does something with the board. -/
def onBoard (action : BoardAct α) : DeviceAct σ α := fun device =>
  match action device.board with
  | .ok value board => .ok value { device with board := board }
  | .error failure board => .error failure { device with board := board }

/-- Prints a line. -/
def printLine (line : String) : DeviceAct σ Unit := onBoard (BoardAct.printLine line)

/-- The credential of a slot. -/
def credential (slot : Slot) : DeviceAct σ Credential :=
  fun device => .ok (device.credentials.get slot) device

/-- Puts a credential into a slot. -/
def setCredential (slot : Slot) (credential : Credential) : DeviceAct σ Unit := fun device =>
  .ok () { device with credentials := device.credentials.set slot.val credential slot.isLt }

/-- The slot of a number. -/
def slotOf (number : Nat) : DeviceAct σ Slot := ofExcept (Slot.select number)

/-- Seals a secret. -/
def sealSecret [Vault σ] (secret : Bytes) : DeviceAct σ Sealed := fun device =>
  match Vault.sealSecret device.vault secret with
  | .ok (result, vault) => .ok result { device with vault := vault }
  | .error fault => .error (.fault fault) device

/-- Opens the secret of a credential. -/
def openSecret [Vault σ] (credential : Credential) : DeviceAct σ Bytes := fun device =>
  match Vault.openSecret device.vault credential.iv credential.sealedSecret with
  | .ok secret => .ok secret device
  | .error fault => .error (.fault fault) device

/-- Turns the light of a slot on or off, where there is one. -/
def setLight (slot : Slot) (lit : Bool) : DeviceAct σ Unit :=
  onBoard (BoardAct.change fun board => board.settle (board.setLight slot lit))

/-- Keeps the light of a slot on while something is done. -/
def withLight (slot : Slot) (body : DeviceAct σ α) : DeviceAct σ α := do
  setLight slot true
  let result ← attempt body
  setLight slot false
  ofExcept result

/-- The line that reports a fault. -/
def reportLine : Fault → String
  | .notConfigured slot => "HOTP slot " ++ toString slot ++ " not yet configured."
  | .malformedSecret => "ERROR cannot base32 decode secret"
  | .sealing => "ERROR cannot encrypt key"
  | fault =>
    match fault.code? with
    | some code => "ERROR(-" ++ toString code.number ++ "): " ++ code.message ++ "."
    | none => "ERROR: " ++ fault.message

/-- Prints a report of a fault. -/
def report (fault : Fault) : DeviceAct σ Unit := printLine (reportLine fault)

/-- Stores the record of a slot, and reports what goes wrong with it. -/
def storeOrReport (slot : Slot) (credential : Credential) : DeviceAct σ Unit := do
  match ← attempt (onBoard (Keystore.save slot credential)) with
  | .ok () => pure ()
  | .error fault => report fault

/-- Derives the next code of a slot, stores the advanced counter, and delivers the code. A counter
that cannot be stored is reported, and the code is delivered nevertheless. -/
def nextCode [Vault σ] (slot : Slot) : DeviceAct σ Code := do
  let current ← credential slot
  let secret ← openSecret current
  let code ← onBoard (BoardAct.generateCode secret current.counter current.digits)
  let (used, advanced) ← ofTrapped current.advance
  setCredential slot advanced
  storeOrReport slot advanced
  let _ ← onBoard (Delivery.deliver code used)
  return code

/-- Emits the next code of a slot. -/
def emitCode [Vault σ] (number : Nat) : DeviceAct σ Code := do
  let slot ← slotOf number
  if (← credential slot).isConfigured then withLight slot (nextCode slot)
  else fail (.notConfigured number)

/-- Seals the secret that a text stands for, and installs it in a credential. -/
def installText [Vault σ] (current : Credential) (text : String) : DeviceAct σ Credential := do
  let key ← ofExcept (Secret.decode text)
  let secret ← sealSecret key
  ofExcept (current.install secret)

/-- Programs a base32 secret into a slot, whose counter starts over. If the secret cannot be decoded
or sealed, the slot is left unconfigured in memory, and nothing is stored. -/
def programSecret [Vault σ] (number : Nat) (text : String) : DeviceAct σ Unit := do
  let slot ← slotOf number
  let current ← credential slot
  match ← attempt (installText current text) with
  | .error fault =>
    setCredential slot current.clear
    fail fault
  | .ok installed =>
    setCredential slot installed
    onBoard (Keystore.save slot installed)
    printLine ("Programmed slot " ++ toString slot.val)

/-- Asks for a new secret for a slot, and programs it. An empty line changes nothing. -/
def programNewSecret [Vault σ] (number : Nat) : DeviceAct σ Unit := do
  let slot ← slotOf number
  withLight slot do
    printLine ("Program a new key in slot " ++ toString slot.val)
    printLine "(hit enter without typing to cancel)"
    let line ← onBoard SecretEntry.readLine
    if line = "" then printLine "Aborted" else programSecret number line

/-- Handles a press of a button. -/
def handle [Vault σ] (event : ButtonEvent) : DeviceAct σ Unit :=
  match event.press with
  | .long => programNewSecret event.button
  | .short => do let _ ← emitCode event.button

/-- What is programmed into the first slot where storage holds nothing for it. -/
def defaultSecret : String := "test"

/-- Programs the default secret, and reports what goes wrong with it. -/
def programDefault [Vault σ] : DeviceAct σ Unit := do
  match ← attempt (withLight Slot.first (programSecret Slot.first defaultSecret)) with
  | .ok () => pure ()
  | .error fault => report fault

/-- Restores the credentials from storage. -/
def boot [Vault σ] : DeviceAct σ Unit := do
  let restored ← onBoard Keystore.loadAll
  modify fun device => { device with credentials := restored.credentials }
  if Slot.first ∈ restored.formatted then programDefault

/-- A device that has been started over a board. -/
def start [Vault σ] (board : Board) (vault : σ) : EStateM.Result Failure (Device σ) Unit :=
  boot (initial board vault)

end Device

end OtpToken
