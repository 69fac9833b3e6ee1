import OtpToken.Device.Basic

/-!
# Running a device

A running device waits for presses and handles them, one after the other, until no
further input can arrive. What goes wrong with a press is reported, and the device
goes on.
-/

namespace OtpToken.Device

open Act

variable {σ α : Type}

/-- What is left to do for the board of a device. -/
def workload (device : Device σ) : Nat := device.board.workload

/-- What is done leaves the board of a device with less to do, by at least `gain`. -/
abbrev SettlesBy (gain : Nat) (act : DeviceAct σ α) : Prop := Act.Settles workload gain act

/-- What leaves a board with less to do leaves the device over it with less to do. -/
theorem settles_onBoard {gain : Nat} {action : BoardAct α} (h : BoardAct.SettlesBy gain action) :
    SettlesBy gain (onBoard action : DeviceAct σ α) := by
  intro device
  have one := h device.board
  unfold onBoard
  cases ran : action device.board with
  | ok value board => rw [ran] at one; exact one
  | error failure board => rw [ran] at one; cases failure <;> exact one

/-- What uses up an operation of a board uses up one of the device over it. -/
theorem advances_onBoard {action : BoardAct α} (h : Act.Advances Board.workload action) :
    Act.Advances workload (onBoard action : DeviceAct σ α) := by
  intro device
  have one := h device.board
  unfold onBoard
  cases ran : action device.board with
  | ok value board => rw [ran] at one; exact one
  | error failure board => rw [ran] at one; cases failure <;> exact one

/-- Printing a line leaves no more to do. -/
theorem settles_printLine (line : String) : SettlesBy 0 (printLine line : DeviceAct σ Unit) :=
  settles_onBoard (BoardAct.Settles.printLine line)

/-- Reporting a fault leaves no more to do. -/
theorem settles_report (fault : Fault) : SettlesBy 0 (report fault : DeviceAct σ Unit) :=
  settles_printLine _

/-- Looking up a credential leaves no more to do. -/
theorem settles_credential (slot : Slot) :
    SettlesBy 0 (credential slot : DeviceAct σ Credential) := fun _ => Nat.le_refl _

/-- Replacing a credential in memory leaves no more to do. -/
theorem settles_setCredential (slot : Slot) (credential : Credential) :
    SettlesBy 0 (setCredential slot credential : DeviceAct σ Unit) := fun _ => Nat.le_refl _

/-- Choosing a slot leaves no more to do. -/
theorem settles_slotOf (number : Nat) : SettlesBy 0 (slotOf number : DeviceAct σ Slot) :=
  .ofExcept _

/-- Turning a light on or off leaves no more to do. -/
theorem settles_setLight (slot : Slot) (lit : Bool) :
    SettlesBy 0 (setLight slot lit : DeviceAct σ Unit) := by
  refine settles_onBoard fun board => ?_
  refine Board.workload_settle fun _ after h => ?_
  simp only [Board.setLight, Lights.set, bind, Except.bind] at h
  split at h
  next => cases h
  next => cases h; exact ⟨Nat.le_refl _, rfl, rfl⟩

/-- What leaves no more to do in the dark leaves no more to do under a light. -/
theorem settles_withLight (slot : Slot) {body : DeviceAct σ α} (h : SettlesBy 0 body) :
    SettlesBy 0 (withLight slot body) :=
  .bind (settles_setLight slot true) fun _ =>
    .bind (.attempt h) fun result =>
      .bind (settles_setLight slot false) fun _ => .ofExcept result

variable [Vault σ]

/-- Sealing a secret leaves no more to do. -/
theorem settles_sealSecret (secret : Bytes) :
    SettlesBy 0 (sealSecret secret : DeviceAct σ Sealed) := by
  intro device
  unfold sealSecret
  split <;> exact Nat.le_refl _

/-- Opening a secret leaves no more to do. -/
theorem settles_openSecret (credential : Credential) :
    SettlesBy 0 (openSecret credential : DeviceAct σ Bytes) := by
  intro device
  unfold openSecret
  split <;> exact Nat.le_refl _

omit [Vault σ] in

/-- Saving a credential, or reporting that it is not saved, leaves no more to do. -/
theorem settles_storeOrReport (slot : Slot) (credential : Credential) :
    SettlesBy 0 (storeOrReport slot credential : DeviceAct σ Unit) := by
  refine .bind
    (.attempt (settles_onBoard (Keystore.settles_save _ _))) fun saved => ?_
  cases saved with
  | ok _ => exact .pure _
  | error fault => exact settles_report fault

/-- Deriving the next code of a slot leaves no more to do. -/
theorem settles_nextCode (slot : Slot) : SettlesBy 0 (nextCode slot : DeviceAct σ Code) := by
  refine .bind (settles_credential _) fun current => ?_
  refine .bind (settles_openSecret _) fun secret => ?_
  refine .bind (settles_onBoard (BoardAct.settles_generateCode _ _ _)) fun code => ?_
  refine .bind (.ofTrapped _) fun (used, advanced) => ?_
  refine .bind (settles_setCredential _ _) fun _ => ?_
  exact .bind (settles_storeOrReport _ _) fun _ =>
    .bind (settles_onBoard (Delivery.settles_deliver _ _)) fun _ => .pure _

/-- An emission leaves no more to do than it found. -/
theorem settles_emitCode (number : Nat) : SettlesBy 0 (emitCode number : DeviceAct σ Code) := by
  refine .bind (settles_slotOf _) fun slot => ?_
  refine .bind (settles_credential _) fun current => ?_
  split
  · exact settles_withLight _ (settles_nextCode _)
  · exact .fail _

/-- Programming a text leaves no more to do than it found. -/
theorem settles_programSecret (number : Nat) (text : String) :
    SettlesBy 0 (programSecret number text : DeviceAct σ Unit) := by
  refine .bind (settles_slotOf _) fun slot => ?_
  refine .bind (settles_credential _) fun current => ?_
  refine .bind (.attempt ?_) fun result => ?_
  · exact .bind (.ofExcept _) fun key =>
      .bind (settles_sealSecret _) fun secret => .ofExcept _
  · cases result with
    | error fault =>
      exact .bind (settles_setCredential _ _) fun _ => .fail _
    | ok installed =>
      exact .bind (settles_setCredential _ _) fun _ =>
        .bind (settles_onBoard (Keystore.settles_save _ _)) fun _ =>
          settles_printLine _

/-- Asking for a secret and programming it leaves no more to do than it found. -/
theorem settles_programNewSecret (number : Nat) :
    SettlesBy 0 (programNewSecret number : DeviceAct σ Unit) := by
  refine .bind (settles_slotOf _) fun slot => settles_withLight _ ?_
  refine .bind (settles_printLine _) fun _ => ?_
  refine .bind (settles_printLine _) fun _ => ?_
  refine .bind (settles_onBoard SecretEntry.settles_readLine) fun line => ?_
  split
  · exact settles_printLine _
  · exact settles_programSecret _ _

/-- Handling a press leaves no more to do than it found. -/
theorem settles_handle (event : ButtonEvent) : SettlesBy 0 (handle event : DeviceAct σ Unit) := by
  unfold handle
  split
  · exact settles_programNewSecret _
  · exact .bind (settles_emitCode _) fun _ => .pure _

/-- Waits for the next press and handles it. -/
def handleNext (watch : ButtonWatch) : DeviceAct σ Unit := do
  let event ← onBoard watch.nextEvent
  handle event

/-- Handling a press uses up at least one operation. -/
theorem advances_handleNext (watch : ButtonWatch) :
    Act.Advances workload (handleNext watch : DeviceAct σ Unit) := by
  exact .bind (advances_onBoard watch.advances_nextEvent) settles_handle

/-- Handles presses until no further input can arrive. -/
def serve (watch : ButtonWatch) (device : Device σ) : EStateM.Result Failure (Device σ) Unit :=
  match _handled : handleNext watch device with
  | .ok _ after => serve watch after
  | .error (.trap trap) after => .error (.trap trap) after
  | .error (.fault fault) after =>
    if fault = .halted then .ok () after
    else serve watch { after with board := after.board.printLine (reportLine fault) }
termination_by device.workload
decreasing_by
  · have less := advances_handleNext watch device
    rw [_handled] at less
    exact less
  · have less := advances_handleNext watch device
    rw [_handled] at less
    exact less.resolve_left ‹_›

/-- Serving presses keeps to every contract that handling a press and reporting a fault keep to. -/
theorem follows_serve {contract : Contract (Device σ)} [closed : contract.IsClosed]
    {watch : ButtonWatch} (handles : Follows contract (handleNext watch))
    (reports : ∀ fault, Follows contract (report fault)) : Follows contract (serve watch) := by
  intro device
  -- Along the presses, as they are served.
  fun_induction serve watch device with
  | case1 device _ after handled ih =>
    have done := handles device
    rw [handled] at done
    exact closed.trans done ih
  | case2 device trap after handled =>
    have done := handles device
    rw [handled] at done
    exact done
  | case3 device after handled =>
    have done := handles device
    rw [handled] at done
    exact (closed.fault _).mp done
  | case4 device fault after handled _ ih =>
    have done := handles device
    rw [handled] at done
    have reported := reports fault after
    exact closed.trans ((closed.fault fault).mp done) (closed.trans reported ih)

/-- What is printed when a device starts to run. -/
def usage : String :=
  "Tock HOTP App Started. Usage:\r\n" ++
  "* Press a button to get the next HOTP code for that slot.\r\n" ++
  "* Hold a button to enter a new HOTP secret for that slot."

/-- Runs the device until no further input can arrive. Only a failure to set up the buttons ends it
early. -/
def run : DeviceAct σ Unit := do
  printLine usage
  match ← attempt (onBoard ButtonWatch.begin) with
  | .ok watch => serve watch
  | .error fault =>
    printLine "ERROR initializing buttons"
    fail fault

end OtpToken.Device
