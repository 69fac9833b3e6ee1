import OtpToken.Proofs.Device.Life
import OtpToken.Proofs.Device.Proceeding

/-!
# Lights between two uses

The light of a slot is on only while something is done for the slot. So wherever the lights of a
device are all off, they are off again after every use that leaves the program running
(`StaysDark`), whatever the use comes to, and whatever the supply lasts for. A program starts with
its lights off, and they are off between any two uses of it (`Life.live_dark`).
-/

namespace OtpToken

open Act

namespace BoardAct.LeavesLights

/-- Restoring a slot leaves the lights as they are. -/
theorem restore (before : Restored) (slot : Slot) :
    LeavesLights (Keystore.restore before slot) := by
  refine .bind (.attempt (load slot)) fun found => ?_
  split
  · exact .pure _
  · exact .bind (.attempt (save slot _)) fun _ => .pure _

/-- Restoring some slots leaves the lights as they are. -/
theorem restoreAll (slots : List Slot) (before : Restored) :
    LeavesLights (slots.foldlM Keystore.restore before) := .foldlM slots before restore

end BoardAct.LeavesLights

namespace Device

variable {σ α β : Type} {device : Device σ}

/-- All lights are off. -/
def Dark (device : Device σ) : Prop := ∃ count, device.board.lights = .initial count

/-- No light of a dark device is on. -/
theorem Dark.isLit_eq_false (dark : device.Dark) (light : Nat) :
    device.board.lights.isLit light = false := by
  obtain ⟨count, off⟩ := dark
  rw [off, Lights.isLit, Lights.initial, Row.get?_all]
  split <;> rfl

/-- No light is changed, whichever way an act ends. -/
abbrev LeavesLights (act : DeviceAct σ α) : Prop :=
  Leaves (fun device : Device σ => device.board.lights) act

namespace LeavesLights

/-- What leaves the lights of a board leaves those of the device over it. -/
theorem onBoard {action : BoardAct α} (leaves : BoardAct.LeavesLights action) :
    LeavesLights (Device.onBoard action : DeviceAct σ α) := by
  intro device
  have same := leaves device.board
  unfold Device.onBoard
  cases ran : action device.board <;> (rw [ran] at same; exact same)

/-- Printing a line leaves the lights of a device. -/
theorem printLine (line : String) : LeavesLights (Device.printLine line : DeviceAct σ Unit) :=
  onBoard (.printLine line)

/-- Looking up a credential leaves the lights as they are. -/
theorem credential (slot : Slot) : LeavesLights (Device.credential slot : DeviceAct σ Credential) :=
  fun _ => rfl

/-- Replacing a credential in memory leaves the lights as they are. -/
theorem setCredential (slot : Slot) (credential : Credential) :
    LeavesLights (Device.setCredential slot credential : DeviceAct σ Unit) := fun _ => rfl

/-- Saving a credential, or reporting that it is not saved, leaves the lights as they are. -/
theorem storeOrReport (slot : Slot) (credential : Credential) :
    LeavesLights (Device.storeOrReport slot credential : DeviceAct σ Unit) := by
  refine .bind (.attempt (onBoard (.save slot credential))) fun saved => ?_
  cases saved with
  | ok _ => exact .pure ()
  | error fault => exact printLine _

variable [Vault σ]

/-- Opening a secret leaves the lights as they are. -/
theorem openSecret (credential : Credential) :
    LeavesLights (Device.openSecret credential : DeviceAct σ Bytes) := by
  intro device
  unfold Device.openSecret
  split <;> rfl

/-- Sealing a secret leaves the lights as they are. -/
theorem sealSecret (secret : Bytes) : LeavesLights (Device.sealSecret secret : DeviceAct σ Sealed) := by
  intro device
  unfold Device.sealSecret
  split <;> rfl

/-- Deriving the next code of a slot leaves the lights as they are. -/
theorem nextCode (slot : Slot) : LeavesLights (Device.nextCode slot : DeviceAct σ Code) :=
  .bind (credential slot) fun _ => .bind (openSecret _) fun _ =>
    .bind (onBoard (.generateCode _ _ _)) fun _ => .bind (.ofTrapped (fun _ _ => rfl) _) fun _ =>
      .bind (setCredential slot _) fun _ => .bind (storeOrReport slot _) fun _ =>
        .bind (onBoard (.deliver _ _)) fun _ => .pure _

/-- Installing a text leaves the lights as they are. -/
theorem installText (current : Credential) (text : String) :
    LeavesLights (Device.installText current text : DeviceAct σ Credential) :=
  .bind (.ofExcept _) fun _ => .bind (sealSecret _) fun _ => .ofExcept _

/-- Programming a text leaves the lights as they are. -/
theorem programSecret (number : Nat) (text : String) :
    LeavesLights (Device.programSecret number text : DeviceAct σ Unit) := by
  refine .bind (.ofExcept _) fun slot => .bind (credential slot) fun current => ?_
  refine .bind (.attempt (installText current text)) fun installed => ?_
  cases installed with
  | ok installed =>
    exact .bind (setCredential slot _) fun _ => .bind (onBoard (.save slot _)) fun _ => printLine _
  | error fault => exact .bind (setCredential slot _) fun _ => .fail fault

end LeavesLights

/-- Unless it stops the program, an act leaves all lights off where they were off. -/
abbrev StaysDark (act : DeviceAct σ α) : Prop := Follows (.keeping Dark) act

namespace StaysDark

/-- Unless the program was stopped, the lights are off after an act that stays dark. -/
theorem dark {act : DeviceAct σ α} (stays : StaysDark act) (dark : device.Dark)
    (running : goesOn (outcome (act device)) = true) : (ending (act device)).Dark := by
  have ends := stays device dark
  cases ran : act device with
  | ok value after =>
    rw [ran] at ends
    exact ends
  | error failure after =>
    rw [ran] at ends running
    cases failure with
    | fault fault => exact ends
    | trap trap => cases running

/-- What changes no light leaves them off. -/
theorem of_leaves {act : DeviceAct σ α} (leaves : LeavesLights act) : StaysDark act := by
  refine leaves.mono fun {before failure after} same dark => ?_
  have kept : after.Dark := dark.imp fun _ off => Eq.trans same off
  cases failure with
  | none => exact kept
  | some failure =>
    cases failure with
    | fault => exact kept
    | trap => trivial

/-- The light of a slot is turned off after what is done for the slot. -/
theorem withLight {slot : Slot} {body : DeviceAct σ α} (leaves : LeavesLights body) :
    StaysDark (Device.withLight slot body) := by
  rintro device ⟨count, off⟩
  let lit : Device σ :=
    { device with board := device.board.settle (device.board.setLight slot true) }
  have turned : Device.setLight slot true device = .ok () lit := rfl
  have same := leaves lit
  have dims : ∀ mid : Device σ, mid.board.lights = lit.board.lights →
      Dark { mid with board := mid.board.settle (mid.board.setLight slot false) } := fun mid kept =>
    ⟨count, (Board.lights_settle_setLight off slot kept).trans off⟩
  unfold Device.withLight
  rw [bind_of_ok turned]
  cases ran : body lit with
  | ok value mid =>
    rw [ran] at same
    rw [bind_of_ok (attempt_of_ok ran)]
    exact dims mid same
  | error failure mid =>
    rw [ran] at same
    cases failure with
    | fault fault =>
      rw [bind_of_ok (attempt_of_fault ran)]
      exact dims mid same
    | trap trap =>
      rw [bind_of_error (attempt_of_trap ran)]
      trivial

variable [Vault σ]

/-- An emission leaves the lights off. -/
theorem emitCode (number : Nat) : StaysDark (Device.emitCode number : DeviceAct σ Code) := by
  refine .bind (.ofExcept _) fun slot => .bind (of_leaves (.credential slot)) fun current => ?_
  split
  · exact withLight (.nextCode slot)
  · exact .fail _

/-- Asking for a secret and programming it ends with the lights off. -/
theorem programNewSecret (number : Nat) :
    StaysDark (Device.programNewSecret number : DeviceAct σ Unit) := by
  refine .bind (.ofExcept _) fun slot => withLight ?_
  have shows := fun line => LeavesLights.printLine (σ := σ) line
  refine .bind (shows _) fun _ => .bind (shows _) fun _ => ?_
  refine .bind (LeavesLights.onBoard .readLine) fun line => ?_
  split
  · exact shows _
  · exact LeavesLights.programSecret number line

/-- Whatever a press asks for leaves the lights off. -/
theorem handle (event : ButtonEvent) : StaysDark (Device.handle event : DeviceAct σ Unit) := by
  unfold Device.handle
  split
  · exact programNewSecret _
  · exact .bind (emitCode _) fun _ => .pure ()

/-- Waiting for a press and handling it ends with the lights off. -/
theorem handleNext (watch : ButtonWatch) :
    StaysDark (Device.handleNext watch : DeviceAct σ Unit) :=
  .bind (of_leaves (.onBoard (.nextEvent watch))) handle

/-- A run ends with the lights off. -/
theorem run : StaysDark (Device.run : DeviceAct σ Unit) := by
  refine .bind (of_leaves (.printLine _)) fun _ => ?_
  refine .bind (of_leaves (.attempt (LeavesLights.onBoard .beginWatch))) fun watch => ?_
  cases watch with
  | ok watch => exact follows_serve (handleNext watch) fun _ => of_leaves (.printLine _)
  | error fault => exact .bind (of_leaves (.printLine _)) fun _ => .fail fault

/-- A start ends with the lights off. -/
theorem boot : StaysDark (Device.boot : DeviceAct σ Unit) := by
  refine .bind (of_leaves (.onBoard (.restoreAll _ _))) fun restored => ?_
  refine .bind (of_leaves fun _ => rfl) fun _ => ?_
  split
  · refine .bind (.attempt (withLight (.programSecret _ _))) fun programmed => ?_
    cases programmed with
    | ok _ => exact .pure ()
    | error fault => exact of_leaves (.printLine _)
  · exact .pure ()

/-- Every use leaves the lights off. -/
theorem use (use : Use) : StaysDark (use.perform : DeviceAct σ Unit) := by
  cases use with
  | emit number => exact .bind (emitCode number) fun _ => .pure ()
  | program number text => exact of_leaves (.programSecret number text)
  | programNew number => exact programNewSecret number
  | run => exact run

end StaysDark

end Device

namespace Life

open Device

variable {σ : Type} [Vault σ]

/-- A program that is running after an event has its lights off, if it had them off before. -/
theorem dark_take {life : Life σ} (dark : life.running = true → life.device.Dark) (event : Event σ)
    (running : (event.take life).running = true) : (event.take life).device.Dark := by
  cases event with
  | boot input buttons hasKeyboard charge vault =>
    exact StaysDark.boot.dark ⟨buttons, rfl⟩ running
  | use kind charge =>
    cases ready : life.running with
    | false =>
      rw [Event.take, ready] at running
      exact absurd (ready.symm.trans running) Bool.false_ne_true
    | true =>
      rw [Event.take, ready] at running ⊢
      exact (StaysDark.use kind).dark (dark ready) running
  | lock readOnly => exact dark running

/-- A device that has lived through any events may be used, and its lights are off, if its program
is running. -/
theorem live_able_dark (events : List (Event σ)) (life : Life σ)
    (able : life.running = true → life.device.Able) (dark : life.running = true → life.device.Dark)
    (running : (live events life).running = true) :
    (live events life).device.Able ∧ (live events life).device.Dark := by
  induction events generalizing life with
  | nil => exact ⟨able running, dark running⟩
  | cons event events ih =>
    obtain ⟨_, _, _, kept⟩ := exists_goes life able event
    exact ih (event.take life) (fun still => (kept still).1) (dark_take dark event) running

end Life

end OtpToken
