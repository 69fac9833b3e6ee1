import OtpToken.Proofs.Blocking.Lights
import OtpToken.Proofs.Device.Booting
import OtpToken.Proofs.Device.Keyed
import OtpToken.Proofs.Device.Serving
import OtpToken.Proofs.Script

/-!
# Going on after an act

Whatever a device is asked to do, and whatever its store holds or refuses, it can go on afterwards:
its board continues, its lights are as they were, and what is left of a script is a script
(`Onward`). An act may end with any fault, but it only halts where nothing is left to be read or
done (`Proceeds`). This is shown for the handling of a press and for the start of a device, part by
part.
-/

namespace OtpToken

open Act

namespace Board

variable {board after : Board}

/-- What is left of the input is a text. -/
def Legible (board : Board) : Prop := ∃ script : Script, board.console.input = Bytes.ofChars script

/-- Nothing is left to be read, and nothing to be done. -/
structure Spent (board : Board) : Prop where
  input : board.console.input = []
  jobs : board.jobs = []

/-- What is legible stays so as long as nothing is taken of it. -/
theorem Legible.of_input (legible : board.Legible)
    (same : after.console.input = board.console.input) : after.Legible :=
  legible.imp fun _ text => same.trans text

/-- Lights take nothing of the input. -/
theorem input_settle_setLight (board : Board) (light : Nat) (lit : Bool) :
    (board.settle (board.setLight light lit)).console.input = board.console.input :=
  congrArg Traces.input (traces_settle_setLight board light lit)

/-- A light that is turned on where all were off leaves them all off when it is turned off again. -/
theorem lights_settle_setLight {count : Nat} (dark : board.lights = .initial count) (light : Nat)
    (same : after.lights = (board.settle (board.setLight light true)).lights) :
    (after.settle (after.setLight light false)).lights = board.lights := by
  by_cases inside : light < count
  · have on : board.lights.set light true = .ok ⟨⟨count, false, [light]⟩⟩ := by
      simp [dark, Lights.set, Lights.initial, Row.set?, Row.all, Row.insertOnce, inside]
    have lit : after.lights = ⟨⟨count, false, [light]⟩⟩ := by
      simp [same, settle, setLight, on, bind, Except.bind, pure, Except.pure]
    have off : after.lights.set light false = .ok (.initial count) := by
      simp [lit, Lights.set, Lights.initial, Row.set?, Row.all, inside]
    simp [settle, setLight, off, dark, bind, Except.bind, pure, Except.pure]
  · have none : ∀ lit, board.lights.set light lit = .error .invalid := by
      simp [dark, Lights.set, Lights.initial, Row.set?, Row.all, inside]
    have lit : after.lights = board.lights := by
      simp [same, settle, setLight, none, bind, Except.bind]
    simp [settle, setLight, lit, none, bind, Except.bind]

end Board

/-- A line that has not ended takes all that is left. -/
theorem SecretEntry.scan_rest_of_open {kept : Nat} {bytes : Bytes}
    (unended : (scan kept bytes).2.2 = false) : (scan kept bytes).2.1 = [] := by
  induction bytes generalizing kept with
  | nil => rfl
  | cons byte rest ih =>
    unfold scan at unended ⊢
    split at unended <;> split <;> try contradiction
    split at unended <;> split <;> try contradiction
    split at unended <;> split <;> try contradiction
    · exact ih unended
    · exact ih unended

namespace Device

variable {σ α β : Type} {device mid after : Device σ}

/-- A device goes on: its board continues with the lights as they were, and if its input was a text,
so is what is left of it. -/
structure Onward (device after : Device σ) : Prop where
  continues : device.board.Continues after.board
  lights : after.board.lights = device.board.lights
  legible : device.board.Legible → after.board.Legible

/-- A device over a ready board can go on as it is. -/
theorem Onward.refl (ready : device.board.Ready) : device.Onward device := ⟨.refl ready, rfl, id⟩

/-- A device that has gone on twice has gone on. -/
theorem Onward.trans (first : device.Onward mid) (second : mid.Onward after) :
    device.Onward after :=
  ⟨first.continues.trans second.continues, second.lights.trans first.lights,
    second.legible ∘ first.legible⟩

/-- An act goes on with its value or its fault, and halts only if nothing is left to be read or
done. Of an act that stops the program nothing is said. -/
def Proceeds (device : Device σ) : EStateM.Result Failure (Device σ) α → Prop
  | .ok _ after => device.Onward after
  | .error (.fault fault) after => device.Onward after ∧ (fault = .halted → after.board.Spent)
  | .error (.trap _) _ => True

namespace Proceeds

/-- Handing out a value goes on. -/
theorem pure (ready : device.board.Ready) (value : α) :
    Proceeds device ((Pure.pure value : DeviceAct σ α) device) := Onward.refl ready

/-- Failing goes on, unless it halts with something left to be read or done. -/
theorem fail (ready : device.board.Ready) {fault : Fault}
    (halts : fault = .halted → device.board.Spent) :
    Proceeds device ((Act.fail fault : DeviceAct σ α) device) := ⟨.refl ready, halts⟩

/-- Printing a line goes on. -/
theorem printLine (ready : device.board.Ready) (line : String) :
    Proceeds device (Device.printLine line device) :=
  ⟨Board.continues_print ready _, rfl, fun legible => legible.of_input rfl⟩

/-- What comes first is only followed. -/
theorem after_onward {result : EStateM.Result Failure (Device σ) α} (first : device.Onward mid)
    (second : Proceeds mid result) : Proceeds device result := by
  cases result with
  | ok value after => exact first.trans second
  | error failure after =>
    cases failure with
    | fault fault => exact ⟨first.trans second.1, second.2⟩
    | trap trap => trivial

/-- An act goes on with the next one, wherever it has handed out its value. -/
theorem bind {act : DeviceAct σ α} {next : α → DeviceAct σ β} (first : Proceeds device (act device))
    (onward : ∀ value mid, act device = .ok value mid → device.Onward mid →
      Proceeds mid (next value mid)) : Proceeds device ((act >>= next) device) := by
  cases ran : act device with
  | ok value mid =>
    rw [ran] at first
    rw [bind_of_ok ran]
    exact after_onward first (onward value mid ran first)
  | error failure mid =>
    rw [ran] at first
    rw [bind_of_error ran]
    cases failure <;> exact first

/-- An act that may fail is followed by one that is told how it has ended. -/
theorem bind_attempt {act : DeviceAct σ α} {next : Except Fault α → DeviceAct σ β}
    (first : Proceeds device (act device))
    (onward : ∀ value mid, device.Onward mid → Proceeds mid (next (.ok value) mid))
    (caught : ∀ fault mid, device.Onward mid → (fault = .halted → mid.board.Spent) →
      Proceeds mid (next (.error fault) mid)) :
    Proceeds device ((Act.attempt act >>= next) device) := by
  cases ran : act device with
  | ok value mid =>
    rw [ran] at first
    rw [bind_of_ok (attempt_of_ok ran)]
    exact after_onward first (onward value mid first)
  | error failure mid =>
    rw [ran] at first
    cases failure with
    | fault fault =>
      rw [bind_of_ok (attempt_of_fault ran)]
      exact after_onward first.1 (caught fault mid first.1 first.2)
    | trap trap =>
      rw [bind_of_error (attempt_of_trap ran)]
      trivial

/-- What is done with the board takes nothing of its input, and does not halt. -/
theorem onBoard {action : BoardAct α} {traces : Traces} {outcome : Except Fault α}
    (ends : device.board.Ends traces outcome (action device.board))
    (input : traces.input = device.board.console.input) (running : outcome ≠ .error .halted)
    (leaves : BoardAct.LeavesLights action) : Proceeds device (Device.onBoard action device) := by
  have lights := leaves device.board
  unfold Device.onBoard
  generalize action device.board = result at ends lights
  cases ends with
  | ok continues left =>
    exact ⟨continues, lights,
      fun legible => legible.of_input ((congrArg Traces.input left).trans input)⟩
  | fault continues left =>
    refine ⟨⟨continues, lights, fun legible => ?_⟩, fun same => absurd (congrArg _ same) running⟩
    exact legible.of_input ((congrArg Traces.input left).trans input)
  | cut => trivial

/-- Where all lights are off, they are off again when the light has been on for an act. -/
theorem withLight {slot : Slot} {body : DeviceAct σ α} {count : Nat} (ready : device.board.Ready)
    (dark : device.board.lights = .initial count)
    (proceeds : ∀ lit : Device σ, device.board.Continues lit.board → lit.facts = device.facts →
      Proceeds lit (body lit)) : Proceeds device (Device.withLight slot body device) := by
  let lit : Device σ :=
    { device with board := device.board.settle (device.board.setLight slot true) }
  have turned : Device.setLight slot true device = .ok () lit := rfl
  have continues := Board.continues_settle_setLight ready slot true
  have same : lit.facts = device.facts := congrArg
    (fun traces => (⟨traces, device.vault, device.credentials⟩ : Facts σ))
    (Board.traces_settle_setLight ..)
  have goes := proceeds lit continues same
  have dims : ∀ {mid : Device σ}, lit.Onward mid → device.Onward
      { mid with board := mid.board.settle (mid.board.setLight slot false) } := by
    intro mid onward
    have off := Board.continues_settle_setLight onward.continues.ready slot false
    refine ⟨(continues.trans onward.continues).trans off,
      Board.lights_settle_setLight dark slot onward.lights, fun legible => ?_⟩
    have read : lit.board.Legible := legible.of_input (congrArg (·.traces.input) same)
    exact (onward.legible read).of_input (Board.input_settle_setLight ..)
  unfold Device.withLight
  rw [bind_of_ok turned]
  cases ran : body lit with
  | ok value mid =>
    rw [ran] at goes
    rw [bind_of_ok (attempt_of_ok ran)]
    exact dims goes
  | error failure mid =>
    rw [ran] at goes
    cases failure with
    | fault fault =>
      rw [bind_of_ok (attempt_of_fault ran)]
      refine ⟨dims goes.1, fun halted => ?_⟩
      have spent := goes.2 halted
      have off := Board.continues_settle_setLight goes.1.continues.ready slot false
      exact ⟨(Board.input_settle_setLight ..).trans spent.input, off.still spent.jobs⟩
    | trap trap =>
      rw [bind_of_error (attempt_of_trap ran)]
      trivial

/-- A number that chooses no slot is a fault, which does not halt the device. -/
theorem slotOf {next : Slot → DeviceAct σ β} (ready : device.board.Ready) (number : Nat)
    (onward : ∀ slot : Slot, Proceeds device (next slot device)) :
    Proceeds device ((Device.slotOf number >>= next) device) := by
  rcases Slot.select_cases number with ⟨slot, rfl⟩ | none
  · rw [bind_of_ok (slotOf_eq_ok slot device)]
    exact onward slot
  · rw [bind_of_error (slotOf_eq_error none device)]
    exact ⟨.refl ready, fun halted => by cases halted⟩

end Proceeds

/-- To change what is in memory changes nothing of the board. -/
theorem Onward.remember (ready : device.board.Ready) (slot : Slot) (credential : Credential) :
    device.Onward (device.remember slot credential) := ⟨.refl ready, rfl, id⟩

/-- Saving a credential goes on, whether or not the store takes it. -/
theorem proceeds_save (ready : device.board.Ready) (slot : Slot) (credential : Credential) :
    Proceeds device (onBoard (Keystore.save slot credential) device) := by
  have ends := BoardAct.ends_setValue ready credential.record (Keystore.recordKey_ne_nil slot)
  refine .onBoard ends rfl ?_ (.save slot credential)
  split <;> simp

/-- Saving a credential and reporting what goes wrong goes on. -/
theorem proceeds_storeOrReport (ready : device.board.Ready) (slot : Slot)
    (credential : Credential) :
    Proceeds device (storeOrReport slot credential device) := by
  refine (proceeds_save ready slot credential).bind_attempt (fun _ mid onward => ?_)
    fun fault mid onward _ => ?_
  · exact .pure onward.continues.ready ()
  · exact .printLine onward.continues.ready _

/-- A line is read from the front of the input, and only an input that ends before it halts. -/
theorem proceeds_readLine (rest : device.board.AtRest) :
    Proceeds device (onBoard SecretEntry.readLine device) := by
  obtain ⟨after, ran, continues, still, left⟩ := SecretEntry.readLine_eq rest
  have lights := BoardAct.LeavesLights.readLine device.board
  have input : after.console.input = (SecretEntry.scan 0 device.board.console.input).2.1 :=
    congrArg Traces.input left
  have legible : device.board.Legible → after.Legible := by
    rintro ⟨script, text⟩
    rw [text, scan_ofChars] at input
    exact ⟨_, input⟩
  unfold onBoard
  rw [ran] at lights ⊢
  by_cases ended : (SecretEntry.scan 0 device.board.console.input).2.2 = true
  · simp only [if_pos ended] at lights ⊢
    exact ⟨continues, lights, legible⟩
  · simp only [if_neg ended] at lights ⊢
    have nothing := SecretEntry.scan_rest_of_open (Bool.eq_false_iff.mpr ended)
    exact ⟨⟨continues, lights, legible⟩, fun _ => ⟨input.trans nothing, still⟩⟩

section

variable {device mid : Device KeyedVault} {slot : Slot}

/-- Opening a secret goes on, whether or not it can be opened. -/
theorem proceeds_openSecret (ready : device.board.Ready) (credential : Credential) :
    Proceeds device (openSecret credential device) := by
  unfold openSecret
  cases opened : Vault.openSecret device.vault credential.iv credential.sealedSecret with
  | ok secret => exact .refl ready
  | error fault =>
    refine ⟨.refl ready, fun halted => ?_⟩
    rw [halted] at opened
    cases DeviceKey.fault_of_apply opened

/-- A code that is derived has the digits that were asked for. -/
theorem digits_of_generateCode (ready : device.board.Ready) {secret : Bytes} {counter : UInt64}
    {digits : Nat} (right : 1 ≤ digits ∧ digits ≤ Code.maxDigits) {code : Code}
    (ran : onBoard (BoardAct.generateCode secret counter digits) device = .ok code mid) :
    code.digits = digits := by
  have ends := BoardAct.ends_generateCode ready secret counter right
  unfold onBoard at ran
  generalize derived : Code.derive secret counter digits = outcome at ends
  generalize BoardAct.generateCode secret counter digits device.board = result at ends ran
  cases ends with
  | ok => cases ran; exact Code.digits_of_derive right derived
  | fault => cases ran
  | cut => cases ran

/-- No code is derived by halting. -/
theorem derive_ne_halted {secret : Bytes} {counter : UInt64} {digits : Nat}
    (right : 1 ≤ digits ∧ digits ≤ Code.maxDigits) :
    Code.derive secret counter digits ≠ .error .halted := by
  unfold Code.derive
  split
  · simp
  · split
    · simp
    · simp [Code.truncate_of_right right]

/-- Deriving the next code of a slot goes on. -/
theorem proceeds_nextCode (ready : device.board.Ready)
    (right : 1 ≤ (device.credentials.get slot).digits ∧
      (device.credentials.get slot).digits ≤ Code.maxDigits) :
    Proceeds device (nextCode slot device) := by
  have looked : credential slot device = .ok (device.credentials.get slot) device := rfl
  unfold nextCode
  rw [bind_of_ok looked]
  refine (proceeds_openSecret ready _).bind fun secret opened _ onward => ?_
  have derives := BoardAct.ends_generateCode onward.continues.ready secret
    (device.credentials.get slot).counter right
  have coded := Proceeds.onBoard derives rfl (derive_ne_halted right) (.generateCode _ _ _)
  refine coded.bind fun code derived ran further => ?_
  have digits : 1 ≤ code.digits := by
    rw [digits_of_generateCode onward.continues.ready right ran]
    exact right.1
  have advances : Proceeds derived ((ofTrapped (device.credentials.get slot).advance :
      DeviceAct KeyedVault _) derived) := by
    cases (device.credentials.get slot).advance with
    | ok advanced => exact .refl further.continues.ready
    | error trap => trivial
  refine advances.bind fun (used, advanced) _ _ further => ?_
  refine Proceeds.bind (.remember further.continues.ready slot advanced) fun _ _ _ further => ?_
  refine (proceeds_storeOrReport further.continues.ready slot advanced).bind
    fun _ stored _ further => ?_
  have delivers := BoardAct.ends_deliver further.continues.ready used digits
  have input : (stored.board.traces.deliver code used).input = stored.board.console.input := by
    unfold Traces.deliver
    split <;> rfl
  refine (Proceeds.onBoard delivers input (by simp) (.deliver code used)).bind
    fun _ _ _ further => ?_
  exact .pure further.continues.ready code

/-- An emission goes on, with the lights dark before and after. -/
theorem proceeds_emitCode (ready : device.board.Ready) {count : Nat}
    (dark : device.board.lights = .initial count)
    (fits : ∀ slot : Slot, (device.credentials.get slot).digits = slot.digits) (number : Nat) :
    Proceeds device (emitCode number device) := by
  refine .slotOf ready number fun slot => ?_
  have looked : credential slot device = .ok (device.credentials.get slot) device := rfl
  rw [bind_of_ok looked]
  split
  · refine .withLight ready dark fun lit continues same => ?_
    have held : lit.credentials = device.credentials := congrArg Facts.credentials same
    have right := slot.digits_mem
    rw [← fits slot, ← held] at right
    exact proceeds_nextCode continues.ready right
  · exact .fail ready fun halted => by cases halted

/-- Installing a text goes on, whether or not it is a secret. -/
theorem proceeds_installText (ready : device.board.Ready) (current : Credential) (text : String) :
    Proceeds device (installText current text device) := by
  unfold installText
  cases decoded : Secret.decode text with
  | error fault =>
    refine ⟨.refl ready, fun halted => ?_⟩
    rw [halted] at decoded
    cases Secret.fault_of_decode decoded
  | ok key =>
    have fits := Secret.length_of_decode decoded
    obtain ⟨secret, accepted, length, _⟩ := device.vault.sealSecret_keyed fits.2
    obtain ⟨installed, installs, _⟩ := @Credential.install_eq_ok current secret (length ▸ fits)
    have first : (Act.ofExcept (.ok key) : DeviceAct KeyedVault Bytes) device =
        .ok key device := rfl
    have found : sealSecret key device = .ok secret { device with
        vault := { device.vault with drawn := device.vault.drawn + 1 } } := by
      rw [sealSecret, accepted]
    rw [bind_of_ok first, bind_of_ok found, installs]
    exact ⟨.refl ready, rfl, id⟩

/-- Programming a text goes on. -/
theorem proceeds_programSecret (ready : device.board.Ready) (number : Nat) (text : String) :
    Proceeds device (programSecret number text device) := by
  refine .slotOf ready number fun slot => ?_
  have looked : credential slot device = .ok (device.credentials.get slot) device := rfl
  rw [bind_of_ok looked]
  refine (proceeds_installText ready _ text).bind_attempt (fun installed mid onward => ?_)
    fun fault mid onward halts => ?_
  · refine Proceeds.bind (.remember onward.continues.ready slot installed) fun _ _ _ onward => ?_
    refine (proceeds_save onward.continues.ready slot installed).bind fun _ _ _ onward => ?_
    exact .printLine onward.continues.ready _
  · have cleared := Onward.remember onward.continues.ready slot (device.credentials.get slot).clear
    exact .after_onward cleared (Proceeds.fail (α := Unit) cleared.continues.ready halts)

/-- Asking for a secret and programming it goes on, and halts only at the end of the input. -/
theorem proceeds_programNewSecret (rest : device.board.AtRest) {count : Nat}
    (dark : device.board.lights = .initial count) (number : Nat) :
    Proceeds device (programNewSecret number device) := by
  refine .slotOf rest.ready number fun slot => .withLight rest.ready dark fun lit continues _ => ?_
  refine (Proceeds.printLine continues.ready _).bind fun _ _ _ onward => ?_
  refine (Proceeds.printLine onward.continues.ready _).bind fun _ asked _ further => ?_
  have atRest := ((rest.continues continues).continues onward.continues).continues further.continues
  refine (proceeds_readLine atRest).bind fun line _ _ onward => ?_
  split
  · exact .printLine onward.continues.ready _
  · exact proceeds_programSecret onward.continues.ready number line

/-- However a press is handled, the device goes on afterwards. -/
theorem proceeds_handle (rest : device.board.AtRest) {count : Nat}
    (dark : device.board.lights = .initial count)
    (fits : ∀ slot : Slot, (device.credentials.get slot).digits = slot.digits)
    (event : ButtonEvent) :
    Proceeds device (handle event device) := by
  obtain ⟨button, press⟩ := event
  cases press with
  | short =>
    refine (proceeds_emitCode rest.ready dark fits button).bind fun _ _ _ onward => ?_
    exact .pure onward.continues.ready ()
  | long => exact proceeds_programNewSecret rest dark button

/-- Programming the default secret goes on. -/
theorem proceeds_programDefault (ready : device.board.Ready) {count : Nat}
    (dark : device.board.lights = .initial count) : Proceeds device (programDefault device) := by
  have programs : Proceeds device
      (withLight Slot.first (programSecret Slot.first.val defaultSecret) device) :=
    .withLight ready dark fun _ continues _ => proceeds_programSecret continues.ready _ _
  refine programs.bind_attempt (fun _ mid onward => ?_) fun fault mid onward _ => ?_
  · exact .pure onward.continues.ready ()
  · exact .printLine onward.continues.ready _

end

/-- A blank record is written, or the store refuses it. -/
theorem proceeds_format (ready : device.board.Ready) (slot : Slot) (restored : Restored) :
    Proceeds device (onBoard (do
      let _ ← attempt (Keystore.save slot (.blank slot))
      return restored) device) := by
  rw [onBoard_bind, onBoard_attempt]
  refine (proceeds_save ready slot _).bind_attempt (fun _ mid onward => ?_)
    fun fault mid onward _ => ?_
  · exact .pure onward.continues.ready restored
  · exact .pure onward.continues.ready restored

/-- Restoring a slot goes on, whatever is stored for it. -/
theorem proceeds_restore (ready : device.board.Ready) (before : Restored) (slot : Slot) :
    Proceeds device (onBoard (Keystore.restore before slot) device) := by
  have loads := Proceeds.onBoard (Keystore.ends_load ready slot) rfl (by simp) (.load slot)
  unfold Keystore.restore
  rw [onBoard_bind, onBoard_attempt]
  refine loads.bind_attempt (fun found mid onward => ?_) fun fault mid onward _ => ?_
  · cases found with
    | some credential => exact .pure onward.continues.ready _
    | none => exact proceeds_format onward.continues.ready slot _
  · exact proceeds_format onward.continues.ready slot _

/-- Restoring some slots goes on. -/
theorem proceeds_restoreAll (ready : device.board.Ready) (slots : List Slot) (before : Restored) :
    Proceeds device (onBoard (slots.foldlM Keystore.restore before) device) := by
  induction slots generalizing device before with
  | nil => exact .pure ready before
  | cons slot slots ih =>
    rw [List.foldlM_cons, onBoard_bind]
    exact (proceeds_restore ready before slot).bind fun restored _ _ onward =>
      ih onward.continues.ready restored

/-- However its slots are restored, a device goes on after its start. -/
theorem proceeds_boot {device : Device KeyedVault} (ready : device.board.Ready) {count : Nat}
    (dark : device.board.lights = .initial count) : Proceeds device (boot device) := by
  refine (proceeds_restoreAll ready Slot.all _).bind fun restored _ _ onward => ?_
  have replaced : ∀ mid : Device KeyedVault, mid.board.Ready → Proceeds mid
      ((modify fun device => { device with credentials := restored.credentials } :
        DeviceAct KeyedVault Unit) mid) := fun _ ready => ⟨.refl ready, rfl, id⟩
  refine (replaced _ onward.continues.ready).bind fun _ _ _ further => ?_
  split
  · exact proceeds_programDefault further.continues.ready
      ((further.lights.trans onward.lights).trans dark)
  · exact .pure further.continues.ready ()

end Device

end OtpToken
