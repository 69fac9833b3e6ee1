import OtpToken.Proofs.Blocking.Ending
import OtpToken.Proofs.Device.Counting
import OtpToken.Proofs.Device.Proceeding
import OtpToken.Proofs.Device.Running
import OtpToken.Proofs.Device.Untrusted

/-!
# A device stays available

A device attends to its buttons as long as something is left of its script. Whatever is wrong with
a press, the device attends again afterwards, and it only ends where its script has been read to the
end, nothing is outstanding and no light is on; nothing but a counter at its limit stops it before
(`Attending.handleNext`). So a run goes through rounds, of which there are no more than its board
has work for, and then it ends (`run_available`). The blocking calls that it is made of end on every
reachable board, too.
-/

namespace OtpToken

open Act

namespace Device

/-- Nothing is left: the input has been read to the end, no driver has anything outstanding, and no
light is on. -/
structure Finished {σ : Type} (device : Device σ) : Prop where
  input : device.board.console.input = []
  jobs : device.board.jobs = []
  unread : device.board.console.reading = false
  dark : ∀ light, device.board.lights.isLit light = false

variable {device mid after : Device KeyedVault} {watch : ButtonWatch} {count : Nat}

/-- A device waits for presses of so many buttons: it is poised for them and may be used, all lights
are off, and what is left of its input is a script. -/
structure Attending (watch : ButtonWatch) (count : Nat) (device : Device KeyedVault) : Prop where
  poised : Poised watch count device.board
  fits : device.holding.Fits
  dark : device.board.lights = .initial count
  legible : device.board.Legible

/-- How a press is taken: the device attends again, also where there is something wrong with the
press, or nothing is left. Only a counter at its limit stops it. -/
def Attended (watch : ButtonWatch) (count : Nat) :
    EStateM.Result Failure (Device KeyedVault) Unit → Prop
  | .ok _ after => Attending watch count after
  | .error (.fault fault) after =>
    (fault = .halted → after.Finished) ∧ (fault ≠ .halted → Attending watch count after)
  | .error (.trap trap) after => trap = .counterOverflow ∧ after.Exhausted

namespace Attending

/-- A device that attends is able. -/
theorem able (attending : Attending watch count device) : device.Able :=
  ⟨attending.poised.rest.quiet, attending.fits⟩

/-- A device that goes on from one that attends attends too, if its counters still fit. -/
theorem onward (attending : Attending watch count device) (onward : device.Onward after)
    (fits : after.holding.Fits) : Attending watch count after where
  poised := attending.poised.continues onward.continues
  fits := fits
  dark := onward.lights.trans attending.dark
  legible := onward.legible attending.legible

/-- A device that has reported a fault still attends. -/
theorem report (attending : Attending watch count device) (fault : Fault) :
    Attending watch count
      { device with board := device.board.printLine (reportLine fault) } :=
  have shown := Proceeds.printLine attending.poised.rest.ready (reportLine fault)
  attending.onward shown attending.fits

/-- No light is lit when all of them are as they were at first. -/
theorem isLit_eq_false {lights : Lights} (dark : lights = .initial count) (light : Nat) :
    lights.isLit light = false := by
  rw [dark, Lights.isLit, Lights.initial, Row.get?_all]
  split <;> rfl

/-- A device that attends on a board with nothing left has finished. -/
theorem finished (attending : Attending watch count device) (spent : device.board.Spent) :
    device.Finished :=
  ⟨spent.input, spent.jobs, attending.poised.rest.unread, isLit_eq_false attending.dark⟩

/-- Whoever waits for a press finds one, or nothing is left. -/
theorem nextEvent (attending : Attending watch count device) :
    (∃ event mid, onBoard watch.nextEvent device = .ok event mid ∧ Attending watch count mid) ∨
      ∃ after, onBoard watch.nextEvent device = .error (.fault .halted) after ∧ after.Finished := by
  obtain ⟨script, input⟩ := attending.legible
  have events := attending.poised.nextEvent input
  have lights := BoardAct.LeavesLights.nextEvent watch device.board
  have quiet := watch.spares_nextEvent.quiet watch.rests_nextEvent attending.poised.rest.quiet
  unfold onBoard
  cases next : script.nextGesture count with
  | none =>
    rw [next] at events
    obtain ⟨after, halted, still, left⟩ := events
    rw [halted] at lights quiet
    rw [halted]
    refine .inr ⟨_, rfl, congrArg Traces.input left, still, quiet.1.unread, ?_⟩
    exact isLit_eq_false (lights.trans attending.dark)
  | some found =>
    rw [next] at events
    obtain ⟨after, ran, poised, left⟩ := events
    rw [ran] at lights
    rw [ran]
    exact .inl ⟨_, _, rfl, poised, attending.fits, lights.trans attending.dark, found.2,
      congrArg Traces.input left⟩

/-- However a press is handled, the device attends again or nothing is left. -/
theorem handle (attending : Attending watch count device) (event : ButtonEvent) :
    Attended watch count (handle event device) := by
  obtain ⟨turns, _, tells⟩ := told_handle attending.able event
  have proceeds := proceeds_handle attending.poised.rest attending.dark attending.fits event
  generalize Device.handle event device = result at tells proceeds
  cases result with
  | ok _ after => exact attending.onward proceeds (tells.able attending.able).fits
  | error failure after =>
    cases failure with
    | fault fault =>
      have again := attending.onward proceeds.1 (tells.able_of_fault attending.able).fits
      exact ⟨fun halted => again.finished (proceeds.2 halted), fun _ => again⟩
    | trap trap =>
      rcases tells.ended with ⟨_, charged⟩ | stopped
      · exact absurd attending.poised.rest.supplied charged
      · exact stopped

/-- The next press is waited for and handled, and the device attends again or nothing is left. -/
theorem handleNext (attending : Attending watch count device) :
    Attended watch count (handleNext watch device) := by
  rcases attending.nextEvent with ⟨event, mid, found, again⟩ | ⟨after, halted, finished⟩
  · rw [Device.handleNext, bind_of_ok found]
    exact again.handle event
  · rw [Device.handleNext, bind_of_error halted]
    exact ⟨fun _ => finished, fun running => absurd rfl running⟩

end Attending

/-- How a run goes in rounds. In each of them a press is handled, or what is wrong with it is
reported. The last wait or press finds nothing left, or a counter at its limit. -/
inductive Rounds (watch : ButtonWatch) : Nat → Device KeyedVault →
    EStateM.Result Failure (Device KeyedVault) Unit → Prop
  | handled {rounds : Nat} {device after : Device KeyedVault}
      {result : EStateM.Result Failure (Device KeyedVault) Unit}
      (went : handleNext watch device = .ok () after) (rest : Rounds watch rounds after result) :
      Rounds watch (rounds + 1) device result
  | reported {rounds : Nat} {device after : Device KeyedVault}
      {result : EStateM.Result Failure (Device KeyedVault) Unit} {fault : Fault}
      (went : handleNext watch device = .error (.fault fault) after) (running : fault ≠ .halted)
      (rest : Rounds watch rounds
        { after with board := after.board.printLine (reportLine fault) } result) :
      Rounds watch (rounds + 1) device result
  | ended {device after : Device KeyedVault}
      (went : handleNext watch device = .error (.fault .halted) after) (finished : after.Finished) :
      Rounds watch 0 device (.ok () after)
  | limit {device after : Device KeyedVault}
      (went : handleNext watch device = .error (.trap .counterOverflow) after)
      (exhausted : after.Exhausted) :
      Rounds watch 0 device (.error (.trap .counterOverflow) after)

/-- A run ends when nothing is left, or it is stopped by a counter at its limit. -/
theorem Rounds.result {rounds : Nat} {result : EStateM.Result Failure (Device KeyedVault) Unit}
    (goes : Rounds watch rounds device result) :
    (∃ after, result = .ok () after ∧ after.Finished) ∨
      ∃ after, result = .error (.trap .counterOverflow) after ∧ after.Exhausted := by
  induction goes with
  | handled _ _ ih | reported _ _ _ ih => exact ih
  | ended _ finished => exact .inl ⟨_, rfl, finished⟩
  | limit _ exhausted => exact .inr ⟨_, rfl, exhausted⟩

/-- No counter can come to its limit as long as there is work for a device. -/
def HasRoom (device : Device KeyedVault) : Prop :=
  ∀ slot, (device.credentials.get slot).counter.toNat + device.workload + 1 < UInt64.size

/-- A press that uses up some work leaves room for the rest. -/
theorem HasRoom.handleNext (room : device.HasRoom) (able : device.Able)
    (handled : ending (handleNext watch device) = after) (less : after.workload < device.workload) :
    after.HasRoom := by
  intro slot
  have raised := counter_handleNext_le able watch slot
  rw [handled] at raised
  have before := room slot
  omega

/-- A run that has room for all of its work is not stopped. -/
theorem Rounds.ok_of_room {rounds : Nat} {result : EStateM.Result Failure (Device KeyedVault) Unit}
    (goes : Rounds watch rounds device result) (able : device.Able) (room : device.HasRoom) :
    ∃ after, result = .ok () after ∧ after.Finished := by
  induction goes with
  | @handled _ device after _ went _ ih =>
    obtain ⟨_, _, tells⟩ := told_handleNext able watch
    have less := advances_handleNext watch device
    rw [went] at tells less
    exact ih (tells.able able) (room.handleNext able (congrArg ending went) less)
  | @reported _ device after _ fault went running _ ih =>
    obtain ⟨_, _, tells⟩ := told_handleNext able watch
    have less := advances_handleNext watch device
    rw [went] at tells less
    have left := room.handleNext able (congrArg ending went) (less.resolve_left running)
    obtain ⟨_, shown, passes⟩ := Passes.printLine (tells.able_of_fault able) (reportLine fault)
    cases shown
    exact ih passes.able left
  | ended _ finished => exact ⟨_, rfl, finished⟩
  | limit went exhausted =>
    obtain ⟨slot, _, limit⟩ := exhausted_of_overflow able went exhausted
    have before := room slot
    omega

/-- An attending device serves press after press, and each uses up some of its work. -/
theorem Attending.rounds (attending : Attending watch count device) :
    ∃ rounds ≤ device.workload, Rounds watch rounds device (serve watch device) := by
  -- Along the presses, as they are served.
  fun_induction serve watch device with
  | case1 device _ after handled ih =>
    have attended := attending.handleNext
    have less := advances_handleNext watch device
    rw [handled] at attended less
    obtain ⟨rounds, bound, rest⟩ := ih attended
    exact ⟨rounds + 1, Nat.lt_of_le_of_lt bound less, .handled handled rest⟩
  | case2 device trap after handled =>
    have attended := attending.handleNext
    rw [handled] at attended
    obtain ⟨rfl, exhausted⟩ := attended
    exact ⟨0, Nat.zero_le _, .limit handled exhausted⟩
  | case3 device after handled =>
    have attended := attending.handleNext
    rw [handled] at attended
    exact ⟨0, Nat.zero_le _, .ended handled (attended.1 rfl)⟩
  | case4 device fault after handled running ih =>
    have attended := attending.handleNext
    have less := advances_handleNext watch device
    rw [handled] at attended less
    obtain ⟨rounds, bound, rest⟩ := ih ((attended.2 running).report fault)
    exact ⟨rounds + 1, Nat.lt_of_le_of_lt bound (less.resolve_left running),
      .reported handled running rest⟩

section

variable {σ : Type}

/-- Restoring a slot does not raise the workload. -/
theorem settles_restore (before : Restored) (slot : Slot) :
    BoardAct.Settles (Keystore.restore before slot) := by
  have loads : BoardAct.Settles (Keystore.load slot) := by
    refine .bind (.attempt (BoardAct.settles_getValue _ _)) fun found => ?_
    cases found with
    | ok value => exact .pure _
    | error fault =>
      dsimp only
      split
      · exact .pure _
      · exact .fail fault
  refine .bind (.attempt loads) fun found => ?_
  split
  · exact .pure _
  · exact .bind (.attempt (Keystore.settles_save _ _)) fun _ => .pure _

/-- Restoring slots one after the other does not raise the workload. -/
theorem settles_restoreAll (slots : List Slot) (before : Restored) :
    BoardAct.Settles (slots.foldlM Keystore.restore before) := .foldlM slots before settles_restore

/-- To start leaves no more to do than the script asks for. -/
theorem settles_boot [Vault σ] : SettlesBy 0 (boot : DeviceAct σ Unit) := by
  refine .bind (settles_onBoard (settles_restoreAll _ _)) fun restored => ?_
  refine .bind (fun _ => Nat.le_refl _) fun _ => ?_
  split
  · refine .bind (.attempt (settles_withLight _ (settles_programSecret _ _))) fun programmed => ?_
    cases programmed with
    | ok _ => exact .pure _
    | error fault => exact settles_report fault
  · exact .pure _

/-- To watch the buttons does not raise the workload. -/
theorem settles_beginWatch :
    SettlesBy 0 (do printLine usage; onBoard ButtonWatch.begin : DeviceAct σ ButtonWatch) := by
  refine .bind (settles_printLine usage) fun _ => settles_onBoard ?_
  refine .bind (fun _ => Nat.le_refl _) fun ticket => ?_
  refine .bind (BoardAct.Registers.subscribe _ _).settles fun _ => ?_
  exact .bind (fun _ => Nat.le_refl _) fun _ => .pure _

end

/-- The workload of an initial board is three times the length of its input. -/
theorem workload_initial (store : Store) (input : Bytes) (buttons : Nat) (hasKeyboard : Bool) :
    (Board.initial store input buttons hasKeyboard).workload = 3 * input.length := by
  cases hasKeyboard <;> rfl

/-- A device that has been started attends to its buttons when it begins to run, with no more to do
than its script asks for. -/
theorem attending_of_start (store : Store) (script : String) (buttons : Nat) (hasKeyboard : Bool)
    (vault : KeyedVault) :
    ∃ booted watch begun,
      start (.initial store (Bytes.ofText script) buttons hasKeyboard) vault = .ok () booted ∧
      (do printLine usage; onBoard ButtonWatch.begin) booted = .ok watch begun ∧
      Attending watch buttons begun ∧ begun.credentials = booted.credentials ∧
      begun.workload ≤ 3 * (Bytes.ofText script).length := by
  let board := Board.initial store (Bytes.ofText script) buttons hasKeyboard
  have rest : board.AtRest := .initial store (Bytes.ofText script) buttons hasKeyboard
  obtain ⟨booted, started, able, _⟩ := start_any_store rest vault
  have boots : boot (initial board vault) = .ok () booted := started
  have onward := @proceeds_boot (initial board vault) rest.ready buttons rfl
  rw [boots] at onward
  have shown := onward.trans (Proceeds.printLine able.quiet.ready usage)
  obtain ⟨watch, after, began, poised, left⟩ := poised_of_begin shown.continues
  have lights := BoardAct.LeavesLights.beginWatch (booted.board.printLine usage)
  rw [began] at lights
  have attending : Attending watch buttons { booted with board := after } := by
    refine ⟨poised, able.fits, lights.trans shown.lights, ?_⟩
    exact (shown.legible ⟨script.toList, Bytes.ofText_eq_ofChars script⟩).of_input
      (congrArg Traces.input left)
  have begins : (do printLine usage; onBoard ButtonWatch.begin) booted =
      .ok watch { booted with board := after } := by
    have printed : printLine usage booted =
        .ok () { booted with board := booted.board.printLine usage } := rfl
    rw [bind_of_ok printed, onBoard, began]
  refine ⟨booted, watch, _, started, begins, attending, rfl, ?_⟩
  have first := settles_boot (initial board vault)
  have second := settles_beginWatch booted
  rw [boots] at first
  rw [begins] at second
  rw [← workload_initial store (Bytes.ofText script) buttons hasKeyboard]
  exact Nat.le_trans second first

/-- Once its buttons are watched, a run is to serve presses. -/
theorem run_eq_serve {σ : Type} [Vault σ] {booted begun : Device σ}
    (began : (do printLine usage; onBoard ButtonWatch.begin) booted = .ok watch begun) :
    run booted = serve watch begun := by
  have printed : printLine usage booted =
      .ok () { booted with board := booted.board.printLine usage } := rfl
  rw [bind_of_ok printed] at began
  rw [run, bind_of_ok printed, bind_of_ok (attempt_of_ok began)]

end Device

open Device

/-- Over any store, on any script, with any number of buttons, and with or without a keyboard, a
device starts and its run ends, after a number of rounds that the length of the script bounds, in
which whatever is wrong with a press is reported. When it returns, the script has been read to the
end, no driver has anything outstanding and no light is on. Only a configured slot whose counter is
at its limit can stop it before, and there is none if the counters at the start are far enough from
the limit for the script. Besides, on every reachable board, whatever its input is, every wait and
every blocking call ends. -/
theorem run_available (store : Store) (script : String) (buttons : Nat) (hasKeyboard : Bool)
    (vault : KeyedVault) :
    (∃ booted watch begun rounds,
      start (.initial store (Bytes.ofText script) buttons hasKeyboard) vault = .ok () booted ∧
      (do printLine usage; onBoard ButtonWatch.begin) booted = .ok watch begun ∧
      Rounds watch rounds begun (run booted) ∧ rounds ≤ 3 * (Bytes.ofText script).length ∧
      ((∃ after, run booted = .ok () after ∧ after.Finished) ∨
        ∃ after, run booted = .error (.trap .counterOverflow) after ∧ after.Exhausted) ∧
      ((∀ slot, (booted.credentials.get slot).counter.toNat + 3 * (Bytes.ofText script).length + 1 <
          UInt64.size) →
        ∃ after, run booted = .ok () after ∧ after.Finished)) ∧
    ∀ board : Board, board.Reachable → board.CallsEnd := by
  obtain ⟨booted, watch, begun, started, began, attending, same, work⟩ :=
    attending_of_start store script buttons hasKeyboard vault
  obtain ⟨rounds, bound, goes⟩ := attending.rounds
  rw [← run_eq_serve began] at goes
  refine ⟨⟨booted, watch, begun, rounds, started, began, goes, Nat.le_trans bound work, goes.result,
    fun room => goes.ok_of_room attending.able fun slot => ?_⟩, ?_⟩
  · have before := room slot
    rw [← same] at before
    omega
  · exact fun _ reachable => reachable.callsEnd

/-- A device with eight buttons and a keyboard that has found a record for every slot gets through a
script, and waits and calls end on a board in the middle of things. -/
theorem run_available_restored :
    let store : Store := { Store.inMemory with
      table := Slot.all.map fun slot : Slot => (Keystore.recordKey slot, 2 :: List.replicate 88 7) }
    let vault : KeyedVault := ⟨Block.zero _, fun _ => Block.zero _, 0⟩
    let script := "press 0\nhold 1\nGEZDGNBV\npress 9\nhold 7\nGE"
    (∃ booted after, start (.initial store (Bytes.ofText script) 8 true) vault = .ok () booted ∧
      run booted = .ok () after ∧ after.Finished) ∧
    Board.crowded.CallsEnd := by
  intro store vault script
  have records : ∀ slot, ((store.credential? slot).any fun credential =>
      credential.counter.toNat + 3 * (Bytes.ofText script).length + 1 < UInt64.size) = true := by
    decide +kernel
  have stored : ∀ slot, ∃ kept, store.credential? slot = some kept := by
    intro slot
    obtain ⟨kept, found, _⟩ := (Option.any_eq_true _ _).mp (records slot)
    exact ⟨kept, found⟩
  obtain ⟨⟨booted, _, _, _, started, _, _, _, _, room⟩, ends⟩ :=
    run_available store script 8 true vault
  obtain ⟨_, same, held⟩ := start_of_stored (Store.writable_of_memory rfl rfl) stored
    (Bytes.ofText script) 8 true vault
  rw [started] at same
  cases same
  obtain ⟨after, ran, finished⟩ := room fun slot => by
    have bound := records slot
    rw [held, Option.any_some, decide_eq_true_eq] at bound
    exact bound
  exact ⟨⟨booted, after, started, ran, finished⟩, ends _ Board.reachable_crowded⟩

end OtpToken
