import OtpToken.Device.Run
import OtpToken.Proofs.Device.Telling

/-!
# Presses told in turns

A device that runs takes press after press, and each of them is told as the emission or
the programming that it asks for; to wait for a press takes no turn, and neither does the
report of a fault (`Serves`). So a run is told press by press, however long it lasts
and whether or not the supply fails in it (`told_run`).
-/

namespace OtpToken.Device

open Act

variable {σ α : Type} {device mid after : Device σ} [Vault σ]

/-- How it goes to ask for a new secret: it is programmed, or nothing has been entered, or no line can
be read. -/
inductive Asks (number : Nat) : List Turn → Except Failure Unit → Prop
  | entered {turns : List Turn} {outcome : Except Failure Unit}
      (programs : Programs number turns outcome) : Asks number turns outcome
  | nothing : Asks number [] (.ok ())
  | unread (fault : Fault) : Asks number [] (.error (.fault fault))
  | cut : Asks number [] (.error (.trap .powerLoss))

omit [Vault σ] in

/-- If asking for a secret has not been cut off, the turns are those of whole operations. -/
theorem Asks.whole {number : Nat} {turns : List Turn} {outcome : Except Failure Unit}
    (asks : Asks number turns outcome) (runs : goesOn outcome = true) : Whole turns := by
  cases asks with
  | entered programs => exact programs.whole runs
  | nothing => exact whole_nil
  | unread => exact whole_nil
  | cut => cases runs

/-- Asking for a secret on an able device goes as `Asks` says. -/
theorem told_programNewSecret (able : device.Able) (number : Nat) :
    Told (Asks number) (programNewSecret number) device := by
  rcases Slot.select_cases number with ⟨slot, rfl⟩ | none
  · refine (Passes.refl able).bind (slotOf_eq_ok slot device) (.withLight able fun lit passes => ?_)
    obtain ⟨first, ran, shown⟩ := Passes.printLine passes.able
      ("Program a new key in slot " ++ toString slot.val)
    refine shown.bind ran ?_
    obtain ⟨second, ran, shown⟩ := Passes.printLine shown.able "(hit enter without typing to cancel)"
    refine shown.bind ran ?_
    refine (Told.onBoard_of_spares shown.able BoardAct.spares_readLine SecretEntry.rests_readLine).bind
      (fun turns line entered going _ _ ableEntered => ?_) shown.able fun turns failure going => ?_
    · cases going
      by_cases empty : line = ""
      · rw [if_pos empty]
        obtain ⟨last, ran, shown⟩ := Passes.printLine ableEntered "Aborted"
        unfold Told
        rw [ran]
        exact ⟨[], .nothing, shown.tells ()⟩
      · rw [if_neg empty]
        exact (told_programSecret ableEntered slot.val line).mono fun _ _ => .entered
    · cases going with
      | fault fault => exact .unread fault
      | cut => exact .cut
  · rw [Told, programNewSecret, bind_of_error (slotOf_eq_error none device)]
    exact ⟨[], .entered (.unnamed none), rfl, able.quiet, id⟩

/-- How a press is handled: as an emission if it is short, and as asking for a secret otherwise. -/
inductive Attends (device : Device σ) (event : ButtonEvent) : List Turn → Except Failure Unit → Prop
  | short {turns : List Turn} {outcome : Except Failure Code} (short : event.press = .short)
      (emits : Emits device.vault device.credentials event.button turns outcome) :
      Attends device event turns (outcome.map fun _ => ())
  | long {turns : List Turn} {outcome : Except Failure Unit} (long : event.press = .long)
      (asks : Asks event.button turns outcome) : Attends device event turns outcome

/-- If attending to a press has not been cut off, the turns are those of whole operations. -/
theorem Attends.whole {event : ButtonEvent} {turns : List Turn} {outcome : Except Failure Unit}
    (attends : Attends device event turns outcome) (runs : goesOn outcome = true) : Whole turns := by
  cases attends with
  | short _ emits => exact emits.whole (goesOn_map _ ▸ runs)
  | long _ asks => exact asks.whole runs

/-- Attending to a press on an able device goes as `Attends` says. -/
theorem told_handle (able : device.Able) (event : ButtonEvent) :
    Told (Attends device event) (handle event) device := by
  unfold handle
  cases press : event.press with
  | long => exact (told_programNewSecret able event.button).mono fun _ _ => .long press
  | short =>
    refine (told_emit able event.button).mono fun turns outcome going => ?_
    obtain ⟨ended, emits, rfl⟩ := going
    exact Attends.short press emits

/-- How the next press is taken: there is none yet, or it is handled. -/
inductive Meets (watch : ButtonWatch) (device : Device σ) :
    List Turn → Except Failure Unit → Prop
  | missed (fault : Fault) : Meets watch device [] (.error (.fault fault))
  | cut : Meets watch device [] (.error (.trap .powerLoss))
  | met {event : ButtonEvent} {mid : Device σ} {turns : List Turn} {outcome : Except Failure Unit}
      (found : onBoard watch.nextEvent device = .ok event mid)
      (attends : Attends mid event turns outcome) : Meets watch device turns outcome

/-- If meeting the next press has not been cut off, the turns are those of whole operations. -/
theorem Meets.whole {watch : ButtonWatch} {turns : List Turn} {outcome : Except Failure Unit}
    (meets : Meets watch device turns outcome) (runs : goesOn outcome = true) : Whole turns := by
  cases meets with
  | missed => exact whole_nil
  | cut => cases runs
  | met _ attends => exact attends.whole runs

/-- Meeting the next press on an able device goes as `Meets` says. -/
theorem told_handleNext (able : device.Able) (watch : ButtonWatch) :
    Told (Meets watch device) (handleNext watch) device := by
  refine (Told.onBoard_of_spares able watch.spares_nextEvent watch.rests_nextEvent).bind
    (fun turns event mid going found _ ableMid => ?_) able fun turns failure going => ?_
  · cases going
    exact (told_handle ableMid event).mono fun _ _ => .met found
  · cases going with
    | fault fault => exact .missed fault
    | cut => exact .cut

/-- How presses are served, one after the other: what is wrong with one of them is reported, until no
further input can arrive. -/
inductive Serves (watch : ButtonWatch) : Device σ → List Turn → Except Failure Unit → Prop
  | halted {device : Device σ} {turns : List Turn}
      (meets : Meets watch device turns (.error (.fault .halted))) :
      Serves watch device turns (.ok ())
  | stopped {device : Device σ} {turns : List Turn} {trap : Trap}
      (meets : Meets watch device turns (.error (.trap trap))) :
      Serves watch device turns (.error (.trap trap))
  | handled {device after : Device σ} {turns more : List Turn} {outcome : Except Failure Unit}
      (meets : Meets watch device turns (.ok ()))
      (went : handleNext watch device = .ok () after) (rest : Serves watch after more outcome) :
      Serves watch device (turns ++ more) outcome
  | reported {device after : Device σ} {turns more : List Turn} {outcome : Except Failure Unit}
      {fault : Fault} (meets : Meets watch device turns (.error (.fault fault)))
      (went : handleNext watch device = .error (.fault fault) after)
      (rest : Serves watch { after with board := after.board.printLine (reportLine fault) } more
        outcome) : Serves watch device (turns ++ more) outcome

/-- If serving presses has not been cut off, the turns are those of whole operations. -/
theorem Serves.whole {watch : ButtonWatch} {turns : List Turn} {outcome : Except Failure Unit}
    (serves : Serves watch device turns outcome) (runs : goesOn outcome = true) : Whole turns := by
  induction serves with
  | halted meets => exact meets.whole rfl
  | stopped => cases runs
  | handled meets _ _ ih | reported meets _ _ ih => exact Whole.append (meets.whole rfl) (ih runs)

/-- Serving presses on an able device goes as `Serves` says. -/
theorem told_serve (able : device.Able) (watch : ButtonWatch) :
    Told (Serves watch device) (serve watch) device := by
  unfold Told
  -- Along the presses, as they are served.
  fun_induction serve watch device with
  | case1 device _ after handled ih =>
    obtain ⟨turns, meets, tells⟩ := told_handleNext able watch
    rw [handled] at meets tells
    obtain ⟨more, rest, further⟩ := ih (tells.able able)
    exact ⟨turns ++ more, .handled meets handled rest, tells.trans further⟩
  | case2 device trap after handled =>
    obtain ⟨turns, meets, tells⟩ := told_handleNext able watch
    rw [handled] at meets tells
    exact ⟨turns, .stopped meets, tells⟩
  | case3 device after handled =>
    obtain ⟨turns, meets, tells⟩ := told_handleNext able watch
    rw [handled] at meets tells
    exact ⟨turns, .halted meets, tells.replays, tells.ended⟩
  | case4 device fault after handled running ih =>
    obtain ⟨turns, meets, tells⟩ := told_handleNext able watch
    rw [handled] at meets tells
    obtain ⟨shown, ran, passes⟩ :=
      Passes.printLine (tells.able_of_fault able) (reportLine fault)
    cases ran
    obtain ⟨more, rest, further⟩ := ih passes.able
    have reported : Tells device turns (.ok ()
        { after with board := after.board.printLine (reportLine fault) }) :=
      ⟨tells.replays, passes.able.quiet, tells.ended.2⟩
    exact ⟨turns ++ more, .reported meets handled rest, reported.trans further⟩

/-- How a run goes: the presses are served, unless the buttons cannot be watched. -/
inductive Runs (device : Device σ) : List Turn → Except Failure Unit → Prop
  | served {watch : ButtonWatch} {begun : Device σ} {turns : List Turn}
      {outcome : Except Failure Unit}
      (begins : (do printLine usage; onBoard ButtonWatch.begin) device = .ok watch begun)
      (serves : Serves watch begun turns outcome) : Runs device turns outcome
  | failed (fault : Fault) : Runs device [] (.error (.fault fault))
  | cut : Runs device [] (.error (.trap .powerLoss))

/-- If a run has not been cut off, the turns are those of whole operations. -/
theorem Runs.whole {turns : List Turn} {outcome : Except Failure Unit}
    (run : Runs device turns outcome) (runs : goesOn outcome = true) : Whole turns := by
  cases run with
  | served _ serves => exact serves.whole runs
  | failed => exact whole_nil
  | cut => cases runs

/-- A run on an able device goes as `Runs` says. -/
theorem told_run (able : device.Able) : Told (Runs device) run device := by
  obtain ⟨shown, ran, passes⟩ := Passes.printLine able usage
  refine passes.bind ran ?_
  have began := Told.onBoard_of_spares passes.able ButtonWatch.spares_begin ButtonWatch.rests_begin
  refine began.bind_attempt (fun turns watch mid going started _ ableMid => ?_)
    (fun turns fault mid going _ ableMid => ?_) passes.able fun turns trap going => ?_
  · cases going
    refine (told_serve ableMid watch).mono fun _ _ serves => ?_
    exact .served ((bind_of_ok ran).trans started) serves
  · cases going
    obtain ⟨after, ran, passes⟩ := Passes.printLine ableMid "ERROR initializing buttons"
    exact passes.bind ran (.fail passes.able (.failed fault))
  · cases going
    exact .cut

end OtpToken.Device
