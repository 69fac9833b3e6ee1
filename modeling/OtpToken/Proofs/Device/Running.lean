import OtpToken.Proofs.Blocking.Presses
import OtpToken.Proofs.Device.Interpreter

/-!
# Running on a script

A device without a keyboard that runs on a script does what the interpreter makes of
that script (`run_eq_interpret`). Each press is handled as the interpreter answers it,
and leaves the board poised for the next one, so that this follows by induction on the
length of the script. The interpreter takes each gesture as the device is told of it,
and so for what it is if there are no more buttons than 32 bits can number; on more of
them a button may be mistaken for another (`run_told_apart`).
-/

namespace OtpToken.Device

open Act

variable {σ α β : Type} {device mid after : Device σ} {known between later : Facts σ}
  {outcome : Except Fault α} {act : DeviceAct σ α}

/-- On every device at rest with the known facts, an act ends with an outcome and other facts. -/
def Brings (act : DeviceAct σ α) (known : Facts σ) (outcome : Except Fault α) (later : Facts σ) :
    Prop :=
  ∀ device : Device σ, device.board.AtRest → device.facts = known →
    device.Ends (fun _ => False) later outcome (act device)

namespace Brings

/-- What an act leads to whatever the supply, it brings about at rest. -/
theorem of_leads (leads : Leads (fun _ => True) act known outcome later) :
    Brings act known outcome later := by
  intro device rest same
  have ends := leads device rest.ready same
  generalize act device = result at ends
  cases ends with
  | ok continues left => exact .ok continues left
  | fault continues left => exact .fault continues left
  | cut charged _ => exact absurd rest.supplied charged

/-- One act after another brings about what the second makes of what the first has left. -/
theorem bind {next : α → DeviceAct σ β} {value : α} {last : Except Fault β}
    (first : Brings act known (.ok value) between) (second : Brings (next value) between last later) :
    Brings (act >>= next) known last later :=
  fun device rest same => (first device rest same).bind fun mid continues left =>
    second mid (rest.continues continues) left

/-- An act that brings about a fault is not followed by the next one. -/
theorem bind_fault {next : α → DeviceAct σ β} {fault : Fault}
    (first : Brings act known (.error fault) later) :
    Brings (act >>= next) known (.error fault) later :=
  fun device rest same => (first device rest same).bind_fault

/-- The light makes no difference to what is brought about under it. -/
theorem withLight {slot : Slot} (brings : Brings act known outcome later) :
    Brings (Device.withLight slot act) known outcome later := by
  have attempted : Brings (Act.attempt act) known (.ok outcome) later :=
    fun device rest same => (brings device rest same).attempt
  refine bind (of_leads (.setLight slot true)) (bind attempted ?_)
  exact of_leads (.bind (.setLight slot false) (.ofExcept outcome))

/-- A secret is read from the front of the script, and echoed. -/
theorem readLine {script rest : Script} {text : String} (scripted : known.Scripted script)
    (read : script.readSecret 0 = (text, rest, true)) :
    Brings (onBoard SecretEntry.readLine) known (.ok text)
      ((known.withScript rest).printLine text) := by
  rintro device atRest rfl
  obtain ⟨after, ran, continues, _, left⟩ := SecretEntry.readLine_eq atRest
  have input : device.board.console.input = Bytes.ofChars script := scripted.input
  simp only [input, scan_ofChars, read, if_true] at ran left
  unfold onBoard
  rw [ran]
  refine .ok continues ?_
  rw [facts, left, String.append_assoc]
  rfl

/-- If the script breaks off in the secret, the device halts. -/
theorem readLine_of_open {script rest : Script} {text : String} (scripted : known.Scripted script)
    (read : script.readSecret 0 = (text, rest, false)) :
    Brings (onBoard SecretEntry.readLine) known (.error .halted)
      ((known.withScript rest).print text) := by
  rintro device atRest rfl
  obtain ⟨after, ran, continues, _, left⟩ := SecretEntry.readLine_eq atRest
  have input : device.board.console.input = Bytes.ofChars script := scripted.input
  simp only [input, scan_ofChars, read, Bool.false_eq_true, if_false, String.append_empty]
    at ran left
  unfold onBoard
  rw [ran]
  refine .fault continues ?_
  rw [facts, left]
  rfl

end Brings

/-- An emission ends, and its fault is reported, as a short press is answered. -/
theorem emitCode_press {known : Facts KeyedVault} {script : Script}
    (scripted : known.Scripted script) (number : Nat) :
    (∃ outcome later, Leads (fun _ => True) (emitCode number) known outcome later ∧
      outcome ≠ .error .halted ∧ known.press number = some (later.reported outcome)) ∨
    Stops (emitCode number) known .counterOverflow known ∧ known.press number = none := by
  rcases Slot.select_cases number with ⟨slot, rfl⟩ | none
  · cases emission scripted.kept slot with
    | blank unconfigured leads =>
      refine .inl ⟨_, known, leads, (by simp), ?_⟩
      rw [Facts.press, Slot.select_val]
      exact if_neg (by rw [unconfigured]; exact Bool.false_ne_true)
    | refused configured opened leads =>
      refine .inl ⟨_, known, leads, ?_, ?_⟩
      · rw [DeviceKey.fault_of_apply opened]
        simp
      · simp only [Facts.press, Slot.select_val, if_pos configured, opened, Facts.reported]
    | limit configured opened above stops =>
      refine .inr ⟨stops, ?_⟩
      simp only [Facts.press, Slot.select_val, if_pos configured, opened, if_neg above]
    | @emitted secret store configured opened below put leads =>
      have untyped : (((known.setCredential slot (known.credentials.get slot).next).setStore
        store).traces.typed?) = none := scripted.untyped
      refine .inl ⟨_, _, leads, (by simp), ?_⟩
      simp only [Facts.press, Slot.select_val, if_pos configured, opened, if_pos below,
        Facts.keep, put, Facts.reported]
      rw [Facts.deliver_of_untyped untyped]
  · refine .inl ⟨_, known, .bind_fault (.slotOf_of_error none), (by simp), ?_⟩
    rw [Facts.press, none]
    rfl

/-- Programming ends, and its fault is reported, as the interpreter programs a text. -/
theorem programSecret_program {known : Facts KeyedVault} {script : Script}
    (scripted : known.Scripted script) (slot : Slot) (text : String) :
    ∃ outcome later, Leads (fun _ => True) (programSecret slot.val text) known outcome later ∧
      outcome ≠ .error .halted ∧ later.reported outcome = known.program slot text := by
  cases decoded : Secret.decode text with
  | error fault =>
    have refused : installing known.vault (known.credentials.get slot) text =
        (.error fault, known.vault) := by
      rw [installing, decoded]
    refine ⟨_, _, .programSecret_of_error refused, ?_, ?_⟩
    · rw [Secret.fault_of_decode decoded]
      simp
    · rw [Facts.program, refused]
      rfl
  | ok key =>
    obtain ⟨installed, accepted, _⟩ :=
      installing_keyed known.vault (known.credentials.get slot) decoded
    obtain ⟨store, _, put, kept⟩ := (scripted.setVault
      { known.vault with drawn := known.vault.drawn + 1 }).keep_eq slot installed
    refine ⟨_, _, (Leads.programSecret accepted put).any, (by simp), ?_⟩
    rw [Facts.program, accepted]
    exact congrArg (Facts.printLine · _) kept.symm

/-- What is done with a secret that has been entered. -/
def entering [Vault σ] (slot : Slot) (text : String) : DeviceAct σ Unit :=
  if text = "" then printLine "Aborted" else programSecret slot.val text

/-- What has been entered leads to the facts that `Facts.enter` names, once its fault has been
reported. -/
theorem entering_enter {known : Facts KeyedVault} {script : Script}
    (scripted : known.Scripted script) (slot : Slot) (text : String) :
    ∃ outcome later, Leads (fun _ => True) (entering slot text) known outcome later ∧
      outcome ≠ .error .halted ∧ later.reported outcome = known.enter slot text := by
  unfold entering Facts.enter
  split
  · exact ⟨_, _, .printLine _, (by simp), rfl⟩
  · exact programSecret_program scripted slot text

/-- Asking for a secret ends, and its fault is reported, as a long press is answered; or else the
script breaks off in the secret. -/
theorem programNewSecret_hold {known : Facts KeyedVault} {script : Script}
    (scripted : known.Scripted script) (number : Nat) :
    ∃ outcome later, Brings (programNewSecret number) known outcome later ∧
      (outcome ≠ .error .halted ∧ later.reported outcome = (known.hold number script).1 ∨
        outcome = .error .halted ∧ later = (known.hold number script).1 ∧
          (known.hold number script).2 = []) := by
  rcases Slot.select_cases number with ⟨slot, rfl⟩ | none
  · have ready := scripted.ask slot
    have asks : ∀ {outcome : Except Fault Unit} {later : Facts KeyedVault},
        Brings (onBoard SecretEntry.readLine >>= entering slot) (known.ask slot) outcome later →
          Brings (programNewSecret slot.val) known outcome later := by
      intro outcome later goes
      refine .bind (.of_leads (.slotOf_val slot)) (.withLight ?_)
      exact .bind (.of_leads (.printLine _)) (.bind (.of_leads (.printLine _)) goes)
    rw [Facts.hold, Slot.select_val]
    rcases read : script.readSecret 0 with ⟨text, rest, _ | _⟩
    · have ended := Script.readSecret_rest_of_open (congrArg (·.2.2) read)
      rw [read] at ended
      exact ⟨_, _, asks (.bind_fault (.readLine_of_open ready read)), .inr ⟨rfl, rfl, ended⟩⟩
    · obtain ⟨outcome, later, leads, running, entered⟩ :=
        entering_enter ((ready.withScript rest).print _) slot text
      exact ⟨outcome, later, asks (.bind (.readLine ready read) (.of_leads leads)),
        .inl ⟨running, entered⟩⟩
  · refine ⟨_, known, .bind_fault (.of_leads (.slotOf_of_error none)), .inl ⟨(by simp), ?_⟩⟩
    rw [Facts.hold, none]
    rfl

/-- A press is handled as it is answered. -/
theorem handle_answer {known : Facts KeyedVault} {script : Script}
    (scripted : known.Scripted script) (event : ButtonEvent) :
    (∃ outcome later after rest, Brings (handle event) known outcome later ∧
      known.answer event script = some (after, rest) ∧
      (outcome ≠ .error .halted ∧ later.reported outcome = after ∨
        outcome = .error .halted ∧ later = after ∧ rest = [])) ∨
    Stops (handle event) known .counterOverflow known ∧ known.answer event script = none := by
  obtain ⟨button, press⟩ := event
  cases press with
  | short =>
    rw [Facts.answer]
    rcases emitCode_press scripted button with
      ⟨outcome, later, leads, running, pressed⟩ | ⟨stops, pressed⟩
    · refine .inl ⟨outcome.map fun _ => (), later, later.reported outcome, script, ?_, ?_, .inl ?_⟩
      · cases outcome with
        | ok code => exact .bind (.of_leads leads) (.of_leads (.pure ()))
        | error fault => exact .bind_fault (.of_leads leads)
      · rw [pressed]
        rfl
      · cases outcome with
        | ok code => exact ⟨by simp [Except.map], rfl⟩
        | error fault => exact ⟨fun same => running (by cases same; rfl), rfl⟩
    · refine .inr ⟨.bind_left stops, ?_⟩
      rw [pressed]
      rfl
  | long =>
    obtain ⟨outcome, later, brings, goes⟩ := programNewSecret_hold scripted button
    exact .inl ⟨outcome, later, _, _, brings, rfl, goes⟩

section

variable [Vault σ] {watch : ButtonWatch}

/-- A press that has been handled is followed by the next one. -/
theorem serve_of_ok (handled : handleNext watch device = .ok () after) :
    serve watch device = serve watch after := by
  rw [serve]
  split
  next same => rw [handled] at same; cases same; rfl
  next same => rw [handled] at same; cases same
  next same => rw [handled] at same; cases same

/-- A trap in the handling of a press ends the serving. -/
theorem serve_of_trap {trap : Trap} (handled : handleNext watch device = .error (.trap trap) after) :
    serve watch device = .error (.trap trap) after := by
  rw [serve]
  split
  next same => rw [handled] at same; cases same
  next same => rw [handled] at same; cases same; rfl
  next same => rw [handled] at same; cases same

/-- A fault in the handling of a press is reported, and the next press follows, unless there is none
left. -/
theorem serve_of_fault {fault : Fault}
    (handled : handleNext watch device = .error (.fault fault) after) :
    serve watch device = if fault = .halted then .ok () after
      else serve watch { after with board := after.board.printLine (reportLine fault) } := by
  rw [serve]
  split
  next same => rw [handled] at same; cases same
  next same => rw [handled] at same; cases same
  next same => rw [handled] at same; cases same; rfl

/-- A fault of a press is reported, and the device goes on. -/
theorem serve_of_ends {event : ButtonEvent} {outcome : Except Fault Unit}
    (found : onBoard watch.nextEvent device = .ok event mid)
    (ends : mid.Ends (fun _ => False) later outcome (handle event mid))
    (running : outcome ≠ .error .halted) :
    ∃ after, serve watch device = serve watch after ∧ mid.board.Continues after.board ∧
      after.facts = later.reported outcome := by
  generalize ran : handle event mid = result at ends
  have handled : handleNext watch device = result := (bind_of_ok found).trans ran
  cases ends with
  | @ok _ after continues left => exact ⟨after, serve_of_ok handled, continues, left⟩
  | @fault fault after continues left =>
    have other : fault ≠ .halted := fun same => running (by rw [same])
    refine ⟨{ after with board := after.board.printLine (reportLine fault) }, ?_, ?_, ?_⟩
    · rw [serve_of_fault handled, if_neg other]
    · exact continues.trans (Board.continues_print continues.ready _)
    · rw [Facts.reported, ← left]
      rfl
  | cut _ absurd => exact absurd.elim

end

/-- A result that is the one that the interpreter has come to. -/
def Matches (result : EStateM.Result Failure (Device σ) Unit) (interpreted : Option (Facts σ)) :
    Prop :=
  match interpreted with
  | some facts => ∃ after, result = .ok () after ∧ after.facts = facts
  | none => ∃ after, result = .error (.trap .counterOverflow) after

section

variable {device : Device KeyedVault} {watch : ButtonWatch} {count : Nat} {script : Script}

/-- A device that is poised finds the next gesture of the script, or halts. -/
theorem found_of_poised (poised : Poised watch count device.board)
    (scripted : device.facts.Scripted script) :
    match script.nextGesture count with
    | none => ∃ after, handleNext watch device = .error (.fault .halted) after ∧
        after.facts = device.facts.withScript []
    | some (gesture, rest) => ∃ mid, onBoard watch.nextEvent device = .ok gesture.told mid ∧
        Poised watch count mid.board ∧ mid.facts = device.facts.withScript rest := by
  have events := poised.nextEvent scripted.input
  cases next : script.nextGesture count with
  | none =>
    rw [next] at events
    obtain ⟨after, halted, _, left⟩ := events
    refine ⟨{ device with board := after }, bind_of_error ?_, ?_⟩
    · rw [onBoard, halted]
    · rw [facts, left]
      rfl
  | some found =>
    rw [next] at events
    obtain ⟨after, found, poisedAfter, left⟩ := events
    refine ⟨{ device with board := after }, ?_, poisedAfter, ?_⟩
    · rw [onBoard, found]
    · rw [facts, left]
      rfl

/-- A device that serves presses does so as the interpreter does. -/
theorem serve_interpret (poised : Poised watch count device.board)
    (scripted : device.facts.Scripted script) :
    Matches (serve watch device) (interpret Gesture.told count script device.facts) := by
  generalize known : device.facts = facts at scripted
  fun_induction interpret Gesture.told count script facts generalizing device with
  | case1 script facts next =>
    have found := found_of_poised poised (known ▸ scripted)
    rw [next] at found
    obtain ⟨after, halted, left⟩ := found
    refine ⟨after, ?_, known ▸ left⟩
    rw [serve_of_fault halted, if_pos rfl]
  | case2 script facts gesture rest next answered =>
    have found := found_of_poised poised (known ▸ scripted)
    rw [next] at found
    obtain ⟨mid, found, poisedMid, left⟩ := found
    rw [known] at left
    rcases handle_answer (scripted.withScript rest) gesture.told with
      ⟨_, _, _, _, _, some, _⟩ | ⟨stops, _⟩
    · rw [answered] at some
      cases some
    · obtain ⟨after, ran, _⟩ :=
        stops mid poisedMid.rest.ready poisedMid.rest.supplied left
      exact ⟨after, serve_of_trap ((bind_of_ok found).trans ran)⟩
  | case3 script facts gesture rest next after later answered ih =>
    have found := found_of_poised poised (known ▸ scripted)
    rw [next] at found
    obtain ⟨mid, found, poisedMid, left⟩ := found
    rw [known] at left
    have ready := scripted.withScript rest
    rcases handle_answer ready gesture.told with
      ⟨outcome, last, _, _, brings, same, goes⟩ | ⟨_, none⟩
    · rw [answered] at same
      cases same
      have ends := brings mid poisedMid.rest left
      rcases goes with ⟨running, reported⟩ | ⟨rfl, rfl, rfl⟩
      · obtain ⟨onward, serves, continues, became⟩ := serve_of_ends found ends running
        rw [serves]
        exact ih (poisedMid.continues continues) (became.trans reported) (ready.answer answered)
      · -- The script has broken off in a secret, and the interpreter finds nothing more either.
        obtain ⟨after, ran, _, became⟩ := ends.eq_fault poisedMid.rest.supplied
        rw [interpret_nil count (ready.answer answered)]
        refine ⟨after, ?_, became⟩
        rw [serve_of_fault ((bind_of_ok found).trans ran), if_pos rfl]
    · rw [answered] at none
      cases none

end

/-- A device that starts over a writable store has its slots restored, and its script before it. -/
theorem start_scripted {store : Store} (writable : store.Writable) (script : String) (buttons : Nat)
    (vault : KeyedVault) :
    let initial := Board.initial store (Bytes.ofText script) buttons false
    ∃ booted, start initial vault = .ok () booted ∧ initial.Continues booted.board ∧
      booted.facts.Scripted script.toList := by
  intro initial
  have rest := Board.AtRest.initial store (Bytes.ofText script) buttons false
  obtain ⟨found, awake, _, begins⟩ := start_awake rest writable vault
  have scripted : found.facts.Scripted script.toList := by
    refine ⟨awake.durable.kept, ?_, ?_⟩
    · exact congrArg Traces.typed? awake.traces
    · exact (congrArg Traces.input awake.traces).trans (Bytes.ofText_eq_ofChars script)
  split at begins
  · obtain ⟨outcome, later, leads, _, programmed⟩ :=
      programSecret_program scripted Slot.first defaultSecret
    obtain ⟨booted, ran, continues, left⟩ := (Leads.programDefault leads found
      awake.durable.rest.ready rfl).eq_ok awake.durable.rest.supplied
    refine ⟨booted, begins.trans ran, awake.continues.trans continues, ?_⟩
    rw [left, programmed]
    exact scripted.program Slot.first defaultSecret
  · exact ⟨found, begins, awake.continues, scripted⟩

/-- Over a board whose buttons have not been touched, a watch over them begins poised. -/
theorem poised_of_begin {store : Store} {input : Bytes} {count : Nat} {hasKeyboard : Bool}
    {board : Board} (continues : (Board.initial store input count hasKeyboard).Continues board) :
    ∃ watch after, ButtonWatch.begin board = .ok watch after ∧ Poised watch count after ∧
      after.traces = board.traces := by
  have idle : (Board.initial store input count hasKeyboard).jobs = [] := by
    cases hasKeyboard <;> rfl
  have untouched : board.buttons = .initial count := continues.unmoved idle
  have rest := (Board.AtRest.initial store input count hasKeyboard).continues continues
  obtain ⟨after, began, restAfter, left, jobs, _, buttons⟩ := ButtonWatch.begin_eq rest
  rw [untouched] at buttons
  have none : after.jobs = [] := jobs.trans (continues.still idle)
  exact ⟨_, after, began, ⟨restAfter, congrArg Buttons.subscriber buttons,
    congrArg Buttons.interrupts buttons, congrArg Buttons.settled buttons,
    by simp [none]⟩, left⟩

/-- A device that has started over a writable store runs as the interpreter does, when gestures are
known as they are told. -/
theorem run_told {store : Store} (writable : store.Writable) (script : String) (buttons : Nat)
    (vault : KeyedVault) :
    ∃ booted, start (.initial store (Bytes.ofText script) buttons false) vault = .ok () booted ∧
      (booted.facts.printLine usage).Scripted script.toList ∧
      Matches (run booted)
        (interpret Gesture.told buttons script.toList (booted.facts.printLine usage)) := by
  obtain ⟨booted, started, continues, scripted⟩ := start_scripted writable script buttons vault
  refine ⟨booted, started, scripted.print _, ?_⟩
  let told : Device KeyedVault := { booted with board := booted.board.printLine usage }
  have printed : (Board.initial store (Bytes.ofText script) buttons false).Continues told.board :=
    continues.trans (Board.continues_print continues.ready _)
  obtain ⟨watch, after, began, poised, left⟩ := poised_of_begin printed
  let device : Device KeyedVault := { booted with board := after }
  have same : device.facts = booted.facts.printLine usage := by
    rw [facts, left]
    rfl
  have ran : run booted = serve watch device := by
    have first : printLine usage booted = .ok () told := rfl
    have second : attempt (onBoard ButtonWatch.begin) told = .ok (.ok watch) device := by
      refine attempt_of_ok ?_
      rw [onBoard, began]
    unfold run
    rw [bind_of_ok first, bind_of_ok second]
  rw [ran, ← same]
  refine serve_interpret poised ?_
  rw [same]
  exact scripted.print _

end OtpToken.Device

namespace OtpToken

open Act Device

/-- Over any writable store and on any script, a device without a keyboard starts, and its run ends as
the interpreter says, with the same transcript, the same store and the same credentials. Gestures
are known as they are told, which is what they stand for if there are no more buttons than 32 bits
can number. There is an end to it if no counter can come to its limit on the way. -/
theorem run_eq_interpret {store : Store} (writable : store.Writable) (script : String)
    (buttons : Nat) (vault : KeyedVault) :
    ∃ booted, start (.initial store (Bytes.ofText script) buttons false) vault = .ok () booted ∧
      let interpreted := interpret Gesture.told buttons script.toList (booted.facts.printLine usage)
      Matches (run booted) interpreted ∧
      (buttons ≤ UInt32.size →
        interpreted =
          interpret Gesture.event buttons script.toList (booted.facts.printLine usage)) ∧
      ((∀ slot, (booted.credentials.get slot).counter.toNat + script.length < UInt64.size) →
        interpreted.isSome) := by
  obtain ⟨booted, started, _, ended⟩ := run_told writable script buttons vault
  refine ⟨booted, started, ended, fun few => interpret_told_eq few _ _, fun room => ?_⟩
  apply isSome_interpret
  intro slot
  rw [String.length_toList]
  exact room slot

/-- A store that holds the same record for every slot. -/
def restoredStore : Store :=
  { Store.inMemory with
    table := Slot.all.map fun slot : Slot => (Keystore.recordKey slot, 2 :: List.replicate 88 7) }

/-- The store can be written. -/
theorem writable_restoredStore : restoredStore.Writable := Store.writable_of_memory rfl rfl

/-- A device that starts over that store has secrets in all its slots that every key opens, and
counters that are far from their limit. -/
theorem credential_of_restored {script : String} {buttons : Nat} {vault : KeyedVault}
    {booted : Device KeyedVault}
    (started : start (.initial restoredStore (Bytes.ofText script) buttons false) vault =
      .ok () booted) (slot : Slot) :
    let credential := booted.credentials.get slot
    credential.isConfigured = true ∧
      (∀ key : DeviceKey, ∃ secret, key.apply credential.iv credential.sealedSecret = .ok secret) ∧
      credential.counter.toNat + 64 < UInt64.size := by
  have records : ∀ slot, (restoredStore.credential? slot).any (fun credential =>
      credential.isConfigured ∧ credential.sealedSecret.length ≤ Secret.maxLength ∧
        DeviceKey.startBlock credential.iv < DeviceKey.lastBlock ∧
        credential.counter.toNat + 64 < UInt64.size) = true := by
    decide +kernel
  have stored : ∀ slot, ∃ kept, restoredStore.credential? slot = some kept := fun slot =>
    ((Option.any_eq_true _ _).mp (records slot)).imp fun _ record => record.1
  obtain ⟨_, same, held⟩ :=
    start_of_stored writable_restoredStore stored (Bytes.ofText script) buttons false vault
  rw [started] at same
  cases same
  have record := records slot
  rw [held slot, Option.any_some] at record
  obtain ⟨configured, short, early, low⟩ := of_decide_eq_true record
  exact ⟨configured, fun _ => DeviceKey.apply_isOk_iff.mpr ⟨short, .inr early⟩, low⟩

/-- A device with eight buttons that has found a record for every slot gets through a script. -/
theorem run_eq_interpret_restored :
    let vault : KeyedVault := ⟨Block.zero _, fun _ => Block.zero _, 0⟩
    let script := "press 0\nhold 1\nGEZDGNBV\npress 1\nhold 7\n"
    ∃ booted after,
      start (.initial restoredStore (Bytes.ofText script) 8 false) vault = .ok () booted ∧
      run booted = .ok () after ∧
      interpret Gesture.event 8 script.toList (booted.facts.printLine usage) = some after.facts := by
  intro vault script
  obtain ⟨booted, started, ended, known, room⟩ :=
    run_eq_interpret writable_restoredStore script 8 vault
  have few : 8 ≤ UInt32.size := by decide
  rw [known few] at ended room
  obtain ⟨facts, interpreted⟩ := Option.isSome_iff_exists.mp (room fun slot => by
    have low := (credential_of_restored started slot).2.2
    have short : script.length < 64 := by decide
    omega)
  rw [interpreted] at ended
  obtain ⟨after, ran, left⟩ := ended
  exact ⟨booted, after, started, ran, interpreted.trans (congrArg some left.symm)⟩

/-- A button whose number takes more than 32 bits is told as another: where the press of a button that
has no slot is to be reported, the run uses up a counter of the first slot. -/
theorem run_told_apart :
    let vault : KeyedVault := ⟨Block.zero _, fun _ => Block.zero _, 0⟩
    let script := "press 4294967296\n"
    let buttons := 4294967297
    ∃ booted after,
      start (.initial restoredStore (Bytes.ofText script) buttons false) vault = .ok () booted ∧
      run booted = .ok () after ∧
      interpret Gesture.event buttons script.toList (booted.facts.printLine usage) =
        some (((booted.facts.printLine usage).withScript []).report (.noSuchSlot 4294967296)) ∧
      (after.credentials.get Slot.first).counter.toNat =
        (booted.credentials.get Slot.first).counter.toNat + 1 ∧
      interpret Gesture.event buttons script.toList (booted.facts.printLine usage) ≠
        some after.facts := by
  intro vault script buttons
  obtain ⟨booted, started, scripted, ended⟩ :=
    run_told writable_restoredStore script buttons vault
  obtain ⟨configured, opens, low⟩ := credential_of_restored started Slot.first
  have gestured : Gesture.ofLine? (String.ofList (Script.takeLine script.toList).1) =
      some (.press 4294967296) := by
    decide
  have next : Script.nextGesture buttons script.toList = some (.press 4294967296, []) :=
    Script.nextGesture_of_line gestured (by decide) (show 4294967296 < buttons by decide)
  obtain ⟨secret, opened⟩ := opens booted.vault.key
  have below : (booted.credentials.get Slot.first).counter.toNat + 1 < UInt64.size := by omega
  obtain ⟨facts, pressed, counted⟩ := @Facts.exists_press
    ((booted.facts.printLine usage).withScript []) Slot.first secret configured opened below
  have told : interpret Gesture.told buttons script.toList (booted.facts.printLine usage) =
      some facts :=
    interpret_of_last scripted next (congrArg (Option.map (·, [])) pressed)
  have meant : interpret Gesture.event buttons script.toList (booted.facts.printLine usage) =
      some (((booted.facts.printLine usage).withScript []).report (.noSuchSlot 4294967296)) :=
    interpret_of_last scripted next rfl
  rw [told] at ended
  obtain ⟨after, ran, rfl⟩ := ended
  refine ⟨booted, after, started, ran, meant, counted, fun same => ?_⟩
  have unmoved := congrArg (fun facts => (facts.credentials.get Slot.first).counter.toNat)
    (Option.some.inj (meant.symm.trans same))
  exact Nat.succ_ne_self _ (counted.symm.trans unmoved.symm)

end OtpToken
