import OtpToken.Blocking.Calls
import OtpToken.Proofs.Board.Waiting

/-!
# Boards between calls

Between two blocking calls a board is ready: it is sound, no subscriber waits with a
ticket that is still to be drawn, and only alarms and buttons have jobs. What lasts of
a call are its traces; everything else about the board may have moved on, as
`Continues` says. A call ends with a ready board and with its traces, or the supply
fails and no trace is left (`Ends`).
-/

namespace OtpToken

/-- What is left to see of the work of a board: the store, the printed and the typed texts, and the
input that has not been taken. -/
structure Traces where
  store : Store
  transcript : String
  typed? : Option (List String)
  input : Bytes

/-- A wait is known by its result and the board that it has left. -/
theorem Watched.eq_of {watched : Watched} {result : Except Failure Unit} {board : Board}
    (ended : watched.result = result) (left : watched.board = board) :
    watched = ⟨result, watched.polls, board⟩ := by
  subst ended left
  rfl

namespace BoardAct

variable {board : Board}

/-- A call whose operation is registered and whose upcall comes hands out its ticket. -/
theorem awaitUpcall_of_ok {register : Ticket → BoardAct Unit} {begun after : Board} {polls : Nat}
    (registered : register board.drawTicket.1 board.drawTicket.2 = .ok () begun)
    (watched : begun.waitUntil (fun _ calls => board.drawTicket.1.isRaised calls) =
      ⟨.ok (), polls, after⟩) :
    awaitUpcall register board = .ok board.drawTicket.1 after := by
  simp only [awaitUpcall_eq, BoardAct.drawTicket, bind, EStateM.bind, registered, wait,
    watched, pure, EStateM.pure]

/-- A call whose operation is registered but whose wait fails ends as the wait does. -/
theorem awaitUpcall_of_error {register : Ticket → BoardAct Unit} {begun after : Board} {polls : Nat}
    {failure : Failure} (registered : register board.drawTicket.1 board.drawTicket.2 = .ok () begun)
    (watched : begun.waitUntil (fun _ calls => board.drawTicket.1.isRaised calls) =
      ⟨.error failure, polls, after⟩) :
    awaitUpcall register board = .error failure after := by
  simp only [awaitUpcall_eq, BoardAct.drawTicket, bind, EStateM.bind, registered, wait,
    watched]

end BoardAct

namespace Board

variable {board mid after begun : Board} {jobs : List Job}

/-- The traces of a board. -/
def traces (board : Board) : Traces :=
  ⟨board.store, board.console.transcript, board.typed?, board.console.input⟩

/-- A board whose supply does not fail, whatever its drivers are at. -/
structure Live (board : Board) : Prop where
  sound : board.Sound
  fresh : board.Fresh
  supplied : board.charge = none

/-- A board that a blocking call can be made on. -/
structure Ready (board : Board) : Prop where
  sound : board.Sound
  fresh : board.Fresh
  idle : ∀ source, source ≠ .alarms → source ≠ .buttons → board.jobsOf source = []

/-- On a ready board the keyed-hash unit is idle. -/
theorem Ready.macUnit (ready : board.Ready) : board.macUnit.due = none := by
  have idle := ready.idle .macUnit (by decide) (by decide)
  simpa [jobsOf, MacUnit.jobs] using idle

/-- On a ready board the keyboard is idle, if there is one. -/
theorem Ready.keyboard (ready : board.Ready) {keyboard : Keyboard}
    (present : board.keyboard = some keyboard) : keyboard.due = none := by
  have idle := ready.idle .keyboard (by decide) (by decide)
  simpa [jobsOf, present, Keyboard.jobs] using idle

/-- On a ready board the key-value unit is idle. -/
theorem Ready.keyValue (ready : board.Ready) : board.keyValue.pending = none := by
  have idle := ready.idle .keyValue (by decide) (by decide)
  simpa [jobsOf, KeyValue.jobs] using idle

/-- A board that has just been switched on is ready. -/
theorem Ready.initial (store : Store) (input : Bytes) (buttons : Nat) (hasKeyboard : Bool) :
    (Board.initial store input buttons hasKeyboard).Ready where
  sound := .initial store input buttons hasKeyboard
  fresh := by
    intro task subscriber here
    cases task with
    | ring place =>
      simp only [hearer?, Board.initial, Alarms.initial, Alarms.timer?] at here
      cases place <;> simp [Timer.disarmed] at here
    | typing => cases hasKeyboard <;> cases here
    | turn | receive | digest | access => cases here
  idle := by
    intro source _ _
    cases source with
    | keyboard => cases hasKeyboard <;> rfl
    | alarms | buttons | console | macUnit | keyValue => rfl

/-- A board has moved on, and is ready again. -/
structure Continues (board after : Board) : Prop where
  ready : after.Ready
  reading : after.console.reading = board.console.reading
  watched : after.buttons.subscriber = board.buttons.subscriber
  interrupts : after.buttons.interrupts = board.buttons.interrupts
  settled : after.buttons.settled = board.buttons.settled
  tickets : board.tickets ≤ after.tickets
  /-- What is left to do was to be done before. -/
  fewer : ∀ job ∈ after.jobs, job ∈ board.jobs
  unmoved : board.jobs = [] → after.buttons = board.buttons
  supplied : board.charge = none → after.charge = none

/-- A ready board continues as it is. -/
theorem Continues.refl (ready : board.Ready) : board.Continues board :=
  ⟨ready, rfl, rfl, rfl, rfl, Nat.le_refl _, fun _ member => member, fun _ => rfl, id⟩

/-- A board without jobs has none later either. -/
theorem Continues.still (continues : board.Continues after) (still : board.jobs = []) :
    after.jobs = [] := by
  refine List.eq_nil_iff_forall_not_mem.mpr fun job member => ?_
  have before := continues.fewer job member
  rw [still] at before
  cases before

/-- A board that has continued twice has continued. -/
theorem Continues.trans (first : board.Continues mid) (second : mid.Continues after) :
    board.Continues after where
  ready := second.ready
  reading := second.reading.trans first.reading
  watched := second.watched.trans first.watched
  interrupts := second.interrupts.trans first.interrupts
  settled := second.settled.trans first.settled
  tickets := Nat.le_trans first.tickets second.tickets
  fewer := fun job member => first.fewer job (second.fewer job member)
  unmoved := fun still => (second.unmoved (first.still still)).trans (first.unmoved still)
  supplied := fun supplied => second.supplied (first.supplied supplied)

/-- A board continues if nothing changes but its lights and its transcript. -/
theorem Continues.of_show (ready : board.Ready) (alarms : after.alarms = board.alarms)
    (buttons : after.buttons = board.buttons)
    (console : after.console = { board.console with transcript := after.console.transcript })
    (macUnit : after.macUnit = board.macUnit) (keyboard : after.keyboard = board.keyboard)
    (keyValue : after.keyValue = board.keyValue) (clock : after.clock = board.clock)
    (tickets : after.tickets = board.tickets) (charge : after.charge = board.charge) :
    board.Continues after := by
  obtain ⟨clock', alarms', buttons', lights', console', macUnit', keyboard', keyValue', calls',
    tickets', charge'⟩ := after
  dsimp only at *
  subst alarms buttons macUnit keyboard keyValue clock tickets charge
  rw [console]
  have same : ∀ source, Board.jobsOf ⟨board.clock, board.alarms, board.buttons, lights',
      { board.console with transcript := console'.transcript }, board.macUnit, board.keyboard,
      board.keyValue, calls', board.tickets, board.charge⟩ source = board.jobsOf source := by
    intro source
    cases source <;> rfl
  refine ⟨⟨?_, ?_, ?_⟩, rfl, rfl, rfl, rfl, Nat.le_refl _, ?_, fun _ => rfl, id⟩
  · exact ⟨ready.sound.alarms, ready.sound.buttons,
      ⟨ready.sound.console.1, ready.sound.console.2, ready.sound.console.3⟩, ready.sound.macUnit,
      ready.sound.keyboard, ready.sound.keyValue⟩
  · intro task subscriber here
    exact ready.fresh task subscriber (by cases task <;> exact here)
  · intro source notAlarms notButtons
    rw [same, ready.idle source notAlarms notButtons]
  · intro job member
    obtain ⟨source, own⟩ := mem_jobs.mp member
    rw [same] at own
    exact mem_jobs.mpr ⟨source, own⟩

/-- A ready board continues when something is printed. -/
theorem continues_print (ready : board.Ready) (text : String) :
    board.Continues (board.print text) :=
  .of_show ready rfl rfl rfl rfl rfl rfl rfl rfl rfl

/-- The jobs of a driver are its own tasks. -/
theorem source_of_mem_jobsOf {source : Source} {job : Job} (member : job ∈ board.jobsOf source) :
    job.task.source = source := by
  cases source with
  | alarms =>
    obtain ⟨place, task, _⟩ := Alarms.mem_jobs.mp member
    rw [task]
    rfl
  | buttons | macUnit =>
    obtain ⟨_, _, rfl⟩ := List.mem_map.mp member
    rfl
  | console | keyValue =>
    obtain ⟨⟨_, _⟩, _, rfl⟩ := List.mem_map.mp member
    rfl
  | keyboard =>
    cases present : board.keyboard with
    | none => simp [jobsOf, present] at member
    | some keyboard =>
      simp only [jobsOf, present, Option.map_some, Option.getD_some] at member
      obtain ⟨_, _, rfl⟩ := List.mem_map.mp member
      rfl

/-- Every job is one of the driver that it belongs to. -/
theorem mem_jobsOf_source {job : Job} (member : job ∈ board.jobs) :
    job ∈ board.jobsOf job.task.source := by
  obtain ⟨source, own⟩ := mem_jobs.mp member
  rw [source_of_mem_jobsOf own]
  exact own

/-- A driver without jobs stays as it is while others are served. -/
theorem Runs.sameAt_of_idle (runs : Runs board jobs after) {source : Source}
    (idle : board.jobsOf source = []) : board.SameAt after source := by
  refine runs.sameAt source fun job member same => ?_
  have own := mem_jobsOf_source (runs.mem_jobs member)
  rw [same, idle] at own
  cases own

/-- A driver whose only job is not served stays as it is. -/
theorem Runs.sameAt_of_only (runs : Runs board jobs after) {job : Job}
    (only : board.jobsOf job.task.source = [job]) (absent : job ∉ jobs) :
    board.SameAt after job.task.source := by
  refine runs.sameAt _ fun other member same => absent ?_
  have own := mem_jobsOf_source (runs.mem_jobs member)
  rw [same, only] at own
  rw [← List.mem_singleton.mp own]
  exact member

/-- A driver that is as it was twice is as it was. -/
theorem SameAt.trans {source : Source} (first : board.SameAt mid source)
    (second : mid.SameAt after source) : board.SameAt after source := by
  cases source <;> exact Eq.trans second first

/-- A driver that is as it was has the same jobs. -/
theorem SameAt.jobsOf {source : Source} (same : board.SameAt after source) :
    after.jobsOf source = board.jobsOf source := by
  cases source with
  | alarms => exact congrArg Alarms.jobs same
  | buttons => exact congrArg Buttons.jobs same
  | console => exact congrArg Console.jobs same
  | macUnit => exact congrArg MacUnit.jobs same
  | keyboard => exact congrArg (fun keyboard => (keyboard.map Keyboard.jobs).getD []) same
  | keyValue => exact congrArg KeyValue.jobs same

/-- A driver that is as it was is heard by the same subscriber. -/
theorem SameAt.hearer? {task : Task} (same : board.SameAt after task.source) :
    after.hearer? task = board.hearer? task := by
  cases task with
  | ring place =>
    exact congrArg (fun alarms => (Alarms.timer? alarms place).bind Timer.subscriber) same
  | turn _ _ => exact congrArg Buttons.subscriber same
  | receive => exact congrArg Console.subscriber same
  | digest => exact congrArg MacUnit.subscriber same
  | typing => exact congrArg (fun keyboard => keyboard.bind Keyboard.subscriber) same
  | access _ => exact congrArg KeyValue.subscriber same

/-- A call at one driver leaves the board ready: the driver is begun with under a fresh ticket, jobs
of others are served, and in the end the driver is idle and tells nobody that is unknown. -/
theorem Continues.of_call (source : Source) (ready : board.Ready) (apart : source ≠ .buttons)
    (begins : ∀ other, other ≠ source → board.SameAt begun other)
    (drawn : begun.tickets = board.tickets + 1) (charged : begun.charge = board.charge)
    (runs : Runs begun jobs mid)
    (ends : ∀ other, other ≠ source → mid.SameAt after other)
    (kept : after.tickets = mid.tickets) (discharged : mid.charge = none → after.charge = none)
    (sound : after.Sound)
    (known : ∀ task, task.source = source → ∀ subscriber, after.hearer? task = some subscriber →
      subscriber.IsAmong after.tickets)
    (reading : source = .console → after.console.reading = board.console.reading)
    (idle : source ≠ .alarms → after.jobsOf source = [])
    (fewer : ∀ job ∈ after.jobsOf source, job ∈ board.jobs) : board.Continues after := by
  have tickets : after.tickets = board.tickets + 1 := by rw [kept, runs.abides.tickets, drawn]
  have same : ∀ other, other ≠ source → board.jobsOf other = [] → board.SameAt after other := by
    intro other different none
    have begunIdle : begun.jobsOf other = [] := by rw [(begins other different).jobsOf, none]
    exact ((begins other different).trans (runs.sameAt_of_idle begunIdle)).trans
      (ends other different)
  refine ⟨⟨sound, ?_, ?_⟩, ?_, ?_, ?_, ?_, by omega, ?_, ?_, ?_⟩
  · intro task subscriber here
    by_cases own : task.source = source
    · exact known task own subscriber here
    · rw [(ends _ own).hearer?, runs.abides.hearer?, (begins _ own).hearer?] at here
      exact (ready.fresh task subscriber here).mono (by omega)
  · intro other notAlarms notButtons
    by_cases own : other = source
    · rw [own] at notAlarms ⊢
      exact idle notAlarms
    · have none := ready.idle other notAlarms notButtons
      rw [(same other own none).jobsOf, none]
  · by_cases own : source = .console
    · exact reading own
    · have console := same .console (fun h => own h.symm) (ready.idle _ (by decide) (by decide))
      exact congrArg Console.reading console
  · have served := runs.abides.hearer? (.turn 0 true)
    have first : begun.hearer? (.turn 0 true) = board.hearer? (.turn 0 true) :=
      SameAt.hearer? (begins .buttons fun h => apart h.symm)
    have last : after.hearer? (.turn 0 true) = mid.hearer? (.turn 0 true) :=
      SameAt.hearer? (ends .buttons fun h => apart h.symm)
    exact last.trans (served.trans first)
  · have first := congrArg Buttons.interrupts (begins .buttons fun h => apart h.symm)
    have last := congrArg Buttons.interrupts (ends .buttons fun h => apart h.symm)
    exact last.trans (runs.abides.interrupts.trans first)
  · have first := congrArg Buttons.settled (begins .buttons fun h => apart h.symm)
    have last := congrArg Buttons.settled (ends .buttons fun h => apart h.symm)
    exact last.trans (runs.abides.settled.trans first)
  · intro job member
    have inside := mem_jobsOf_source member
    by_cases own : job.task.source = source
    · rw [own] at inside
      exact fewer job inside
    · rw [(ends _ own).jobsOf] at inside
      have first := mem_jobsOf_source (runs.mem_of_mem_rest (mem_jobs.mpr ⟨_, inside⟩))
      rw [(begins _ own).jobsOf] at first
      exact mem_jobs.mpr ⟨_, first⟩
  · intro none
    exact same .buttons (fun h => apart h.symm) (jobs_eq_nil_iff.mp none .buttons)
  · intro supplied
    exact discharged (runs.charge_eq_none (charged.trans supplied))

/-- How an action on a board ends: with its outcome and its traces and on a ready board, or else the
supply fails and there is no trace of the action. -/
inductive Ends {α : Type} (board : Board) (traces : Traces) :
    Except Fault α → EStateM.Result Failure Board α → Prop
  | ok {value : α} {after : Board} (continues : board.Continues after)
      (left : after.traces = traces) : Ends board traces (.ok value) (.ok value after)
  | fault {fault : Fault} {after : Board} (continues : board.Continues after)
      (left : after.traces = traces) :
      Ends board traces (.error fault) (.error (.fault fault) after)
  | cut {outcome : Except Fault α} {after : Board} (charged : board.charge ≠ none)
      (spent : after.charge = some 0) (left : after.traces = board.traces) :
      Ends board traces outcome (.error (.trap .powerLoss) after)

/-- A driver has been told of a job under the ticket that is drawn next, which is its only job. -/
structure Begun (board begun : Board) (job : Job) : Prop where
  others : ∀ other, other ≠ job.task.source → board.SameAt begun other
  sound : begun.Sound
  calls : begun.calls = board.calls
  tickets : begun.tickets = board.tickets + 1
  charge : begun.charge = board.charge
  only : begun.jobsOf job.task.source = [job]
  hearer : ∃ subscriber, begun.hearer? job.task = some subscriber ∧
    subscriber.Raises board.drawTicket.1

/-- A wait for a job that a driver has been told of: others are served before it, each in its turn,
and then the job is, unless the supply fails before. -/
theorem Begun.awaitTaken {job : Job} (begins : board.Begun begun job) (fresh : board.Fresh)
    (register : Ticket → BoardAct Unit) (apart : job.task.source ≠ .buttons)
    (registered : register board.drawTicket.1 board.drawTicket.2 = .ok () begun) :
    ∃ jobs mid, Runs begun jobs mid ∧ job ∉ jobs ∧
      ((∃ after, mid.Serves job after ∧ JobTaken job mid.jobs after.jobs ∧ after.Sound ∧
          BoardAct.awaitUpcall register board = .ok board.drawTicket.1 after) ∨
        mid.charge = some 0 ∧
          BoardAct.awaitUpcall register board = .error (.trap .powerLoss) mid) := by
  have own : job ∈ begun.jobs := by
    refine mem_jobs.mpr ⟨job.task.source, ?_⟩
    rw [begins.only]
    exact List.mem_singleton_self job
  have others : ∀ other ∈ begun.jobs, other ≠ job → ∀ subscriber,
      begun.hearer? other.task = some subscriber → ¬subscriber.Raises board.drawTicket.1 := by
    intro other member different subscriber here
    have elsewhere : other.task.source ≠ job.task.source := by
      intro same
      have inside := mem_jobsOf_source member
      rw [same, begins.only] at inside
      exact different (List.mem_singleton.mp inside)
    rw [(begins.others _ elsewhere).hearer?] at here
    exact (fresh other.task subscriber here).not_raises
  have history : begun.calls = [] ++ board.calls := begins.calls
  obtain ⟨jobs, mid, runs, absent, _, outcome⟩ := watch_job 0 begins.sound rfl history (by simp)
    own apart begins.hearer others
  refine ⟨jobs, mid, runs, absent, ?_⟩
  rcases outcome with ⟨after, serves, taken, sound, ended, left⟩ | ⟨spent, ended, left⟩
  · exact .inl ⟨after, serves, taken, sound,
      BoardAct.awaitUpcall_of_ok registered (Watched.eq_of ended left)⟩
  · exact .inr ⟨spent, BoardAct.awaitUpcall_of_error registered (Watched.eq_of ended left)⟩

/-- The driver waits for its job unchanged. -/
theorem Begun.await {job : Job} (begins : board.Begun begun job) (fresh : board.Fresh)
    (register : Ticket → BoardAct Unit) (apart : job.task.source ≠ .buttons)
    (registered : register board.drawTicket.1 board.drawTicket.2 = .ok () begun) :
    ∃ jobs mid, Runs begun jobs mid ∧ begun.SameAt mid job.task.source ∧
      ((∃ after, mid.Serves job after ∧ after.Sound ∧
          BoardAct.awaitUpcall register board = .ok board.drawTicket.1 after) ∨
        mid.charge = some 0 ∧
          BoardAct.awaitUpcall register board = .error (.trap .powerLoss) mid) := by
  obtain ⟨jobs, mid, runs, absent, outcome⟩ := begins.awaitTaken fresh register apart registered
  refine ⟨jobs, mid, runs, runs.sameAt_of_only begins.only absent, ?_⟩
  rcases outcome with ⟨after, serves, _, sound, awaited⟩ | cut
  · exact .inl ⟨after, serves, sound, awaited⟩
  · exact .inr cut

/-- While a call at one of the drivers that are idle between calls waits, none of these drivers
changes. -/
theorem Begun.sameAt {job : Job} (begins : board.Begun begun job) (ready : board.Ready)
    (runs : Runs begun jobs mid) (own : begun.SameAt mid job.task.source) {source : Source}
    (notAlarms : source ≠ .alarms) (notButtons : source ≠ .buttons) : begun.SameAt mid source := by
  by_cases same : source = job.task.source
  · rw [same]
    exact own
  · refine runs.sameAt_of_idle ?_
    rw [(begins.others source same).jobsOf, ready.idle source notAlarms notButtons]

/-- Such a call leaves the others of these drivers as they were. -/
theorem Begun.others_sameAt {job : Job} (begins : board.Begun begun job) (ready : board.Ready)
    (runs : Runs begun jobs mid) (own : begun.SameAt mid job.task.source)
    (serves : mid.Serves job after) (source : Source)
    (apart : source ∉ [job.task.source, .alarms, .buttons]) : board.SameAt after source := by
  simp only [List.mem_cons, List.not_mem_nil, or_false, not_or] at apart
  obtain ⟨other, notAlarms, notButtons⟩ := apart
  have waited := begins.sameAt ready runs own notAlarms notButtons
  exact ((begins.others source other).trans waited).trans (serves.sameAt fun h => other h.symm)

/-- Once its job has been served, such a call only has to leave its own driver idle and silent. -/
theorem Begun.continues {job : Job} {last : Board} (begins : board.Begun begun job)
    (ready : board.Ready) (runs : Runs begun jobs mid) (serves : mid.Serves job after)
    (apart : job.task.source ∉ [Source.alarms, .buttons, .console]) (sound : last.Sound)
    (ends : ∀ other, other ≠ job.task.source → after.SameAt last other)
    (tickets : last.tickets = after.tickets) (charge : last.charge = after.charge)
    (idle : last.jobsOf job.task.source = [])
    (silent : ∀ task, task.source = job.task.source → last.hearer? task = none) :
    board.Continues last := by
  simp only [List.mem_cons, List.not_mem_nil, or_false, not_or] at apart
  refine .of_call job.task.source ready apart.2.1 begins.others begins.tickets begins.charge runs ?_
    (tickets.trans serves.abides.tickets) ?_ sound ?_ (fun console => absurd console apart.2.2)
    (fun _ => idle) (by simp [idle])
  · intro other different
    exact (serves.sameAt fun h => different h.symm).trans (ends other different)
  · intro supplied
    rw [charge, serves.charge_eq, supplied]
    rfl
  · intro task own subscriber here
    rw [silent task own] at here
    cases here

/-- The traces are in the console, the keyboard and the key-value unit alone. -/
theorem traces_of_sameAt (console : board.SameAt after .console)
    (keyboard : board.SameAt after .keyboard) (keyValue : board.SameAt after .keyValue) :
    after.traces = board.traces := by
  have console : after.console = board.console := console
  have keyboard : after.keyboard = board.keyboard := keyboard
  have keyValue : after.keyValue = board.keyValue := keyValue
  simp only [traces, store, typed?, console, keyboard, keyValue]

/-- If the supply fails while such a call waits, the call ends without a trace. -/
theorem Begun.cut {α : Type} {job : Job} {traces : Traces} {outcome : Except Fault α}
    {release : Board → Board} (begins : board.Begun begun job) (ready : board.Ready)
    (runs : Runs begun jobs mid) (own : begun.SameAt mid job.task.source)
    (release_alike : (release mid).traces = mid.traces ∧ (release mid).charge = mid.charge)
    (spent : mid.charge = some 0) (untraced : begun.traces = board.traces) :
    board.Ends traces outcome (.error (.trap .powerLoss) (release mid)) := by
  have same : ∀ source, source ≠ .alarms → source ≠ .buttons → begun.SameAt mid source :=
    fun _ => begins.sameAt ready runs own
  have left : mid.traces = begun.traces := traces_of_sameAt (same .console (by decide) (by decide))
    (same .keyboard (by decide) (by decide)) (same .keyValue (by decide) (by decide))
  refine .cut ?_ (release_alike.2.trans spent) ((release_alike.1.trans left).trans untraced)
  intro supplied
  have still := runs.charge_eq_none (begins.charge.trans supplied)
  rw [spent] at still
  cases still

end Board

end OtpToken
