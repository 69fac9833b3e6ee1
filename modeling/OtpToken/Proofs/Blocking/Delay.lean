import OtpToken.Presses
import OtpToken.Proofs.Act
import OtpToken.Proofs.Board.Rest

/-!
# Waiting for time to pass

A delay serves what is due before its end and takes no input, and what is left to do
after it is due no earlier than that (`delay_eq`). A press is classified by what its
button is like after a delay. Here the supply is taken not to fail.
-/

namespace OtpToken

open Act Board

/-- Of two settings of one alarm the second counts. -/
theorem Alarms.setTimer_setTimer (alarms : Alarms) (place : Nat) (timer other : Option Timer) :
    (alarms.setTimer place timer).setTimer place other = alarms.setTimer place other := by
  rw [setTimer, setTimer, setTimer, List.set_set]

namespace Board

variable {board mid after : Board} {jobs : List Job}

/-- How an alarm is set makes no difference to the other jobs. -/
theorem mem_jobs_setTimer {place : Nat} {timer : Option Timer} {job : Job}
    (apart : job.task ≠ .ring place) :
    job ∈ ({ board with alarms := board.alarms.setTimer place timer } : Board).jobs ↔
      job ∈ board.jobs := by
  rw [mem_jobs, mem_jobs]
  refine exists_congr fun source => ?_
  cases source with
  | alarms =>
    refine (Alarms.mem_jobs.trans (exists_congr fun other => and_congr_right fun own => ?_)).trans
      Alarms.mem_jobs.symm
    have different : ¬(place = other ∧ place < board.alarms.places.length) := by
      rintro ⟨rfl, _⟩
      exact apart own
    rw [Alarms.timer?_setTimer, if_neg different]
  | buttons | console | macUnit | keyboard | keyValue => exact Iff.rfl

/-- The board once the default alarm has been armed under a fresh ticket. -/
def beginDelay (board : Board) (ticks : Nat) : Board :=
  { board with
    tickets := board.tickets + 1
    alarms := board.alarms.setTimer Alarms.defaultPlace
      (some ⟨some (.flag board.drawTicket.1), some (board.clock + ticks)⟩) }

/-- What the default alarm has to do then. -/
def delayJob (board : Board) (ticks : Nat) : Job := ⟨board.clock + ticks, .ring Alarms.defaultPlace⟩

/-- Beginning a delay changes no driver but the alarms. -/
theorem beginDelay_sameAt (ticks : Nat) {source : Source} (apart : source ≠ .alarms) :
    board.SameAt (board.beginDelay ticks) source := by
  cases source <;> first | rfl | exact absurd rfl apart

section

variable {ticks : Nat}

/-- When a delay has begun, the default alarm is armed under a fresh ticket, and the others are as
they were. -/
theorem Sound.timer?_beginDelay (sound : board.Sound) (ticks place : Nat) :
    (board.beginDelay ticks).alarms.timer? place =
      if Alarms.defaultPlace = place then
        some ⟨some (.flag board.drawTicket.1), some (board.clock + ticks)⟩
      else board.alarms.timer? place := by
  obtain ⟨timer, here⟩ := Option.isSome_iff_exists.mp sound.alarms.hasDefault
  simp only [beginDelay, Alarms.timer?_setTimer, Alarms.lt_length_of_timer? here, and_true]

/-- Beginning a delay leaves a sound board. -/
theorem Sound.beginDelay (sound : board.Sound) (ticks : Nat) :
    (board.beginDelay ticks).Sound :=
  { sound with alarms := sound.alarms.setTimer (fun _ => rfl) (by simp) }

/-- When a delay has begun, the ringing of the default alarm is outstanding. -/
theorem Sound.mem_beginDelay (sound : board.Sound) (ticks : Nat) :
    board.delayJob ticks ∈ (board.beginDelay ticks).jobs := by
  refine mem_jobs.mpr ⟨.alarms, Alarms.mem_jobs.mpr ⟨_, rfl, ?_⟩⟩
  rw [sound.timer?_beginDelay, if_pos rfl]
  rfl

/-- Beginning a delay changes nobody's subscription but that to the default alarm. -/
theorem Sound.hearer?_beginDelay (sound : board.Sound) {task : Task}
    (apart : task ≠ .ring Alarms.defaultPlace) :
    (board.beginDelay ticks).hearer? task = board.hearer? task := by
  cases task with
  | ring place =>
    rw [hearer?, hearer?, sound.timer?_beginDelay,
      if_neg fun same => apart (congrArg Task.ring same.symm)]
  | turn | receive | digest | typing | access => rfl

/-- Only the job of the delay is at the default alarm. -/
theorem Sound.eq_delayJob (sound : board.Sound) {job : Job}
    (member : job ∈ (board.beginDelay ticks).jobs) (own : job.task = .ring Alarms.defaultPlace) :
    job = board.delayJob ticks := by
  obtain ⟨due, task⟩ := job
  cases own
  obtain ⟨_, ⟨⟩, expires⟩ := Alarms.mem_jobs.mp (mem_jobsOf_source member)
  rw [sound.timer?_beginDelay, if_pos rfl] at expires
  cases expires
  rfl

/-- A delay is over: jobs of others have been served while it lasted, and its own at last. -/
structure Delayed (board : Board) (ticks : Nat) (jobs : List Job) (mid served : Board) : Prop where
  runs : Runs (board.beginDelay ticks) jobs mid
  absent : board.delayJob ticks ∉ jobs
  left : board.delayJob ticks ∈ mid.jobs
  serves : mid.Serves (board.delayJob ticks) served
  taken : JobTaken (board.delayJob ticks) mid.jobs served.jobs
  sound : served.Sound

/-- While the others are served, nobody raises the ticket of a delay. -/
theorem Live.delayed (live : board.Live) (ticks : Nat) :
    ∃ jobs mid served polls, Delayed board ticks jobs mid served ∧
      (board.beginDelay ticks).waitUntil (fun _ calls => board.drawTicket.1.isRaised calls) =
        ⟨.ok (), polls, served⟩ := by
  have sound := live.sound
  have others : ∀ other ∈ (board.beginDelay ticks).jobs, other ≠ board.delayJob ticks →
      ∀ subscriber, (board.beginDelay ticks).hearer? other.task = some subscriber →
        ¬subscriber.Raises board.drawTicket.1 := by
    intro other member different subscriber heard
    rw [sound.hearer?_beginDelay fun own => different (sound.eq_delayJob member own)] at heard
    exact (live.fresh other.task subscriber heard).not_raises
  have mine : ∃ subscriber, (board.beginDelay ticks).hearer? (board.delayJob ticks).task =
      some subscriber ∧ subscriber.Raises board.drawTicket.1 :=
    ⟨_, by rw [delayJob, hearer?, sound.timer?_beginDelay, if_pos rfl]; rfl, .inl rfl⟩
  obtain ⟨jobs, mid, runs, absent, left, outcome⟩ := watch_job 0 (sound.beginDelay ticks) rfl
    (List.nil_append _).symm (by simp) (sound.mem_beginDelay ticks) (by simp [delayJob, Task.source])
    mine others
  rcases outcome with ⟨served, serves, taken, soundServed, ended, rested⟩ | ⟨spent, _⟩
  · exact ⟨jobs, mid, served, _, ⟨runs, absent, left, serves, taken, soundServed⟩, Watched.eq_of ended rested⟩
  · have power := runs.charge_eq_none live.supplied
    rw [power] at spent
    cases spent

namespace Delayed

variable {served : Board} {quiet : Timer}

/-- The board with its default alarm taken back. -/
abbrev silenced (served : Board) (quiet : Timer) : Board :=
  { served with
    alarms := served.alarms.setTimer Alarms.defaultPlace (some { quiet with subscriber := none }) }

/-- Taking back the default alarm makes no difference to who hears of anything else. -/
theorem hearer?_silenced (quiet : Timer) {task : Task} (apart : task ≠ .ring Alarms.defaultPlace) :
    (silenced served quiet).hearer? task = served.hearer? task := by
  cases task with
  | ring place =>
    have different : Alarms.defaultPlace ≠ place := fun here => apart (congrArg _ here.symm)
    simp only [hearer?, Alarms.timer?_setTimer, different, false_and, if_false]
  | turn | receive | digest | typing | access => rfl

/-- What is left when the delay is over was there before, and is due later. -/
theorem remains (delayed : Delayed board ticks jobs mid served)
    (found : served.alarms.timer? Alarms.defaultPlace = some quiet)
    (unarmed : quiet.expiration = none) :
    ∀ job ∈ (silenced served quiet).jobs, job ∈ board.jobs ∧ board.clock + ticks ≤ job.due := by
  intro job member
  have bound := Alarms.lt_length_of_timer? found
  have apart : job.task ≠ .ring Alarms.defaultPlace := by
    intro same
    obtain ⟨due, task⟩ := job
    cases same
    obtain ⟨_, ⟨⟩, expires⟩ := Alarms.mem_jobs.mp (mem_jobsOf_source member)
    simp [Alarms.timer?_setTimer, bound, unarmed] at expires
  have inside := delayed.taken.mem_of_mem_rest ((mem_jobs_setTimer apart).mp member)
  exact ⟨(@mem_jobs_setTimer board _ _ _ apart).mp (delayed.runs.mem_of_mem_rest inside),
    delayed.taken.due_le inside⟩

/-- Serving the alarm changes no other driver. -/
theorem sameAt (delayed : Delayed board ticks jobs mid served) (quiet : Timer) {source : Source}
    (apart : source ≠ .alarms) : mid.SameAt (silenced served quiet) source := by
  have before : mid.SameAt served source := delayed.serves.sameAt apart.symm
  cases source <;> first | exact before | exact absurd rfl apart

/-- A delay leaves what has been typed, printed and stored as it was. -/
theorem traces (delayed : Delayed board ticks jobs mid served) (rest : board.AtRest)
    (quiet : Timer) : (silenced served quiet).traces = board.traces := by
  have same : ∀ source, source ≠ .alarms → source ≠ .buttons →
      board.SameAt (silenced served quiet) source := by
    intro source notAlarms notButtons
    have begun := @beginDelay_sameAt board ticks _ notAlarms
    refine (begun.trans (delayed.runs.sameAt_of_idle ?_)).trans (delayed.sameAt quiet notAlarms)
    rw [begun.jobsOf, rest.ready.idle source notAlarms notButtons]
  exact traces_of_sameAt (same .console (by decide) (by decide))
    (same .keyboard (by decide) (by decide)) (same .keyValue (by decide) (by decide))

/-- Buttons that have nothing to do before the end of the delay stay as they are. -/
theorem buttons (delayed : Delayed board ticks jobs mid served) (quiet : Timer)
    (late : ∀ job ∈ board.jobs, job.task.source = .buttons → board.clock + ticks < job.due) :
    (silenced served quiet).buttons = board.buttons := by
  have untouched : ∀ job ∈ jobs, job.task.source ≠ .buttons := by
    intro job member own
    have inside : job ∈ board.jobs := by
      refine (@mem_jobs_setTimer board _ _ _ ?_).mp (delayed.runs.mem_jobs member)
      intro same
      rw [same] at own
      cases own
    exact absurd (late job inside own) (Nat.not_lt.mpr (delayed.runs.due_le member delayed.left))
  have same : (board.beginDelay ticks).SameAt mid .buttons := delayed.runs.sameAt .buttons untouched
  exact same.trans (delayed.sameAt quiet (by decide))

/-- A board at rest goes on as before when a delay is over. -/
theorem continues (delayed : Delayed board ticks jobs mid served) (rest : board.AtRest)
    (found : served.alarms.timer? Alarms.defaultPlace = some quiet)
    (unarmed : quiet.expiration = none) : board.Continues (silenced served quiet) := by
  have ready := rest.ready
  have bound := Alarms.lt_length_of_timer? found
  have drawn : (silenced served quiet).tickets = board.tickets + 1 :=
    delayed.serves.abides.tickets.trans delayed.runs.abides.tickets
  have armed : ∀ due, (some { quiet with subscriber := none }).bind Timer.expiration = some due →
      served.clock ≤ due := by
    intro due expires
    rw [Option.bind_some, unarmed] at expires
    cases expires
  have silent : (silenced served quiet).hearer? (.ring Alarms.defaultPlace) = none := by
    simp [hearer?, Alarms.timer?_setTimer, bound]
  refine .of_call .alarms ready (by decide) (fun other apart => beginDelay_sameAt ticks apart) rfl
    rfl delayed.runs (fun other apart => delayed.sameAt quiet apart) delayed.serves.abides.tickets ?_
    { delayed.sound with alarms := delayed.sound.alarms.setTimer (fun _ => rfl) armed } ?_
    (by simp) (absurd rfl) ?_
  · intro supplied
    have spent := delayed.serves.charge_eq
    rw [supplied] at spent
    exact spent
  · intro task own subscriber heard
    by_cases same : task = .ring Alarms.defaultPlace
    · rw [same, silent] at heard
      cases heard
    · rw [hearer?_silenced quiet same, delayed.serves.abides.hearer?, delayed.runs.abides.hearer?,
        ready.sound.hearer?_beginDelay same] at heard
      exact (ready.fresh task subscriber heard).mono (by omega)
  · intro job member
    exact (delayed.remains found unarmed job (mem_jobs.mpr ⟨.alarms, member⟩)).1

end Delayed

end

end Board

namespace BoardAct

variable {board : Board}

/-- What a delay registers. -/
def registerDelay (ticks : Nat) (ticket : Ticket) : BoardAct Unit := do
  subscribe (.alarm Alarms.defaultPlace) (some (.flag ticket))
  let _ ← command (·.armAlarm Alarms.defaultPlace ticks)

/-- On a sound board the delay is registered under the ticket that has been drawn. -/
theorem registerDelay_eq (sound : board.Sound) (ticks : Nat) :
    registerDelay ticks board.drawTicket.1 board.drawTicket.2 = .ok () (board.beginDelay ticks) := by
  obtain ⟨timer, here⟩ := Option.isSome_iff_exists.mp sound.alarms.hasDefault
  have bound := Alarms.lt_length_of_timer? here
  simp [registerDelay, subscribe, command, bind, EStateM.bind, Board.subscribe, Board.armAlarm,
    Alarms.subscribe, Alarms.arm, Board.drawTicket, here, Alarms.timer?_setTimer, bound,
    Except.bind, pure, Except.pure, EStateM.pure, beginDelay, Alarms.setTimer_setTimer]

/-- A delay waits for the default alarm and takes it back. -/
theorem delay_of_live (live : board.Live) {milliseconds ticks : Nat}
    (whole : ticksFor tickFrequency milliseconds = .ok ticks) :
    ∃ jobs mid served quiet, Delayed board ticks jobs mid served ∧
      served.alarms.timer? Alarms.defaultPlace = some quiet ∧ quiet.expiration = none ∧
      delay milliseconds board = .ok () (Delayed.silenced served quiet) := by
  obtain ⟨jobs, mid, served, polls, delayed, watched⟩ := live.delayed ticks
  obtain ⟨quiet, found, unarmed⟩ := delayed.serves.of_ring
  have released : served.releaseAlarm = Delayed.silenced served quiet := by
    simp [releaseAlarm, settle, Board.cancelAlarm, Alarms.cancel, Board.subscribe, Alarms.subscribe,
      found, unarmed, bind, Except.bind, pure, Except.pure]
  have first : (Act.ofExcept (ticksFor tickFrequency milliseconds) : BoardAct Nat) board =
      .ok ticks board := by
    rw [whole]
    rfl
  have awaited := awaitUpcall_of_ok (registerDelay_eq live.sound ticks) watched
  refine ⟨jobs, mid, served, quiet, delayed, found, unarmed, ?_⟩
  rw [← released]
  exact (bind_of_ok first).trans (releasing_of_ok ((bind_of_ok awaited).trans rfl))

/-- A delay serves what is due before its end, and nothing that is due after it. -/
theorem delay_eq (rest : board.AtRest) {milliseconds ticks : Nat}
    (whole : ticksFor tickFrequency milliseconds = .ok ticks) :
    ∃ after, delay milliseconds board = .ok () after ∧ board.Continues after ∧
      after.traces = board.traces ∧
      (∀ job ∈ after.jobs, board.clock + ticks ≤ job.due) ∧
      ((∀ job ∈ board.jobs, job.task.source = .buttons → board.clock + ticks < job.due) →
        after.buttons = board.buttons) := by
  obtain ⟨jobs, mid, served, quiet, delayed, found, unarmed, ran⟩ := delay_of_live rest.live whole
  exact ⟨_, ran, delayed.continues rest found unarmed, delayed.traces rest quiet,
    fun job member => (delayed.remains found unarmed job member).2, delayed.buttons quiet⟩

end BoardAct

namespace ButtonWatch

open BoardAct

variable {watch : ButtonWatch} {board mid after : Board}

/-- A watch hears of all buttons from the moment it begins. -/
theorem begin_eq (rest : board.AtRest) :
    ∃ after, ButtonWatch.begin board = .ok ⟨board.drawTicket.1⟩ after ∧ after.AtRest ∧
      after.traces = board.traces ∧ after.jobs = board.jobs ∧
      after.tickets = board.tickets + 1 ∧
      after.buttons = { board.buttons.enableAll with
        subscriber := some (.presses board.drawTicket.1) } := by
  let after : Board := { board with
    tickets := board.tickets + 1
    buttons := { board.buttons.enableAll with subscriber := some (.presses board.drawTicket.1) } }
  have enabled := rest.ready.sound.buttons.enableAll
  have sound : after.Sound := { rest.ready.sound with
    buttons := ⟨enabled.ordered, enabled.punctual, enabled.paired⟩ }
  have kept := rest.of_aside sound rfl rfl rfl rfl rfl rfl rfl (Nat.le_succ _)
    (fun place subscriber heard =>
      (rest.ready.fresh (.ring place) subscriber heard).mono (Nat.le_succ _))
    (by rintro _ ⟨⟩; exact Nat.lt_succ_self _)
  exact ⟨after, rfl, kept.1, rfl, rfl, rfl, rfl⟩

/-- Waiting for a press is waiting for an upcall that tells of one. -/
theorem nextPress_eq (watch : ButtonWatch) (board : Board) :
    watch.nextPress board =
      let waited := board.waitUntil fun _ calls =>
        (watch.ticket.pressed? board.calls.length calls).isSome
      match waited.result with
      | .ok () =>
        .ok ((watch.ticket.pressed? board.calls.length waited.board.calls).getD 0) waited.board
      | .error failure => .error failure waited.board := by
  simp only [nextPress, bind, EStateM.bind, look, wait]
  cases (board.waitUntil fun _ calls =>
    (watch.ticket.pressed? board.calls.length calls).isSome).result <;> rfl

/-- A press is classified by what its button is like when the delay is over. -/
theorem nextEvent_of_pressed {button : Nat} (pressed : watch.nextPress board = .ok button mid)
    (delayed : delay debounceMilliseconds mid = .ok () after) :
    watch.nextEvent board =
      match after.buttons.read button with
      | .ok isDown => .ok ⟨button, if isDown then .long else .short⟩ after
      | .error code => .error (.fault (.rejected code)) after := by
  rw [nextEvent, bind_of_ok pressed, bind_of_ok delayed]
  change EStateM.bind _ _ _ = _
  rw [EStateM.bind, command]
  cases after.buttons.read button <;> rfl

end ButtonWatch

end OtpToken
