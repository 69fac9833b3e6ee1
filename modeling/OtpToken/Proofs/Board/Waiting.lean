import OtpToken.Proofs.Board.Service

/-!
# Waiting for a job

While somebody waits for a job of his, the board may serve others first. They do not
disturb him: a job changes nothing but its own driver, and what his upcall is told by
is a fresh ticket that no other subscriber holds. So a wait serves some other jobs and
then his own, unless the supply fails before (`waitUntil_job`).
-/

namespace OtpToken

/-- The ticket of a subscriber, if it has one, is one of the first `count`. -/
def Subscriber.IsAmong (count : Nat) : Subscriber → Prop
  | listener _ => True
  | flag ticket | recorder ticket | presses ticket => ticket.number < count

/-- The upcalls to a subscriber raise the flag of a ticket. -/
def Subscriber.Raises (ticket : Ticket) (subscriber : Subscriber) : Prop :=
  subscriber = .flag ticket ∨ subscriber = .recorder ticket

/-- A subscriber from before a ticket was drawn does not raise it. -/
theorem Subscriber.IsAmong.not_raises {subscriber : Subscriber} {ticket : Ticket}
    (among : subscriber.IsAmong ticket.number) : ¬subscriber.Raises ticket := by
  rintro (rfl | rfl) <;> exact absurd among (Nat.lt_irrefl _)

/-- Who has a ticket among the first few has one among more. -/
theorem Subscriber.IsAmong.mono {subscriber : Subscriber} {count more : Nat}
    (among : subscriber.IsAmong count) (le : count ≤ more) : subscriber.IsAmong more := by
  cases subscriber with
  | listener _ => trivial
  | flag _ | recorder _ | presses _ => exact Nat.lt_of_lt_of_le among le

/-- A ticket is raised by the first upcall of a later history if that goes to a subscriber of its
own, and only then. -/
theorem Ticket.isRaised_append {ticket : Ticket} {calls : History} (since : ticket.since = calls.length)
    (later : History) :
    ticket.isRaised (later ++ calls) = true ↔ ∃ call ∈ later, call.subscriber.Raises ticket := by
  have recent : History.since ticket.since (later ++ calls) = later := by
    rw [History.since, since, List.length_append, Nat.add_sub_cancel, List.take_left]
  rw [isRaised, recent]
  simp [Subscriber.Raises]

namespace KeyValue

/-- An access that completes leaves the subscriber. -/
theorem service_subscriber (unit : KeyValue) : unit.service.1.subscriber = unit.subscriber := by
  unfold service
  split
  next => rfl
  all_goals split <;> rfl

/-- A read of a key that is missing hears that there is none. -/
theorem service_get_of_none {unit : KeyValue} {due : Nat} (pending : unit.pending = some (due, .get))
    (missing : unit.store.get? unit.key = none) :
    unit.service = ({ unit with pending := none },
      Subscriber.call? unit.subscriber ReturnCode.noSupport.number 0) := by
  simp only [service, pending, missing]

/-- A read of a key that is found brings the value, as far as it fits, and its length. -/
theorem service_get_of_some {unit : KeyValue} {due : Nat} {value : Bytes}
    (pending : unit.pending = some (due, .get)) (found : unit.store.get? unit.key = some value) :
    unit.service = ({ unit with
        pending := none
        destination := copyInto unit.destination value },
      Subscriber.call? unit.subscriber
        (if unit.destination.length < value.length then ReturnCode.size.number else 0)
        value.length) := by
  simp only [service, pending, found]

/-- A write that the store takes changes it, and hears the length of the value. -/
theorem service_set_of_ok {unit : KeyValue} {due : Nat} {store : Store}
    (pending : unit.pending = some (due, .set)) (put : unit.store.put unit.key unit.value = .ok store) :
    unit.service = ({ unit with pending := none, store := store },
      Subscriber.call? unit.subscriber 0 unit.value.length) := by
  simp only [service, pending, put]

/-- A write that the store refuses hears of a failure. -/
theorem service_set_of_error {unit : KeyValue} {due : Nat} {error : StoreError}
    (pending : unit.pending = some (due, .set))
    (put : unit.store.put unit.key unit.value = .error error) :
    unit.service = ({ unit with pending := none },
      Subscriber.call? unit.subscriber ReturnCode.fail.number 0) := by
  simp only [service, pending, put]

/-- Whoever is subscribed hears of the access that is under way when it completes. -/
theorem service_call {unit : KeyValue} (busy : unit.pending.isSome) :
    ∃ first second, unit.service.2 = Subscriber.call? unit.subscriber first second := by
  unfold service
  split
  next none => simp [none] at busy
  all_goals split <;> exact ⟨_, _, rfl⟩

end KeyValue

/-- The row of buttons after all queued transitions. -/
def Buttons.settled (buttons : Buttons) : Row :=
  buttons.queue.foldl
    (fun row transition => (row.set? transition.button transition.pressed).getD row) buttons.pressed

/-- Seconds and the rest apart or all at once: milliseconds come to the same ticks. -/
theorem seconds_apart (frequency milliseconds : Nat) :
    milliseconds / 1000 * frequency + milliseconds % 1000 * frequency / 1000 =
      milliseconds * frequency / 1000 := by
  conv_rhs => rw [← Nat.div_add_mod milliseconds 1000, Nat.add_mul, Nat.mul_assoc]
  rw [Nat.mul_add_div (by decide)]

/-- Whole seconds and the rest apart, or all at once: the ticks are the same, and are refused alike.
-/
theorem ticksFor_eq_floor (frequency milliseconds : Nat) :
    ticksFor frequency milliseconds =
      if milliseconds * frequency / 1000 < UInt32.size then .ok (milliseconds * frequency / 1000)
      else .error (.rejected .size) := by
  rw [ticksFor, seconds_apart]

/-- The ticks of a delay are those that milliseconds take on the clock. -/
theorem ticksFor_eq (milliseconds : Nat) :
    ticksFor tickFrequency milliseconds =
      if ticksOfMilliseconds milliseconds < UInt32.size then .ok (ticksOfMilliseconds milliseconds)
      else .error (.rejected .size) := ticksFor_eq_floor tickFrequency milliseconds

/-- Ticks that an alarm takes fit into 32 bits. -/
theorem lt_of_ticksFor_eq_ok {milliseconds ticks : Nat}
    (fits : ticksFor tickFrequency milliseconds = .ok ticks) : ticks < UInt32.size := by
  rw [ticksFor_eq] at fits
  split at fits <;> cases fits
  assumption

namespace Board

variable {board mid after : Board} {job : Job} {jobs : List Job}

/-- Who hears of a task when it is done. -/
def hearer? (board : Board) : Task → Option Subscriber
  | .ring place => (board.alarms.timer? place).bind Timer.subscriber
  | .turn _ _ => board.buttons.subscriber
  | .receive => board.console.subscriber
  | .digest => board.macUnit.subscriber
  | .typing => board.keyboard.bind Keyboard.subscriber
  | .access _ => board.keyValue.subscriber

/-- No subscriber of a board has a ticket that is still to be drawn. -/
def Fresh (board : Board) : Prop :=
  ∀ task subscriber, board.hearer? task = some subscriber → subscriber.IsAmong board.tickets

/-- A driver is as it was. -/
def SameAt (board after : Board) : Source → Prop
  | .alarms => after.alarms = board.alarms
  | .buttons => after.buttons = board.buttons
  | .console => after.console = board.console
  | .macUnit => after.macUnit = board.macUnit
  | .keyboard => after.keyboard = board.keyboard
  | .keyValue => after.keyValue = board.keyValue

/-- What no service changes: what has been printed and the input that is left, the lights, the
tickets that have been drawn, what the queued transitions lead to, and who hears of what. -/
structure Abides (board after : Board) : Prop where
  transcript : after.console.transcript = board.console.transcript
  input : after.console.input = board.console.input
  lights : after.lights = board.lights
  tickets : after.tickets = board.tickets
  interrupts : after.buttons.interrupts = board.buttons.interrupts
  settled : after.buttons.settled = board.buttons.settled
  hearer? : ∀ task, after.hearer? task = board.hearer? task

/-- What no service changes is as it is. -/
theorem Abides.refl (board : Board) : board.Abides board :=
  ⟨rfl, rfl, rfl, rfl, rfl, rfl, fun _ => rfl⟩

/-- What abides twice abides. -/
theorem Abides.trans (first : board.Abides mid) (second : mid.Abides after) : board.Abides after where
  transcript := second.transcript.trans first.transcript
  input := second.input.trans first.input
  lights := second.lights.trans first.lights
  tickets := second.tickets.trans first.tickets
  interrupts := second.interrupts.trans first.interrupts
  settled := second.settled.trans first.settled
  hearer? := fun task => (second.hearer? task).trans (first.hearer? task)

/-- No service subscribes anybody, so that a fresh board stays fresh. -/
theorem Abides.fresh (abides : board.Abides after) (fresh : board.Fresh) : after.Fresh := by
  intro task subscriber here
  rw [abides.hearer?] at here
  rw [abides.tickets]
  exact fresh task subscriber here

namespace Serves

/-- The drivers of other jobs stay as they are. -/
theorem sameAt (serves : board.Serves job after) {source : Source}
    (apart : job.task.source ≠ source) : board.SameAt after source := by
  cases serves <;> cases source <;> first | rfl | exact absurd rfl apart

/-- A job that is served leaves everything that no service changes. -/
theorem abides (serves : board.Serves job after) : board.Abides after := by
  cases serves with
  | @ring due place timer here expires =>
    refine ⟨rfl, rfl, rfl, rfl, rfl, rfl, ?_⟩
    intro task
    cases task with
    | ring other =>
      simp only [hearer?, settledAt, record, discharge, Alarms.timer?_setTimer]
      split
      next same => rw [← same.1, here]; rfl
      next => rfl
    | turn | receive | digest | typing | access => rfl
  | turn queued =>
    refine ⟨rfl, rfl, rfl, rfl, rfl, ?_, fun task => by cases task <;> rfl⟩
    simp only [Buttons.settled, settledAt, record, discharge, queued, List.foldl_cons]
  | receive | digest =>
    exact ⟨rfl, rfl, rfl, rfl, rfl, rfl, fun task => by cases task <;> rfl⟩
  | typing present =>
    refine ⟨rfl, rfl, rfl, rfl, rfl, rfl, fun task => ?_⟩
    cases task <;> first | rfl | simp [hearer?, settledAt, record, discharge, present]
  | access pending =>
    refine ⟨rfl, rfl, rfl, rfl, rfl, rfl, fun task => ?_⟩
    cases task <;> first | rfl | exact board.keyValue.service_subscriber

/-- An alarm that has fired is disarmed. -/
theorem of_ring {due place : Nat} (serves : board.Serves ⟨due, .ring place⟩ after) :
    ∃ timer, after.alarms.timer? place = some timer ∧ timer.expiration = none := by
  cases serves with
  | @ring _ _ timer here _ =>
    refine ⟨{ timer with expiration := none }, ?_, rfl⟩
    have bound := Alarms.lt_length_of_timer? here
    simp only [settledAt, record, discharge, Alarms.timer?_setTimer, bound, and_self, if_true]

/-- An alarm that is not served stays as it is. -/
theorem timer?_eq (serves : board.Serves job after) {place : Nat} (apart : job.task ≠ .ring place) :
    after.alarms.timer? place = board.alarms.timer? place := by
  cases serves with
  | @ring _ other =>
    have different : ¬other = place := fun same => apart (by rw [same])
    simp only [settledAt, record, discharge, Alarms.timer?_setTimer, different, false_and, if_false]
  | turn | receive | digest | typing | access => rfl

/-- What a run of the keyed-hash unit leaves. -/
theorem of_digest {due : Nat} (serves : board.Serves ⟨due, .digest⟩ after) :
    after.macUnit = { board.macUnit with
      due := none
      destination := (Hmac.mac board.macUnit.key board.macUnit.data).val ++
        board.macUnit.destination.drop Sha256.digestSize } ∧
    after.calls =
      (Subscriber.call? board.macUnit.subscriber 0 Sha256.digestSize).toList ++ board.calls := by
  cases serves
  exact ⟨rfl, rfl⟩

/-- What the typing of a text leaves. -/
theorem of_typing {due : Nat} (serves : board.Serves ⟨due, .typing⟩ after) :
    ∃ keyboard, board.keyboard = some keyboard ∧
      after.keyboard = some { keyboard with
        due := none
        typed := Keyboard.remember (Keyboard.textOf keyboard.buffer) keyboard.typed } ∧
      after.calls =
        (Subscriber.call? keyboard.subscriber 0 keyboard.buffer.length).toList ++ board.calls := by
  cases serves with
  | typing present _ => exact ⟨_, present, rfl, rfl⟩

/-- What an access to the store leaves. -/
theorem of_access {due : Nat} {access : Access} (serves : board.Serves ⟨due, .access access⟩ after) :
    after.keyValue = board.keyValue.service.1 ∧
      after.calls = board.keyValue.service.2.toList ++ board.calls := by
  cases serves
  exact ⟨rfl, rfl⟩

/-- Whoever hears of a task hears of it when its job is served. Only a button may change without
being heard of. -/
theorem calls_eq (serves : board.Serves job after) :
    ∃ call : Option Call, after.calls = call.toList ++ board.calls ∧
      ((∃ first second, call = Subscriber.call? (board.hearer? job.task) first second) ∨
        call = none ∧ job.task.source = .buttons) := by
  cases serves with
  | ring here _ => exact ⟨_, rfl, .inl ⟨_, _, by rw [hearer?, here]; rfl⟩⟩
  | turn queued =>
    refine ⟨_, rfl, ?_⟩
    split
    · exact .inl ⟨_, _, rfl⟩
    · exact .inr ⟨rfl, rfl⟩
  | receive | digest => exact ⟨_, rfl, .inl ⟨_, _, rfl⟩⟩
  | typing present => exact ⟨_, rfl, .inl ⟨_, _, by rw [hearer?, present]; rfl⟩⟩
  | access pending =>
    obtain ⟨first, second, heard⟩ := KeyValue.service_call (by rw [pending]; rfl)
    exact ⟨_, rfl, .inl ⟨first, second, heard⟩⟩

end Serves

/-- Jobs that are served one after the other, each the first at its time. -/
inductive Runs : Board → List Job → Board → Prop
  | nil {board : Board} : Runs board [] board
  | cons {board mid after : Board} {job : Job} {jobs : List Job} (serves : board.Serves job mid)
      (taken : JobTaken job board.jobs mid.jobs) (sound : mid.Sound) (rest : Runs mid jobs after) :
      Runs board (job :: jobs) after

namespace Runs

/-- Serving jobs one after the other leaves what a service leaves. -/
theorem abides (runs : Runs board jobs after) : board.Abides after := by
  induction runs with
  | nil => exact .refl _
  | cons serves _ _ _ ih => exact serves.abides.trans ih

/-- A driver of which nothing is served stays as it is. -/
theorem sameAt (runs : Runs board jobs after) (source : Source)
    (apart : ∀ job ∈ jobs, job.task.source ≠ source) : board.SameAt after source := by
  induction runs with
  | nil => cases source <;> rfl
  | cons serves _ _ _ ih =>
    have first := serves.sameAt (apart _ List.mem_cons_self)
    have rest := ih fun job member => apart job (List.mem_cons_of_mem _ member)
    cases source <;> exact rest.trans first

/-- An alarm that does not fire stays as it is. -/
theorem timer?_eq (runs : Runs board jobs after) {place : Nat}
    (apart : ∀ job ∈ jobs, job.task ≠ .ring place) :
    after.alarms.timer? place = board.alarms.timer? place := by
  induction runs with
  | nil => rfl
  | cons serves _ _ _ ih =>
    exact (ih fun job member => apart job (List.mem_cons_of_mem _ member)).trans
      (serves.timer?_eq (apart _ List.mem_cons_self))

/-- What is served was outstanding before. -/
theorem mem_jobs (runs : Runs board jobs after) {job : Job} (member : job ∈ jobs) :
    job ∈ board.jobs := by
  induction runs with
  | nil => cases member
  | cons _ taken _ _ ih =>
    rcases List.mem_cons.mp member with rfl | member
    · exact taken.mem
    · exact taken.mem_of_mem_rest (ih member)

/-- What is left was outstanding before. -/
theorem mem_of_mem_rest (runs : Runs board jobs after) {job : Job} (member : job ∈ after.jobs) :
    job ∈ board.jobs := by
  induction runs with
  | nil => exact member
  | cons _ taken _ _ ih => exact taken.mem_of_mem_rest (ih member)

/-- What is served is due no later than what is left. -/
theorem due_le (runs : Runs board jobs after) {job other : Job} (member : job ∈ jobs)
    (left : other ∈ after.jobs) : job.due ≤ other.due := by
  induction runs with
  | nil => cases member
  | cons _ taken _ rest ih =>
    rcases List.mem_cons.mp member with rfl | member
    · exact taken.due_le (taken.mem_of_mem_rest (rest.mem_of_mem_rest left))
    · exact ih member left

/-- A supply that does not fail outlasts all jobs. -/
theorem charge_eq_none (runs : Runs board jobs after) (supplied : board.charge = none) :
    after.charge = none := by
  induction runs with
  | nil => exact supplied
  | cons serves _ _ _ ih => exact ih (by rw [serves.charge_eq, supplied]; rfl)

end Runs

variable {condition : Condition} {isUp : History → Bool} {polls : Nat}

/-- A wait whose condition holds is over. -/
theorem watch_of_holds (holds : condition polls board.calls = true) :
    board.watch condition isUp polls = ⟨.ok (), polls + 1, board⟩ := by
  rw [watch, if_pos holds]

/-- A wait goes on from the board that a yield has left. -/
theorem watch_of_serviced (unmet : condition polls board.calls = false)
    (down : isUp board.calls = false) (yielded : board.yield = (.serviced, after)) :
    board.watch condition isUp polls = after.watch condition isUp (polls + 1) := by
  rw [watch, if_neg (by simp [unmet]), if_neg (by simp [down])]
  split
  next found => rw [yielded] at found; cases found; rfl
  next found => rw [yielded] at found; cases found
  next found => rw [yielded] at found; cases found

/-- A wait on an idle board would never end. -/
theorem watch_of_idle (unmet : condition polls board.calls = false)
    (down : isUp board.calls = false) (yielded : board.yield = (.idle, after)) :
    board.watch condition isUp polls = ⟨.error (.fault .halted), polls + 1, after⟩ := by
  rw [watch, if_neg (by simp [unmet]), if_neg (by simp [down])]
  split
  next found => rw [yielded] at found; cases found
  next found => rw [yielded] at found; cases found; rfl
  next found => rw [yielded] at found; cases found

/-- A wait on a board that stops is stopped. -/
theorem watch_of_stopped {trap : Trap} (unmet : condition polls board.calls = false)
    (down : isUp board.calls = false) (yielded : board.yield = (.stopped trap, after)) :
    board.watch condition isUp polls = ⟨.error (.trap trap), polls + 1, after⟩ := by
  rw [watch, if_neg (by simp [unmet]), if_neg (by simp [down])]
  split
  next found => rw [yielded] at found; cases found
  next found => rw [yielded] at found; cases found
  next found => rw [yielded] at found; cases found; rfl

/-- A wait on a board without supply stops. -/
theorem watch_of_spent (unmet : condition polls board.calls = false)
    (down : isUp board.calls = false) (spent : board.charge = some 0) :
    board.watch condition isUp polls = ⟨.error (.trap .powerLoss), polls + 1, board⟩ :=
  watch_of_stopped unmet down (if_pos spent)

/-- The place of the alarm that a bounded wait arms, and the board that it begins on then. -/
def timeout (board : Board) (ticks : Nat) : Nat × Board :=
  board.drawTicket.2.armTimeout board.drawTicket.1 ticks

/-- A bounded wait whose limit fits an alarm draws a ticket, arms one, waits and frees it. -/
theorem waitAtMost_of_fits {microseconds : Nat} (condition : Condition)
    (fits : ticksOfMilliseconds (microseconds / 1000) < UInt32.size) :
    board.waitAtMost microseconds condition =
      let armed := board.timeout (ticksOfMilliseconds (microseconds / 1000))
      let watched := armed.2.watch condition board.drawTicket.1.isRaised 0
      { watched with board := watched.board.freeAlarm armed.1 } := by
  have small : microseconds / 1000 < UInt32.size := by
    simp only [ticksOfMilliseconds, tickFrequency] at fits
    omega
  refine (if_pos small).trans ?_
  rw [ticksFor_eq, if_pos fits]
  rfl

/-- A wait whose time does not fit an alarm is refused at once. -/
theorem waitAtMost_of_unfit {microseconds : Nat} (condition : Condition)
    (unfit : ¬ticksOfMilliseconds (microseconds / 1000) < UInt32.size) :
    board.waitAtMost microseconds condition =
      ⟨.error (.fault (.rejected .size)), 0, board⟩ := by
  by_cases small : microseconds / 1000 < UInt32.size
  · refine (if_pos small).trans ?_
    rw [ticksFor_eq, if_neg unfit]
  · exact if_neg small

/-- A wait that nothing ends which is served meanwhile serves all jobs, and goes on from there. -/
theorem watch_drain (polls : Nat) {waiting : Board → Prop} (sound : board.Sound)
    (supplied : board.charge = none) (begins : waiting board)
    (unmet : ∀ mid polls, waiting mid → condition polls mid.calls = false)
    (stays : ∀ {mid job after}, waiting mid → mid.Serves job after →
      JobTaken job mid.jobs after.jobs → after.Sound → waiting after) :
    ∃ jobs mid polls', Runs board jobs mid ∧ mid.Sound ∧ waiting mid ∧ mid.jobs = [] ∧
      board.watch condition (fun _ => false) polls =
        mid.watch condition (fun _ => false) polls' := by
  generalize count : board.jobs.length = length
  induction length generalizing board polls with
  | zero =>
    exact ⟨[], board, polls, .nil, sound, begins, List.length_eq_zero_iff.mp count, rfl⟩
  | succ length ih =>
    have busy : board.jobs ≠ [] := List.ne_nil_of_length_pos (by omega)
    rcases sound.yield (by simp [supplied]) with
      ⟨job, served, yielded, serves, taken, soundServed⟩ | ⟨_, none, _⟩
    · rw [stimulated_of_jobs busy] at serves taken
      have fewer := taken.length
      have still : served.charge = none := by rw [serves.charge_eq, supplied]; rfl
      obtain ⟨jobs, mid, polls', runs, soundMid, waits, done, goes⟩ :=
        ih (polls + 1) soundServed still (stays begins serves taken soundServed) (by omega)
      refine ⟨job :: jobs, mid, polls', .cons serves taken soundServed runs, soundMid, waits, done, ?_⟩
      rw [watch_of_serviced (unmet _ _ begins) rfl yielded, goes]
    · exact absurd none busy

/-- A wait for a job, some of whose other upcalls may have run already. -/
theorem watch_job (polls : Nat) {ticket : Ticket} {calls later : History} (sound : board.Sound)
    (since : ticket.since = calls.length) (history : board.calls = later ++ calls)
    (silent : ∀ call ∈ later, ¬call.subscriber.Raises ticket) (own : job ∈ board.jobs)
    (apart : job.task.source ≠ .buttons)
    (mine : ∃ subscriber, board.hearer? job.task = some subscriber ∧ subscriber.Raises ticket)
    (others : ∀ other ∈ board.jobs, other ≠ job → ∀ subscriber,
      board.hearer? other.task = some subscriber → ¬subscriber.Raises ticket) :
    ∃ jobs mid, Runs board jobs mid ∧ job ∉ jobs ∧ job ∈ mid.jobs ∧
      let waited := board.watch (fun _ calls => ticket.isRaised calls) (fun _ => false) polls
      ((∃ after, mid.Serves job after ∧ JobTaken job mid.jobs after.jobs ∧ after.Sound ∧
          waited.result = .ok () ∧ waited.board = after) ∨
        mid.charge = some 0 ∧ waited.result = .error (.trap .powerLoss) ∧ waited.board = mid) := by
  generalize count : board.jobs.length = length
  induction length generalizing board later polls with
  | zero =>
    rw [List.length_eq_zero_iff.mp count] at own
    cases own
  | succ length ih =>
    have busy : board.jobs ≠ [] := List.ne_nil_of_mem own
    have down : ticket.isRaised board.calls = false := by
      rw [history, Bool.eq_false_iff, ne_eq, Ticket.isRaised_append since]
      rintro ⟨call, recent, raises⟩
      exact silent call recent raises
    by_cases spent : board.charge = some 0
    · refine ⟨[], board, .nil, List.not_mem_nil, own, .inr ⟨spent, ?_⟩⟩
      rw [watch_of_spent down rfl spent]
      exact ⟨rfl, rfl⟩
    · rcases sound.yield spent with
        ⟨first, served, yielded, serves, taken, soundServed⟩ | ⟨_, none, _⟩
      · rw [stimulated_of_jobs busy] at serves taken
        rw [watch_of_serviced down rfl yielded]
        obtain ⟨call, recorded, heard⟩ := serves.calls_eq
        have history : served.calls = (call.toList ++ later) ++ calls := by
          rw [recorded, history, List.append_assoc]
        by_cases same : first = job
        · subst same
          refine ⟨[], board, .nil, List.not_mem_nil, own, .inl ⟨served, serves, taken, soundServed, ?_⟩⟩
          have raised : ticket.isRaised served.calls = true := by
            obtain ⟨subscriber, here, raises⟩ := mine
            rcases heard with ⟨one, two, rfl⟩ | ⟨_, button⟩
            · rw [history, Ticket.isRaised_append since, here]
              exact ⟨_, List.mem_append_left _ List.mem_cons_self, raises⟩
            · exact absurd button apart
          rw [watch_of_holds raised]
          exact ⟨rfl, rfl⟩
        · have fewer := taken.length
          have quiet : ∀ one ∈ call.toList ++ later, ¬one.subscriber.Raises ticket := by
            intro one member
            rcases List.mem_append.mp member with new | old
            · rcases heard with ⟨_, _, rfl⟩ | ⟨rfl, _⟩
              · obtain ⟨subscriber, here, rfl⟩ := Option.map_eq_some_iff.mp (Option.mem_toList.mp new)
                exact others first taken.mem same subscriber here
              · cases new
            · exact silent one old
          have mineServed : ∃ subscriber, served.hearer? job.task = some subscriber ∧
              subscriber.Raises ticket := by
            rw [serves.abides.hearer?]
            exact mine
          have othersServed : ∀ other ∈ served.jobs, other ≠ job → ∀ subscriber,
              served.hearer? other.task = some subscriber → ¬subscriber.Raises ticket := by
            intro other member different subscriber here
            rw [serves.abides.hearer?] at here
            exact others other (taken.mem_of_mem_rest member) different subscriber here
          obtain ⟨jobs, mid, runs, absent, member, outcome⟩ := ih (polls + 1) soundServed history quiet
            (taken.mem_rest own fun h => same h.symm) mineServed othersServed (by omega)
          refine ⟨first :: jobs, mid, .cons serves taken soundServed runs, ?_, member, outcome⟩
          rintro (_ | ⟨_, rest⟩)
          · exact same rfl
          · exact absent rest
      · exact absurd none busy

end Board

end OtpToken
