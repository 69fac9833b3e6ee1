import OtpToken.Proofs.Board.Soundness

/-!
# Serving jobs

`Serves` says what it means that a job is served: its driver alone changes, its
subscriber hears of it, the clock moves to the tick the job is due at, and the supply
has lasted for one more operation. A sound board that completes what is due next
serves the first of its jobs, and stays sound (`Sound.complete`).
-/

namespace OtpToken

namespace Board

/-- The board after an operation that was due at a tick has been completed with an upcall. -/
def settledAt (board : Board) (due : Nat) (call : Option Call) : Board :=
  ({ board with clock := due }.record call).discharge

/-- What serving a job comes to, for each kind of task. -/
inductive Serves (board : Board) : Job → Board → Prop
  /-- An alarm fires, and its subscriber hears the tick twice: as the present and as the expiration
  of the alarm. -/
  | ring {due place : Nat} {timer : Timer} (here : board.alarms.timer? place = some timer)
      (expires : timer.expiration = some due) :
      Serves board ⟨due, .ring place⟩
        ({ board with
          alarms := board.alarms.setTimer place (some { timer with expiration := none })
        }.settledAt due (Subscriber.call? timer.subscriber due due))
  /-- A button changes, which is heard of if there is such a button and its interrupt is enabled. -/
  | turn {due button : Nat} {pressed : Bool} {rest : List Transition}
      (queued : board.buttons.queue = ⟨due, button, pressed⟩ :: rest) :
      Serves board ⟨due, .turn button pressed⟩
        ({ board with
          buttons := { board.buttons with
            pressed := (board.buttons.pressed.set? button pressed).getD board.buttons.pressed
            queue := rest }
        }.settledAt due
          (if board.buttons.interrupts.get? button = some true then
            Subscriber.call? board.buttons.subscriber button pressed.toNat
          else none))
  /-- The byte that has come in is put to the front of the read buffer. -/
  | receive {due : Nat} {byte : UInt8} (received : board.console.received = some (due, byte)) :
      Serves board ⟨due, .receive⟩
        ({ board with
          console := { board.console with
            reading := false, received := none, buffer := byte :: board.console.buffer.drop 1 }
        }.settledAt due (Subscriber.call? board.console.subscriber 0 1))
  /-- The digest is put to the front of the destination. -/
  | digest {due : Nat} (running : board.macUnit.due = some due) :
      Serves board ⟨due, .digest⟩
        ({ board with
          macUnit := { board.macUnit with
            due := none
            destination := (Hmac.mac board.macUnit.key board.macUnit.data).val ++
              board.macUnit.destination.drop Sha256.digestSize }
        }.settledAt due (Subscriber.call? board.macUnit.subscriber 0 Sha256.digestSize))
  /-- The text is typed. -/
  | typing {due : Nat} {keyboard : Keyboard} (present : board.keyboard = some keyboard)
      (busy : keyboard.due = some due) :
      Serves board ⟨due, .typing⟩
        ({ board with
          keyboard := some { keyboard with
            due := none
            typed := Keyboard.remember (Keyboard.textOf keyboard.buffer) keyboard.typed }
        }.settledAt due (Subscriber.call? keyboard.subscriber 0 keyboard.buffer.length))
  /-- The store is accessed. -/
  | access {due : Nat} {access : Access} (pending : board.keyValue.pending = some (due, access)) :
      Serves board ⟨due, .access access⟩
        ({ board with keyValue := board.keyValue.service.1 }.settledAt due
          board.keyValue.service.2)

variable {board after : Board} {job : Job}

namespace Serves

/-- A job is served at the tick at which it is due. -/
theorem clock_eq (serves : board.Serves job after) : after.clock = job.due := by
  cases serves <;> rfl

/-- A service takes one from the charge. -/
theorem charge_eq (serves : board.Serves job after) :
    after.charge = board.charge.map Nat.pred := by
  cases serves <;> rfl

/-- The jobs of the other drivers stay. -/
theorem jobsOf_other (serves : board.Serves job after) {source : Source}
    (apart : source ≠ job.task.source) : after.jobsOf source = board.jobsOf source := by
  cases serves <;> cases source <;> first | rfl | exact absurd rfl apart

end Serves

/-- The deadline of a driver is that of the first of its jobs. -/
theorem Sound.due_le_of_mem_jobsOf (sound : board.Sound) {source : Source}
    (member : job ∈ board.jobsOf source) :
    ∃ tick, board.deadlineOf source = some tick ∧ tick ≤ job.due := by
  cases source with
  | alarms => exact Alarms.due_le_of_mem_jobs member
  | buttons =>
    obtain ⟨transition, queued, rfl⟩ := List.mem_map.mp member
    have ordered := sound.buttons.ordered
    cases queue : board.buttons.queue with
    | nil => simp [queue] at queued
    | cons head rest =>
      refine ⟨head.due, by simp [deadlineOf, Buttons.deadline, queue], ?_⟩
      rw [queue] at queued ordered
      rcases List.mem_cons.mp queued with rfl | later
      · exact Nat.le_refl _
      · exact (List.pairwise_cons.mp ordered).1 transition later
  | console =>
    obtain ⟨⟨due, byte⟩, received, rfl⟩ := List.mem_map.mp member
    have received := Option.mem_toList.mp received
    exact ⟨due, by simp [deadlineOf, Console.deadline, received], Nat.le_refl _⟩
  | macUnit =>
    obtain ⟨due, running, rfl⟩ := List.mem_map.mp member
    exact ⟨due, Option.mem_toList.mp running, Nat.le_refl _⟩
  | keyboard =>
    cases present : board.keyboard with
    | none => simp [jobsOf, present] at member
    | some keyboard =>
      simp only [jobsOf, present, Option.map_some, Option.getD_some] at member
      obtain ⟨due, busy, rfl⟩ := List.mem_map.mp member
      exact ⟨due, by rw [deadlineOf, present]; exact Option.mem_toList.mp busy, Nat.le_refl _⟩
  | keyValue =>
    obtain ⟨⟨due, access⟩, pending, rfl⟩ := List.mem_map.mp member
    have pending := Option.mem_toList.mp pending
    exact ⟨due, by simp [deadlineOf, KeyValue.deadline, pending], Nat.le_refl _⟩

/-- No deadline of a sound board has passed. -/
theorem Sound.clock_le_deadlineOf (sound : board.Sound) {source : Source} {due : Nat}
    (h : board.deadlineOf source = some due) : board.clock ≤ due := by
  cases source with
  | alarms =>
    obtain ⟨place, timer, here, expires, _⟩ := Alarms.service_jobs 0 h
    exact sound.alarms.punctual here expires
  | buttons =>
    obtain ⟨head, first, rfl⟩ := Option.map_eq_some_iff.mp h
    exact sound.buttons.punctual head (List.mem_of_head? first)
  | console =>
    obtain ⟨⟨_, byte⟩, received, rfl⟩ := Option.map_eq_some_iff.mp h
    exact sound.console.punctual received
  | macUnit => exact sound.macUnit.punctual h
  | keyboard =>
    obtain ⟨keyboard, present, busy⟩ := Option.bind_eq_some_iff.mp h
    exact (sound.keyboard keyboard present).punctual busy
  | keyValue =>
    obtain ⟨⟨_, access⟩, pending, rfl⟩ := Option.map_eq_some_iff.mp h
    exact sound.keyValue.punctual pending

/-- No job of a sound board is overdue. -/
theorem Sound.clock_le (sound : board.Sound) (member : job ∈ board.jobs) :
    board.clock ≤ job.due := by
  obtain ⟨source, own⟩ := mem_jobs.mp member
  obtain ⟨tick, first, le⟩ := sound.due_le_of_mem_jobsOf own
  exact Nat.le_trans (sound.clock_le_deadlineOf first) le

/-- The deadline that is served next is the earliest of all. -/
theorem le_of_nextDue? {due tick : Nat} {source : Source}
    (next : board.nextDue? = some (due, source)) (other : Source)
    (h : board.deadlineOf other = some tick) :
    due ≤ tick := by
  have member : (tick, other) ∈ board.deadlines := by
    rw [deadlines_eq]
    exact List.mem_filterMap.mpr ⟨other, Source.mem_all other, by rw [h]; rfl⟩
  exact le_of_earliest?_eq_some next member

/-- The clock of a sound board may move until the next deadline. -/
theorem Sound.advance (sound : board.Sound) {due : Nat} {source : Source}
    (next : board.nextDue? = some (due, source)) : ({ board with clock := due } : Board).Sound where
  alarms := sound.alarms.advance fun _ first => le_of_nextDue? next .alarms first
  buttons := sound.buttons.advance fun _ first => le_of_nextDue? next .buttons first
  console := sound.console.advance fun _ first => le_of_nextDue? next .console first
  macUnit := sound.macUnit.advance fun _ first => le_of_nextDue? next .macUnit first
  keyboard := fun keyboard present => (sound.keyboard keyboard present).advance fun _ first =>
    le_of_nextDue? next .keyboard (by rw [deadlineOf, present]; exact first)
  keyValue := sound.keyValue.advance fun _ first => le_of_nextDue? next .keyValue first

/-- If the first job of a driver is served and that driver is the next, it is the first of all
jobs. -/
theorem Sound.jobTaken (sound : board.Sound) {source : Source}
    (next : board.nextDue? = some (job.due, source))
    (own : JobTaken job (board.jobsOf source) (after.jobsOf source))
    (others : ∀ other, other ≠ source → after.jobsOf other = board.jobsOf other) :
    JobTaken job board.jobs after.jobs := by
  obtain ⟨front, back, whole, notFront, notBack, _, strict, weak⟩ := split_of_nextDue? next
  have same : ∀ sources : List Source, source ∉ sources →
      sources.flatMap after.jobsOf = sources.flatMap board.jobsOf := by
    intro sources absent
    refine List.flatMap_congr fun other member => others other ?_
    rintro rfl
    exact absent member
  simp only [jobs, whole, List.flatMap_append, List.flatMap_cons, same front notFront,
    same back notBack, ← List.append_assoc]
  refine own.widen ?_ ?_
  · intro other member
    obtain ⟨driver, among, member⟩ := List.mem_flatMap.mp member
    obtain ⟨tick, first, le⟩ := sound.due_le_of_mem_jobsOf member
    exact Nat.lt_of_lt_of_le (strict driver among tick first) le
  · intro other member
    obtain ⟨driver, among, member⟩ := List.mem_flatMap.mp member
    obtain ⟨tick, first, le⟩ := sound.due_le_of_mem_jobsOf member
    exact Nat.le_trans (weak driver among tick first) le

/-- A sound board that completes what is due next serves the first of its jobs, and stays sound. -/
theorem Sound.complete (sound : board.Sound) {due : Nat} {source : Source}
    (next : board.nextDue? = some (due, source)) :
    ∃ job after, board.complete due source = (.serviced, after) ∧ board.Serves job after ∧
      job.due = due ∧ job.task.source = source ∧ JobTaken job board.jobs after.jobs ∧
      after.Sound := by
  obtain ⟨_, _, _, _, _, first, _⟩ := split_of_nextDue? next
  have moved := sound.advance next
  have early := sound.clock_le_deadlineOf first
  have reached : board.advanceTo due = { board with clock := due } := by
    rw [advanceTo, Nat.max_eq_right early]
  suffices ∃ job after, ({ board with clock := due } : Board).service source = .ok after ∧
      board.Serves job after.discharge ∧ job.due = due ∧ job.task.source = source ∧
      JobTaken job (board.jobsOf source) (after.jobsOf source) ∧ after.Sound by
    obtain ⟨job, after, served, serves, rfl, rfl, own, soundAfter⟩ := this
    refine ⟨job, after.discharge, ?_, serves, rfl, rfl, ?_, { soundAfter with }⟩
    · rw [Board.complete, reached, served]
    · exact sound.jobTaken next own fun other apart => serves.jobsOf_other apart
  cases source with
  | alarms =>
    obtain ⟨place, timer, here, expires, served, own⟩ := Alarms.service_jobs due first
    refine ⟨_, _, rfl, ?_, rfl, rfl, own, { moved with alarms := moved.alarms.service due }⟩
    rw [show (({ board with clock := due } : Board).alarms.service due) = _ from served]
    exact .ring here expires
  | buttons =>
    obtain ⟨⟨_, button, pressed⟩, found, rfl⟩ := Option.map_eq_some_iff.mp first
    obtain ⟨rest, queued⟩ := List.head?_eq_some_iff.mp found
    refine ⟨_, _, (congrArg (· >>= _) (moved.buttons.service queued)).trans rfl, .turn queued,
      rfl, rfl, ?_, { moved with buttons := moved.buttons.served queued }⟩
    have ordered := sound.buttons.ordered
    simp only [queued, List.pairwise_cons] at ordered
    refine ⟨[], rest.map Transition.job,
      by simp [jobsOf, Buttons.jobs, Transition.job, queued], rfl, by simp, ?_⟩
    intro other member
    obtain ⟨later, queuedLater, rfl⟩ := List.mem_map.mp member
    exact ordered.1 later queuedLater
  | console =>
    obtain ⟨⟨_, byte⟩, received, rfl⟩ := Option.map_eq_some_iff.mp first
    obtain ⟨_, ok, rfl, soundServed⟩ := moved.console.service received
    refine ⟨_, _, (congrArg (· >>= _) ok).trans rfl, .receive received, rfl, rfl, ?_,
      { moved with console := soundServed }⟩
    simp only [jobsOf, Console.jobs, received]
    exact .singleton _
  | macUnit =>
    refine ⟨_, _, (congrArg (· >>= _) (moved.macUnit.service first)).trans rfl, .digest first,
      rfl, rfl, ?_, { moved with macUnit := .of_idle rfl }⟩
    have running : board.macUnit.due = some due := first
    simp only [jobsOf, MacUnit.jobs, running]
    exact .singleton _
  | keyboard =>
    obtain ⟨keyboard, present, busy⟩ := Option.bind_eq_some_iff.mp first
    refine ⟨_, _, ?_, .typing present busy, rfl, rfl, ?_, { moved with
      keyboard := by rintro _ ⟨rfl⟩; exact .of_idle rfl }⟩
    · simp [service, present, Keyboard.service, busy]
    · simp only [jobsOf, present, Option.map_some, Option.getD_some, Keyboard.jobs, busy]
      exact .singleton _
  | keyValue =>
    obtain ⟨⟨tick, access⟩, pending, rfl⟩ := Option.map_eq_some_iff.mp first
    refine ⟨_, _, rfl, .access pending, rfl, rfl, ?_,
      { moved with keyValue := .of_idle (KeyValue.service_pending _) }⟩
    have done : board.keyValue.service.1.jobs = [] := by
      simp [KeyValue.jobs, KeyValue.service_pending]
    have alone : board.keyValue.jobs = [⟨tick, .access access⟩] := by simp [KeyValue.jobs, pending]
    change JobTaken _ board.keyValue.jobs board.keyValue.service.1.jobs
    rw [done, alone]
    exact .singleton _

/-- A sound board looks for a stimulus if and only if it has no job. -/
theorem Sound.nextDue?_eq_none_iff (sound : board.Sound) :
    board.nextDue? = none ↔ board.jobs = [] := by
  constructor
  · intro idle
    refine List.eq_nil_iff_forall_not_mem.mpr fun job member => ?_
    obtain ⟨source, own⟩ := mem_jobs.mp member
    obtain ⟨tick, first, _⟩ := sound.due_le_of_mem_jobsOf own
    have listed : (tick, source) ∈ board.deadlines := by
      rw [deadlines_eq]
      exact List.mem_filterMap.mpr ⟨source, Source.mem_all source, by rw [first]; rfl⟩
    rw [earliest?_eq_none_iff.mp idle] at listed
    cases listed
  · intro none
    cases next : board.nextDue? with
    | none => rfl
    | some entry =>
      obtain ⟨job, _, _, _, _, _, taken, _⟩ := sound.complete next
      have member := taken.mem
      rw [none] at member
      cases member

/-- The board that a yield serves from: it has looked for a stimulus if it had no job. -/
def stimulated (board : Board) : Board := if board.jobs = [] then board.stimulate.2 else board

/-- What a stimulus comes to on a board without jobs: the byte that a pending read takes is its only
job, or else the transitions of the gesture are. -/
inductive Stimulates (board : Board) : Bool → Board → Prop
  | feed {byte : UInt8} {rest : Bytes} (reading : board.console.reading = true)
      (input : board.console.input = byte :: rest) :
      Stimulates board true { board with
        console := { board.console with input := rest, received := some (board.clock, byte) } }
  | starve (reading : board.console.reading = true) (input : board.console.input = []) :
      Stimulates board false board
  | gesture {gesture : Gesture} {rest : Bytes} (reading : board.console.reading = false)
      (taken : takeGesture board.console.input = (some gesture, rest)) :
      Stimulates board true { board with
        console := { board.console with input := rest }
        buttons := board.buttons.perform board.clock gesture }
  | rest {rest : Bytes} (reading : board.console.reading = false)
      (taken : takeGesture board.console.input = (none, rest)) :
      Stimulates board false { board with console := { board.console with input := rest } }

/-- Without jobs no byte has come in. -/
theorem received_eq_none_of_jobs (idle : board.jobs = []) : board.console.received = none := by
  have none := jobs_eq_nil_iff.mp idle .console
  cases received : board.console.received with
  | none => rfl
  | some entry => simp [jobsOf, Console.jobs, received] at none

/-- The search for a stimulus on a board without jobs ends as `Stimulates` says. -/
theorem stimulates_stimulate (idle : board.jobs = []) :
    board.Stimulates board.stimulate.1 board.stimulate.2 := by
  have received := received_eq_none_of_jobs idle
  unfold stimulate Console.isHungry
  rw [received]
  cases reading : board.console.reading with
  | true =>
    simp only [Option.isNone_none, Bool.and_true, ↓reduceIte, Console.feed?]
    cases input : board.console.input with
    | nil => exact .starve reading input
    | cons byte rest => exact .feed reading input
  | false =>
    simp only [Bool.false_and, Bool.false_eq_true, ↓reduceIte]
    cases taken : takeGesture board.console.input with
    | mk found rest =>
      cases found with
      | none => exact .rest reading taken
      | some gesture => exact .gesture reading taken

namespace Stimulates

variable {found : Bool}

/-- A stimulus leaves a sound board. -/
theorem sound (stimulates : board.Stimulates found after) (sound : board.Sound) : after.Sound := by
  cases stimulates with
  | feed reading input =>
    exact { sound with
      console := ⟨sound.console.buffered, fun _ => reading, fun h => by cases h; exact Nat.le_refl _⟩ }
  | starve => exact sound
  | gesture reading taken =>
    exact { sound with
      buttons := sound.buttons.perform _
      console := ⟨sound.console.1, sound.console.2, sound.console.3⟩ }
  | rest reading taken =>
    exact { sound with console := ⟨sound.console.1, sound.console.2, sound.console.3⟩ }

/-- The jobs that a stimulus has brought. -/
theorem jobs_eq (stimulates : board.Stimulates found after) (idle : board.jobs = []) :
    after.jobs = if !found then []
      else if board.console.reading then [⟨board.clock, .receive⟩]
      else ((takeGesture board.console.input).1.map fun gesture =>
        gesture.jobs board.clock).getD [] := by
  have none := jobs_eq_nil_iff.mp idle
  cases stimulates with
  | feed reading input =>
    refine (jobs_eq_jobsOf .console ?_).trans ?_
    · intro other apart
      have kept := none other
      cases other <;> first | exact kept | exact absurd rfl apart
    · simp [reading, jobsOf, Console.jobs]
  | starve => exact idle
  | gesture reading taken =>
    have queue : board.buttons.queue = [] := List.map_eq_nil_iff.mp (none .buttons)
    have later : ∀ ticks, ¬(board.clock + ticks < board.clock) := fun ticks => by omega
    refine (jobs_eq_jobsOf .buttons ?_).trans ?_
    · intro other apart
      have kept := none other
      cases other <;> first | exact kept | exact absurd rfl apart
    · simp [reading, taken, jobsOf, Buttons.jobs, Buttons.perform, queue, Buttons.schedule, later,
        Gesture.jobs, Gesture.transitions]
  | rest reading taken => exact idle

end Stimulates

/-- A board with work is not stimulated. -/
theorem stimulated_of_jobs (busy : board.jobs ≠ []) : board.stimulated = board := if_neg busy

/-- A sound board is still sound when a stimulus has been looked for. -/
theorem Sound.stimulated (sound : board.Sound) : board.stimulated.Sound := by
  by_cases idle : board.jobs = []
  · rw [Board.stimulated, if_pos idle]
    exact (stimulates_stimulate idle).sound sound
  · rw [stimulated_of_jobs idle]
    exact sound

/-- A look for a stimulus takes no time. -/
theorem steady_stimulated (board : Board) : board.Steady board.stimulated := by
  by_cases idle : board.jobs = []
  · rw [stimulated, if_pos idle]
    have stimulates := stimulates_stimulate idle
    generalize board.stimulate.1 = found, board.stimulate.2 = after at stimulates
    cases stimulates <;> exact ⟨rfl, rfl, rfl, rfl⟩
  · rw [stimulated_of_jobs idle]
    exact ⟨rfl, rfl, rfl, rfl⟩

/-- What a yield of a sound board comes to: it serves the first of the jobs that there are after a
look for a stimulus, and finds the board idle if there are none even then. -/
theorem Sound.yield (sound : board.Sound) (supplied : board.charge ≠ some 0) :
    (∃ job after, board.yield = (.serviced, after) ∧ board.stimulated.Serves job after ∧
      JobTaken job board.stimulated.jobs after.jobs ∧ after.Sound) ∨
    board.yield = (.idle, board.stimulated) ∧ board.jobs = [] ∧ board.stimulated.jobs = [] ∧
      board.stimulated.Sound := by
  rw [Board.yield, if_neg supplied, serveNext, Board.stimulated]
  by_cases idle : board.jobs = []
  · rw [sound.nextDue?_eq_none_iff.mpr idle, if_pos idle]
    have stimulates := stimulates_stimulate idle
    have soundAfter := stimulates.sound sound
    have jobs := stimulates.jobs_eq idle
    generalize board.stimulate = stimulus at *
    obtain ⟨found, after⟩ := stimulus
    dsimp only at *
    cases found with
    | false => exact .inr ⟨rfl, idle, by simpa using jobs, soundAfter⟩
    | true =>
      cases next : after.nextDue? with
      | none =>
        refine .inr ⟨?_, idle, soundAfter.nextDue?_eq_none_iff.mp next, soundAfter⟩
        simp only [next]
      | some entry =>
        obtain ⟨job, served, ok, serves, _, _, taken, soundServed⟩ := soundAfter.complete next
        refine .inl ⟨job, served, ?_, serves, taken, soundServed⟩
        simp only [next, ok]
  · rw [if_neg idle]
    cases next : board.nextDue? with
    | none => exact absurd (sound.nextDue?_eq_none_iff.mp next) idle
    | some entry =>
      obtain ⟨job, served, ok, serves, _, _, taken, soundServed⟩ := sound.complete next
      exact .inl ⟨job, served, ok, serves, taken, soundServed⟩

end Board

end OtpToken
