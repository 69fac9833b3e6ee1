import OtpToken.Proofs.Board.Precedence

/-!
# Turns of buttons

The transitions of the buttons are served in the order of their queue, whatever is served in
between: those that have been served are a front part of the queue, and have been applied to the row
of the buttons (`Runs.turned`). None of them is due at the tick of an alarm that is still armed
(`lt_due_of_taken`). When everything has been served, the clock stands at the latest tick that
anything was due at (`Runs.latest_eq`), and the next gesture is taken from the input
(`yield_performed`): its press is served, and its release is left (`yield_pressing`).
-/

namespace OtpToken

/-- The ticks for which a gesture keeps its button down. -/
def Gesture.ticks : Gesture → Nat
  | press _ => 3932
  | hold _ => 49152

/-- A gesture keeps its button down for its ticks. -/
theorem Gesture.ticksOfMilliseconds_milliseconds (gesture : Gesture) :
    ticksOfMilliseconds gesture.milliseconds = gesture.ticks := by
  cases gesture with
  | press => exact (by decide : ticksOfMilliseconds 120 = 3932)
  | hold => exact (by decide : ticksOfMilliseconds 1500 = 49152)

namespace Row

/-- The row of buttons after a transition. One of a button that does not exist changes nothing. -/
def turn (row : Row) (transition : Transition) : Row :=
  (row.set? transition.button transition.pressed).getD row

/-- The row of buttons after transitions, one after the other. -/
def turnAll (row : Row) (transitions : List Transition) : Row := transitions.foldl turn row

/-- Transitions turn a row from the first one on. -/
@[simp] theorem turnAll_cons (row : Row) (transition : Transition) (rest : List Transition) :
    row.turnAll (transition :: rest) = (row.turn transition).turnAll rest := rfl

/-- Transitions turn a row part by part. -/
theorem turnAll_append (row : Row) (front back : List Transition) :
    row.turnAll (front ++ back) = (row.turnAll front).turnAll back := List.foldl_append

/-- A transition of a missing button turns nothing. -/
theorem turn_of_missing {row : Row} {transition : Transition}
    (missing : row.size ≤ transition.button) : row.turn transition = row := by
  rw [turn, set?_eq_none_iff.mpr missing, Option.getD_none]

/-- A transition makes a row neither longer nor shorter. -/
@[simp] theorem size_turn (row : Row) (transition : Transition) :
    (row.turn transition).size = row.size := by
  unfold turn
  cases set : row.set? transition.button transition.pressed with
  | none => rfl
  | some after => exact size_set? set

/-- Several transitions make a row neither longer nor shorter. -/
@[simp] theorem size_turnAll (row : Row) (transitions : List Transition) :
    (row.turnAll transitions).size = row.size := by
  induction transitions generalizing row with
  | nil => rfl
  | cons transition rest ih => rw [turnAll_cons, ih, size_turn]

end Row

/-- Transitions are known by their jobs. -/
theorem Transition.job_inj {transition other : Transition} :
    transition.job = other.job ↔ transition = other := by
  obtain ⟨due, button, pressed⟩ := transition
  obtain ⟨_, _, _⟩ := other
  simp [job]

/-- What is due before a tick is told from what is not. -/
theorem Transition.filter_append {early late : List Transition} {tick : Nat}
    (before : ∀ transition ∈ early, transition.due < tick)
    (behind : ∀ transition ∈ late, tick ≤ transition.due) :
    (early ++ late).filter (fun transition => transition.due < tick) = early ∧
      (early ++ late).filter (fun transition => tick ≤ transition.due) = late := by
  constructor
  · rw [List.filter_append, List.filter_eq_self.mpr fun transition member => by
        simpa using before transition member,
      List.filter_eq_nil_iff.mpr fun transition member => by simpa using behind transition member,
      List.append_nil]
  · rw [List.filter_append, List.filter_eq_nil_iff.mpr fun transition member => by
        simpa using before transition member,
      List.filter_eq_self.mpr fun transition member => by simpa using behind transition member,
      List.nil_append]

namespace Board

variable {board after : Board} {job : Job} {jobs rest : List Job}

/-- A board that has nothing left to do has no transition queued. -/
theorem queue_eq_nil (idle : board.jobs = []) : board.buttons.queue = [] :=
  List.map_eq_nil_iff.mp (jobs_eq_nil_iff.mp idle .buttons)

/-- What serving a job makes of the buttons. -/
theorem Serves.turned (serves : board.Serves job after) :
    (∃ transition rest, job = transition.job ∧ board.buttons.queue = transition :: rest ∧
      after.buttons = { board.buttons with
        pressed := board.buttons.pressed.turn transition, queue := rest }) ∨
    job.task.source ≠ .buttons ∧ after.buttons = board.buttons := by
  cases serves with
  | turn queued => exact .inl ⟨_, _, rfl, queued, rfl⟩
  | ring | receive | digest | typing | access => exact .inr ⟨nofun, rfl⟩

/-- What is served of the buttons is the front of their queue. -/
theorem Runs.turned (runs : Runs board jobs after) :
    ∃ turned, board.buttons.queue = turned ++ after.buttons.queue ∧
      after.buttons = { board.buttons with
        pressed := board.buttons.pressed.turnAll turned, queue := after.buttons.queue } ∧
      ∀ transition ∈ turned, transition.job ∈ jobs := by
  induction runs with
  | nil => exact ⟨[], rfl, rfl, by simp⟩
  | cons serves _ _ _ ih =>
    obtain ⟨turned, queue, left, served⟩ := ih
    rcases serves.turned with ⟨transition, rest, rfl, queued, moved⟩ | ⟨_, same⟩
    · rw [moved] at queue left
      dsimp only at queue left
      refine ⟨transition :: turned, by rw [queued, queue]; rfl, left, ?_⟩
      intro other member
      rcases List.mem_cons.mp member with rfl | member
      · exact List.mem_cons_self
      · exact List.mem_cons_of_mem _ (served other member)
    · rw [same] at queue left
      exact ⟨turned, queue, left, fun other member => List.mem_cons_of_mem _ (served other member)⟩

/-- The jobs stand in the order of their drivers. -/
theorem jobs_ranked (board : Board) :
    board.jobs.Pairwise fun first second => first.task.source.rank ≤ second.task.source.rank := by
  have ordered : Source.all.Pairwise fun first second => first.rank < second.rank := by decide
  refine List.pairwise_flatMap.mpr ⟨fun source _ => ?_, ordered.imp fun ranked => ?_⟩
  · refine List.pairwise_of_forall_mem_list fun first own second other => ?_
    exact Nat.le_of_eq (by rw [source_of_mem_jobsOf own, source_of_mem_jobsOf other])
  · intro first own second other
    rw [source_of_mem_jobsOf own, source_of_mem_jobsOf other]
    exact Nat.le_of_lt ranked

/-- Nothing is served at the tick of a job of an earlier driver before that job. -/
theorem lt_due_of_taken (taken : JobTaken job board.jobs rest) {other : Job}
    (member : other ∈ board.jobs) (ranked : other.task.source.rank < job.task.source.rank) :
    job.due < other.due := by
  obtain ⟨before, behind, whole, _, later, _⟩ := taken
  have order := board.jobs_ranked
  rw [whole] at member order
  rcases List.mem_append.mp member with front | back
  · exact later other front
  · rcases List.mem_cons.mp back with rfl | back
    · exact absurd ranked (Nat.lt_irrefl _)
    · have behindIt := (List.pairwise_cons.mp (List.pairwise_append.mp order).2.1).1 other back
      exact absurd ranked (Nat.not_lt_of_le behindIt)

/-- Of a driver that comes after that of an outstanding job, only what is due earlier is served. -/
theorem Runs.lt_due (runs : Runs board jobs after) {other : Job} (left : other ∈ after.jobs)
    (member : job ∈ jobs) (ranked : other.task.source.rank < job.task.source.rank) :
    job.due < other.due := by
  induction runs with
  | nil => cases member
  | cons serves taken _ later ih =>
    rcases List.mem_cons.mp member with rfl | member
    · exact lt_due_of_taken taken (taken.mem_of_mem_rest (later.mem_of_mem_rest left)) ranked
    · exact ih left member

/-- The tick at which everything that is outstanding has been served. -/
def latest (board : Board) : Nat := (board.jobs.map Job.due).foldr max board.clock

/-- A tick is no earlier than the latest one exactly if neither the clock nor a job is past it. -/
theorem latest_le_iff {tick : Nat} :
    board.latest ≤ tick ↔ board.clock ≤ tick ∧ ∀ job ∈ board.jobs, job.due ≤ tick := by
  unfold latest
  induction board.jobs with
  | nil => simp
  | cons job rest ih =>
    rw [List.map_cons, List.foldr_cons, Nat.max_le, ih, List.forall_mem_cons]
    exact and_left_comm

/-- The latest tick is not past. -/
theorem clock_le_latest (board : Board) : board.clock ≤ board.latest :=
  (latest_le_iff.mp (Nat.le_refl _)).1

/-- Serving a job does not put off the end of the others. -/
theorem Serves.latest_eq (serves : board.Serves job after) (sound : board.Sound)
    (taken : JobTaken job board.jobs after.jobs) : after.latest = board.latest := by
  have early : board.clock ≤ job.due := sound.clock_le taken.mem
  have same : ∀ tick, after.latest ≤ tick ↔ board.latest ≤ tick := by
    intro tick
    rw [latest_le_iff, latest_le_iff, serves.clock_eq]
    constructor
    · rintro ⟨mine, others⟩
      refine ⟨Nat.le_trans early mine, fun other member => ?_⟩
      rcases List.mem_cons.mp (taken.perm.mem_iff.mp member) with rfl | left
      · exact mine
      · exact others other left
    · rintro ⟨_, all⟩
      exact ⟨all job taken.mem, fun other left => all other (taken.mem_of_mem_rest left)⟩
  exact Nat.le_antisymm ((same _).mpr (Nat.le_refl _)) ((same _).mp (Nat.le_refl _))

/-- Serving jobs leaves the latest tick as it is. -/
theorem Runs.latest_eq (runs : Runs board jobs after) (sound : board.Sound) :
    after.latest = board.latest := by
  induction runs with
  | nil => rfl
  | cons serves taken soundMid _ ih => exact (ih soundMid).trans (serves.latest_eq sound taken)

/-- When nothing is outstanding any more, it is that late. -/
theorem Runs.clock_of_rest (runs : Runs board jobs after) (sound : board.Sound)
    (rested : after.jobs = []) : after.clock = board.latest := by
  rw [← runs.latest_eq sound, latest, rested]
  rfl

/-- The board once a gesture has been taken from its input and made. -/
def performed (board : Board) (gesture : Gesture) (input : Bytes) : Board :=
  { board with
    console := { board.console with input := input }
    buttons := { board.buttons with queue := gesture.transitions board.clock } }

/-- The board once a gesture has been taken, with the bytes behind it, and its press has been
served: the button is down if there is such a button, its release is all that is queued, and the
subscriber has heard of the press if the interrupt of the button is enabled. -/
def pressing (board : Board) (gesture : Gesture) (input : Bytes) : Board :=
  { board with
    console := { board.console with input := input }
    buttons := { board.buttons with
      pressed := (board.buttons.pressed.set? gesture.button true).getD board.buttons.pressed
      queue := [⟨board.clock + gesture.ticks, gesture.button, false⟩] }
    calls := (if board.buttons.interrupts.get? gesture.button = some true then
        Subscriber.call? board.buttons.subscriber gesture.button 1
      else none).toList ++ board.calls }

section Gestures

variable {gesture : Gesture} {input : Bytes}

/-- On an idle board the transitions of a gesture are the whole queue. -/
theorem perform_of_idle (idle : board.jobs = []) (gesture : Gesture) :
    board.buttons.perform board.clock gesture =
      { board.buttons with queue := gesture.transitions board.clock } := by
  simp [Buttons.perform, queue_eq_nil idle, Buttons.schedule, Gesture.transitions]

/-- An idle board is sound when a gesture has been made on it. -/
theorem Sound.performed (sound : board.Sound) (idle : board.jobs = []) (gesture : Gesture)
    (input : Bytes) : (board.performed gesture input).Sound := by
  have buttons := sound.buttons.perform gesture
  rw [perform_of_idle idle] at buttons
  exact { sound with
    buttons := buttons
    console := ⟨sound.console.buffered, sound.console.awaited, sound.console.punctual⟩ }

/-- When a gesture has been made on an idle board, its transitions are the only jobs. -/
theorem jobs_performed (idle : board.jobs = []) (gesture : Gesture) (input : Bytes) :
    (board.performed gesture input).jobs = gesture.jobs board.clock := by
  refine (jobs_eq_jobsOf .buttons fun other apart => ?_).trans rfl
  have none := jobs_eq_nil_iff.mp idle other
  cases other <;> first | exact none | exact absurd rfl apart

/-- When a gesture has been made on an idle board, the latest job is to let the button go. -/
theorem latest_performed (idle : board.jobs = []) (gesture : Gesture) (input : Bytes) :
    (board.performed gesture input).latest =
      board.clock + ticksOfMilliseconds gesture.milliseconds := by
  have clock : (board.performed gesture input).clock = board.clock := rfl
  rw [latest, jobs_performed idle, clock, Gesture.jobs, Gesture.transitions]
  simp only [List.map_cons, List.map_nil, List.foldr_cons, List.foldr_nil, Transition.job]
  omega

/-- A board that has nothing left to do makes the next gesture of its input. -/
theorem yield_performed (sound : board.Sound) (idle : board.jobs = [])
    (supplied : board.charge = none) (unread : board.console.reading = false)
    (taken : takeGesture board.console.input = (some gesture, input)) :
    board.yield = (board.performed gesture input).yield := by
  have fed : board.console.isHungry = false := by
    rw [Console.isHungry, unread]
    rfl
  have stimulus : board.stimulate = (true, board.performed gesture input) := by
    simp only [stimulate, fed, taken, perform_of_idle idle]
    rfl
  have nothing := sound.nextDue?_eq_none_iff.mpr idle
  have soundThen := sound.performed idle gesture input
  have suppliedThen : (board.performed gesture input).charge = none := supplied
  cases next : (board.performed gesture input).nextDue? with
  | none =>
    have busy := soundThen.nextDue?_eq_none_iff.mp next
    rw [jobs_performed idle] at busy
    cases busy
  | some entry =>
    rw [Board.yield, Board.yield, if_neg (by simp [supplied]), if_neg (by simp [suppliedThen])]
    simp only [serveNext, nothing, stimulus, next]

/-- Once the button is down, the only job is to let it go. -/
theorem jobs_pressing (idle : board.jobs = []) (gesture : Gesture) (input : Bytes) :
    (board.pressing gesture input).jobs =
      [⟨board.clock + gesture.ticks, .turn gesture.button false⟩] := by
  refine (jobs_eq_jobsOf .buttons fun other apart => ?_).trans rfl
  have none := jobs_eq_nil_iff.mp idle other
  cases other <;> first | exact none | exact absurd rfl apart

/-- The press of a gesture that has just been taken is what is served. -/
theorem yield_pressing (sound : board.Sound) (idle : board.jobs = [])
    (supplied : board.charge = none) (unread : board.console.reading = false)
    (taken : takeGesture board.console.input = (some gesture, input)) :
    board.yield = (.serviced, board.pressing gesture input) := by
  have jobs := jobs_performed idle gesture input
  have busy : (board.performed gesture input).jobs ≠ [] := by
    rw [jobs]
    exact List.cons_ne_nil _ _
  have suppliedThen : (board.performed gesture input).charge ≠ some 0 := by
    simp [performed, supplied]
  rw [yield_performed sound idle supplied unread taken]
  rcases (sound.performed idle gesture input).yield suppliedThen with
    ⟨job, after, yielded, serves, first, _⟩ | ⟨_, none, _⟩
  · rw [stimulated_of_jobs busy] at serves first
    rw [jobs] at first
    have least : ∀ other ∈ [(⟨board.clock + ticksOfMilliseconds gesture.milliseconds,
        .turn gesture.button false⟩ : Job)], board.clock ≤ other.due := by simp
    obtain ⟨rfl, _⟩ := first.eq_head least
    rw [yielded]
    cases serves with
    | turn queued =>
      cases queued
      rw [gesture.ticksOfMilliseconds_milliseconds, settledAt, discharge, record, performed,
        pressing]
      simp only [supplied, Option.map_none, Bool.toNat_true]
  · exact absurd none busy

/-- A board is idle when its input has no gesture any more. -/
theorem yield_of_rest (sound : board.Sound) (idle : board.jobs = [])
    (supplied : board.charge = none) (unread : board.console.reading = false)
    (taken : takeGesture board.console.input = (none, input)) :
    board.yield = (.idle, { board with console := { board.console with input := input } }) := by
  have fed : board.console.isHungry = false := by
    rw [Console.isHungry, unread]
    rfl
  have nothing := sound.nextDue?_eq_none_iff.mpr idle
  simp only [Board.yield, supplied, serveNext, nothing, stimulate, fed, taken]
  rfl

end Gestures

end Board

end OtpToken
