import Mathlib.Data.List.Basic
import OtpToken.Board.Progress

/-!
# Jobs

Each outstanding operation of a board is a job: the tick it is due at, and the task
that is done then. `Board.jobs` lists them in the order of the drivers, the alarms
by place and the transitions as queued. The job that is served next is the earliest,
and of several the first in this list; `JobTaken` says so, and that the others stay.
-/

namespace OtpToken

/-- What is done when an outstanding operation is served. -/
inductive Task
  /-- The alarm at a place fires. -/
  | ring (place : Nat)
  /-- A button goes down or up. -/
  | turn (button : Nat) (pressed : Bool)
  /-- A byte that has come in is handed to the pending read. -/
  | receive
  /-- A run of the keyed-hash unit completes. -/
  | digest
  /-- The keyboard has typed its text. -/
  | typing
  /-- An access to the store completes. -/
  | access (access : Access)
  deriving DecidableEq, Repr

/-- The driver that does a task. -/
def Task.source : Task → Source
  | ring _ => .alarms
  | turn _ _ => .buttons
  | receive => .console
  | digest => .macUnit
  | typing => .keyboard
  | access _ => .keyValue

/-- An outstanding operation: a task and when it is due. -/
structure Job where
  due : Nat
  task : Task
  deriving DecidableEq, Repr

/-- Of the jobs in a list the given one comes first, being the earliest and the first of these in
the list, and the rest is left in its order. -/
def JobTaken (job : Job) (jobs rest : List Job) : Prop :=
  ∃ before after, jobs = before ++ job :: after ∧ rest = before ++ after ∧
    (∀ other ∈ before, job.due < other.due) ∧ ∀ other ∈ after, job.due ≤ other.due

namespace JobTaken

variable {job : Job} {jobs rest : List Job}

/-- The job that is taken is one of the jobs. -/
theorem mem (taken : JobTaken job jobs rest) : job ∈ jobs := by
  obtain ⟨before, after, rfl, _⟩ := taken
  simp

/-- No job is earlier than the one that comes first. -/
theorem due_le (taken : JobTaken job jobs rest) {other : Job} (member : other ∈ jobs) :
    job.due ≤ other.due := by
  obtain ⟨before, after, rfl, _, strict, weak⟩ := taken
  rcases List.mem_append.mp member with h | h
  · exact Nat.le_of_lt (strict other h)
  · rcases List.mem_cons.mp h with rfl | h
    · exact Nat.le_refl _
    · exact weak other h

/-- The jobs that are left were there before. -/
theorem mem_of_mem_rest (taken : JobTaken job jobs rest) {other : Job} (member : other ∈ rest) :
    other ∈ jobs := by
  obtain ⟨before, after, rfl, rfl, _⟩ := taken
  rcases List.mem_append.mp member with h | h <;> simp [h]

/-- A job other than the one that comes first is among the rest. -/
theorem mem_rest (taken : JobTaken job jobs rest) {other : Job} (member : other ∈ jobs)
    (apart : other ≠ job) : other ∈ rest := by
  obtain ⟨before, after, rfl, rfl, _⟩ := taken
  simp only [List.mem_append, List.mem_cons] at member ⊢
  rcases member with h | h | h
  · exact .inl h
  · exact absurd h apart
  · exact .inr h

/-- One job less is left. -/
theorem length (taken : JobTaken job jobs rest) : rest.length + 1 = jobs.length := by
  obtain ⟨before, after, rfl, rfl, _⟩ := taken
  simp only [List.length_append, List.length_cons]
  omega

/-- The job stays the first in a longer list if what is put before is later and what is put behind
is no earlier. -/
theorem widen (taken : JobTaken job jobs rest) {front back : List Job}
    (later : ∀ other ∈ front, job.due < other.due) (noEarlier : ∀ other ∈ back, job.due ≤ other.due) :
    JobTaken job (front ++ jobs ++ back) (front ++ rest ++ back) := by
  obtain ⟨before, after, rfl, rfl, strict, weak⟩ := taken
  refine ⟨front ++ before, after ++ back, by simp, by simp, ?_, ?_⟩
  · intro other member
    rcases List.mem_append.mp member with h | h
    · exact later other h
    · exact strict other h
  · intro other member
    rcases List.mem_append.mp member with h | h
    · exact weak other h
    · exact noEarlier other h

/-- The only job of a list comes first in it. -/
theorem singleton (job : Job) : JobTaken job [job] [] :=
  ⟨[], [], rfl, rfl, by simp, by simp⟩

end JobTaken

variable {α : Type}

/-- The entry chosen stands in the list behind later ones only, and no entry after it is earlier. -/
theorem split_of_earliest?_eq_some {entries : List (Nat × α)} {found : Nat × α}
    (h : earliest? entries = some found) :
    ∃ before after, entries = before ++ found :: after ∧ (∀ other ∈ before, found.1 < other.1) ∧
      ∀ other ∈ after, found.1 ≤ other.1 := by
  induction entries with
  | nil => simp [earliest?] at h
  | cons entry rest ih =>
    have least : ∀ other ∈ entry :: rest, found.1 ≤ other.1 := fun _ => le_of_earliest?_eq_some h
    simp only [earliest?] at h
    cases hrest : earliest? rest with
    | none =>
      simp only [hrest] at h
      cases h
      exact ⟨[], rest, rfl, by simp, fun other member => least other (List.mem_cons_of_mem _ member)⟩
    | some other =>
      simp only [hrest] at h
      split at h
      next earlier =>
        cases h
        obtain ⟨before, after, rfl, strict, weak⟩ := ih hrest
        refine ⟨entry :: before, after, rfl, ?_, weak⟩
        intro one member
        rcases List.mem_cons.mp member with rfl | member
        · exact earlier
        · exact strict one member
      next =>
        cases h
        exact ⟨[], rest, rfl, by simp,
          fun one member => least one (List.mem_cons_of_mem _ member)⟩

namespace Alarms

/-- The job of an alarm at a place, if it is armed. -/
def jobOf (place : Nat) (timer : Option Timer) : List Job :=
  ((timer.bind Timer.expiration).map fun expiration => ⟨expiration, .ring place⟩).toList

/-- The jobs of a part of the table that begins at a place. -/
def jobsFrom (start : Nat) : List (Option Timer) → List Job
  | [] => []
  | timer :: rest => jobOf start timer ++ jobsFrom (start + 1) rest

/-- The jobs of the armed alarms, in the order of the places. -/
def jobs (alarms : Alarms) : List Job := jobsFrom 0 alarms.places

/-- The jobs of a table are found part by part. -/
theorem jobsFrom_append (start : Nat) (front back : List (Option Timer)) :
    jobsFrom start (front ++ back) = jobsFrom start front ++ jobsFrom (start + front.length) back := by
  induction front generalizing start with
  | nil => simp [jobsFrom]
  | cons timer rest ih =>
    simp only [List.cons_append, jobsFrom, ih, List.append_assoc, List.length_cons]
    rw [Nat.add_assoc, Nat.add_comm 1]

/-- An armed alarm has one job, which rings it when it expires. -/
theorem mem_jobOf {place : Nat} {timer : Option Timer} {job : Job} :
    job ∈ jobOf place timer ↔
      timer.bind Timer.expiration = some job.due ∧ job.task = .ring place := by
  obtain ⟨due, task⟩ := job
  simp only [jobOf, Option.mem_toList, Option.map_eq_some_iff, Job.mk.injEq]
  constructor
  · rintro ⟨expiration, armed, rfl, rfl⟩
    exact ⟨armed, rfl⟩
  · rintro ⟨armed, rfl⟩
    exact ⟨due, armed, rfl, rfl⟩

/-- The jobs of a part of the table ring alarms in that part. -/
theorem place_of_mem_jobsFrom {start : Nat} {places : List (Option Timer)} {job : Job}
    (h : job ∈ jobsFrom start places) :
    ∃ place, job.task = .ring place ∧ start ≤ place ∧ place < start + places.length := by
  induction places generalizing start with
  | nil => simp [jobsFrom] at h
  | cons timer rest ih =>
    rcases List.mem_append.mp h with h | h
    · exact ⟨start, (mem_jobOf.mp h).2, Nat.le_refl _, by simp⟩
    · obtain ⟨place, task, low, high⟩ := ih h
      exact ⟨place, task, by omega, by simp only [List.length_cons]; omega⟩

/-- How an alarm is set shows in its own job alone. -/
theorem jobs_split {alarms : Alarms} {place : Nat} (bound : place < alarms.places.length) :
    ∃ front back, (∀ job ∈ front ++ back, job.task ≠ .ring place) ∧
      alarms.jobs = front ++ jobOf place (alarms.timer? place) ++ back ∧
      ∀ timer, (alarms.setTimer place timer).jobs = front ++ jobOf place timer ++ back := by
  have whole : ∀ timer, (alarms.setTimer place timer).jobs =
      jobsFrom 0 (alarms.places.take place) ++ jobOf place timer ++
        jobsFrom (place + 1) (alarms.places.drop (place + 1)) := by
    intro timer
    have parts : (alarms.setTimer place timer).places =
        alarms.places.take place ++ timer :: alarms.places.drop (place + 1) := by
      simp [setTimer, List.set_eq_take_append_cons_drop, bound]
    have start : 0 + (alarms.places.take place).length = place := by
      rw [List.length_take, Nat.zero_add]
      exact Nat.min_eq_left (Nat.le_of_lt bound)
    rw [jobs, parts, jobsFrom_append, start, jobsFrom, List.append_assoc]
  have same : alarms.setTimer place (alarms.timer? place) = alarms := by
    rw [setTimer, timer?, List.getElem?_eq_getElem bound, Option.join_some, List.set_getElem_self]
  refine ⟨_, _, ?_, (congrArg jobs same).symm.trans (whole _), whole⟩
  intro job member
  rcases List.mem_append.mp member with h | h
  · obtain ⟨other, task, _, high⟩ := place_of_mem_jobsFrom h
    rw [List.length_take] at high
    rw [task]
    simp only [ne_eq, Task.ring.injEq]
    omega
  · obtain ⟨other, task, low, _⟩ := place_of_mem_jobsFrom h
    rw [task]
    simp only [ne_eq, Task.ring.injEq]
    omega

/-- The jobs of a table are to ring its armed alarms when they expire. -/
theorem mem_jobs {alarms : Alarms} {job : Job} :
    job ∈ alarms.jobs ↔
      ∃ place, job.task = .ring place ∧
        (alarms.timer? place).bind Timer.expiration = some job.due := by
  constructor
  · intro member
    obtain ⟨place, task, _, high⟩ := place_of_mem_jobsFrom member
    rw [Nat.zero_add] at high
    obtain ⟨front, back, apart, split, _⟩ := jobs_split high
    rw [split, List.mem_append, List.mem_append] at member
    rcases member with (h | h) | h
    · exact absurd task (apart job (List.mem_append_left _ h))
    · exact ⟨place, task, (mem_jobOf.mp h).1⟩
    · exact absurd task (apart job (List.mem_append_right _ h))
  · rintro ⟨place, task, armed⟩
    obtain ⟨timer, here, expires⟩ := Option.bind_eq_some_iff.mp armed
    obtain ⟨front, back, _, split, _⟩ := jobs_split (lt_length_of_timer? here)
    rw [split, List.mem_append, List.mem_append]
    exact .inl (.inr (mem_jobOf.mpr ⟨armed, task⟩))

/-- The jobs come in the order of the deadlines. -/
theorem map_deadlines (alarms : Alarms) :
    alarms.deadlines.map (fun entry => Job.mk entry.1 (.ring entry.2)) = alarms.jobs := by
  have part : ∀ start places, ((List.zipIdx places start).filterMap fun entry =>
      (entry.1.bind Timer.expiration).map fun expiration => (expiration, entry.2)).map
        (fun entry => Job.mk entry.1 (.ring entry.2)) = jobsFrom start places := by
    intro start places
    induction places generalizing start with
    | nil => rfl
    | cons timer rest ih =>
      rw [List.zipIdx_cons, List.filterMap_cons, jobsFrom, ← ih (start + 1), jobOf]
      cases timer.bind Timer.expiration <;> simp
  exact part 0 alarms.places

/-- The alarm that fires is the first of the jobs, and the others stay armed. -/
theorem service_jobs {alarms : Alarms} {due : Nat} (now : Nat) (h : alarms.deadline = some due) :
    ∃ place timer, alarms.timer? place = some timer ∧ timer.expiration = some due ∧
      alarms.service now = (alarms.setTimer place (some { timer with expiration := none }),
        Subscriber.call? timer.subscriber now due) ∧
      JobTaken ⟨due, .ring place⟩ alarms.jobs (alarms.service now).1.jobs := by
  obtain ⟨⟨expiration, place⟩, next, rfl⟩ := Option.map_eq_some_iff.mp h
  obtain ⟨timer, here, expires⟩ := mem_deadlines.mp (mem_of_earliest?_eq_some next)
  have served : alarms.service now = (alarms.setTimer place (some { timer with expiration := none }),
      Subscriber.call? timer.subscriber now expiration) := by
    simp only [service, next, here]
  refine ⟨place, timer, here, expires, served, ?_⟩
  obtain ⟨before, after, whole, strict, weak⟩ := split_of_earliest?_eq_some next
  obtain ⟨front, back, apart, split, set⟩ := jobs_split (lt_length_of_timer? here)
  have own : jobOf place (some timer) = [⟨expiration, .ring place⟩] := by
    simp [jobOf, expires]
  have none : jobOf place (some { timer with expiration := none }) = [] := by simp [jobOf]
  have same := map_deadlines alarms
  rw [whole, split, here, own, List.map_append, List.map_cons, List.append_assoc,
    List.singleton_append, eq_comm, List.append_cons_inj_of_notMem
      (fun member => apart _ (List.mem_append_left _ member) rfl)
      (fun member => apart _ (List.mem_append_right _ member) rfl)] at same
  obtain ⟨hfront, _, hback⟩ := same
  rw [served]
  refine ⟨front, back, by simp [split, here, own], by simp [set, none], ?_, ?_⟩
  · intro other member
    rw [hfront] at member
    obtain ⟨entry, inside, rfl⟩ := List.mem_map.mp member
    exact strict entry inside
  · intro other member
    rw [hback] at member
    obtain ⟨entry, inside, rfl⟩ := List.mem_map.mp member
    exact weak entry inside

/-- If an alarm is armed, there is a deadline, and none of the jobs is due before it. -/
theorem due_le_of_mem_jobs {alarms : Alarms} {job : Job} (member : job ∈ alarms.jobs) :
    ∃ due, alarms.deadline = some due ∧ due ≤ job.due := by
  rw [← map_deadlines] at member
  obtain ⟨entry, inside, rfl⟩ := List.mem_map.mp member
  cases next : alarms.next? with
  | none => simp [earliest?_eq_none_iff.mp next] at inside
  | some first => exact ⟨first.1, by simp [deadline, next], le_of_earliest?_eq_some next inside⟩

end Alarms

/-- The job of a queued transition. -/
def Transition.job (transition : Transition) : Job :=
  ⟨transition.due, .turn transition.button transition.pressed⟩

namespace Buttons

/-- The jobs of the queued transitions, in their order. -/
def jobs (buttons : Buttons) : List Job := buttons.queue.map Transition.job

end Buttons

/-- The transitions of a gesture that begins now. -/
def Gesture.transitions (gesture : Gesture) (now : Nat) : List Transition :=
  [⟨now, gesture.button, true⟩,
    ⟨now + ticksOfMilliseconds gesture.milliseconds, gesture.button, false⟩]

/-- The jobs that a gesture comes to. -/
def Gesture.jobs (gesture : Gesture) (now : Nat) : List Job :=
  (gesture.transitions now).map Transition.job

namespace Console

/-- The job of a byte that has come in. -/
def jobs (console : Console) : List Job :=
  console.received.toList.map fun (due, _) => ⟨due, .receive⟩

end Console

namespace MacUnit

/-- The job of an outstanding run. -/
def jobs (unit : MacUnit) : List Job := unit.due.toList.map fun due => ⟨due, .digest⟩

end MacUnit

namespace Keyboard

/-- The job of an outstanding text. -/
def jobs (keyboard : Keyboard) : List Job := keyboard.due.toList.map fun due => ⟨due, .typing⟩

end Keyboard

namespace KeyValue

/-- The job of an outstanding access. -/
def jobs (unit : KeyValue) : List Job :=
  unit.pending.toList.map fun (due, access) => ⟨due, .access access⟩

end KeyValue

/-- The drivers, in the order in which the board looks at them. -/
def Source.all : List Source := [.alarms, .buttons, .console, .macUnit, .keyboard, .keyValue]

/-- Every driver is listed. -/
theorem Source.mem_all (source : Source) : source ∈ all := by
  cases source <;> decide

/-- The drivers that come before a driver, and those behind it. -/
theorem Source.split (source : Source) :
    ∃ front back, all = front ++ source :: back ∧ source ∉ front ∧ source ∉ back := by
  obtain ⟨front, back, whole⟩ := List.append_of_mem source.mem_all
  have apart : all.Nodup := by decide
  rw [whole, List.nodup_append, List.nodup_cons] at apart
  exact ⟨front, back, whole, fun member => apart.2.2 _ member _ List.mem_cons_self rfl,
    apart.2.1.1⟩

namespace Board

/-- The outstanding operations of a driver. -/
def jobsOf (board : Board) : Source → List Job
  | .alarms => board.alarms.jobs
  | .buttons => board.buttons.jobs
  | .console => board.console.jobs
  | .macUnit => board.macUnit.jobs
  | .keyboard => (board.keyboard.map Keyboard.jobs).getD []
  | .keyValue => board.keyValue.jobs

/-- The outstanding operations, in the order of the drivers. -/
def jobs (board : Board) : List Job := Source.all.flatMap board.jobsOf

/-- When the first operation of a driver is due. -/
def deadlineOf (board : Board) : Source → Option Nat
  | .alarms => board.alarms.deadline
  | .buttons => board.buttons.deadline
  | .console => board.console.deadline
  | .macUnit => board.macUnit.due
  | .keyboard => board.keyboard.bind Keyboard.due
  | .keyValue => board.keyValue.deadline

/-- The deadlines of a board are those of its drivers, in their order. -/
theorem deadlines_eq (board : Board) :
    board.deadlines =
      Source.all.filterMap fun source => (board.deadlineOf source).map fun due => (due, source) :=
  rfl

/-- The jobs of a board are those of its drivers. -/
theorem mem_jobs {board : Board} {job : Job} :
    job ∈ board.jobs ↔ ∃ source, job ∈ board.jobsOf source := by
  simp [jobs, Source.mem_all]

/-- A board has no jobs exactly if none of its drivers has one. -/
theorem jobs_eq_nil_iff {board : Board} : board.jobs = [] ↔ ∀ source, board.jobsOf source = [] := by
  simp [jobs, Source.mem_all]

/-- If only one driver has jobs they are all. -/
theorem jobs_eq_jobsOf {board : Board} (source : Source)
    (others : ∀ other, other ≠ source → board.jobsOf other = []) :
    board.jobs = board.jobsOf source := by
  cases source <;> simp [jobs, Source.all, others]

/-- What is served next is the earliest deadline of its driver. The drivers before it have later
ones only, and those behind it none that is earlier. -/
theorem split_of_nextDue? {board : Board} {due : Nat} {source : Source}
    (next : board.nextDue? = some (due, source)) :
    ∃ front back, Source.all = front ++ source :: back ∧ source ∉ front ∧ source ∉ back ∧
      board.deadlineOf source = some due ∧
      (∀ other ∈ front, ∀ tick, board.deadlineOf other = some tick → due < tick) ∧
      ∀ other ∈ back, ∀ tick, board.deadlineOf other = some tick → due ≤ tick := by
  obtain ⟨front, back, whole, notFront, notBack⟩ := source.split
  have member := mem_of_earliest?_eq_some next
  have own : board.deadlineOf source = some due := by
    rw [deadlines_eq, List.mem_filterMap] at member
    obtain ⟨found, _, same⟩ := member
    obtain ⟨tick, here, same⟩ := Option.map_eq_some_iff.mp same
    cases same
    exact here
  have stranger : ∀ sources : List Source, source ∉ sources →
      (due, source) ∉ sources.filterMap fun other =>
        (board.deadlineOf other).map fun tick => (tick, other) := by
    intro sources absent inside
    rw [List.mem_filterMap] at inside
    obtain ⟨found, among, same⟩ := inside
    obtain ⟨tick, here, same⟩ := Option.map_eq_some_iff.mp same
    cases same
    exact absent among
  obtain ⟨before, after, split, strict, weak⟩ := split_of_earliest?_eq_some next
  rw [deadlines_eq, whole, List.filterMap_append, List.filterMap_cons, own] at split
  obtain ⟨rfl, _, rfl⟩ :=
    (List.append_cons_inj_of_notMem (stranger _ notFront) (stranger _ notBack)).mp split
  refine ⟨front, back, whole, notFront, notBack, own, ?_, ?_⟩
  · intro other among tick here
    exact strict (tick, other) (List.mem_filterMap.mpr ⟨other, among, by rw [here]; rfl⟩)
  · intro other among tick here
    exact weak (tick, other) (List.mem_filterMap.mpr ⟨other, among, by rw [here]; rfl⟩)

end Board

end OtpToken
