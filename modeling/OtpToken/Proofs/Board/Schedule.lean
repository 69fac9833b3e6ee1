import OtpToken.Proofs.Board.Service

/-!
# The schedule

The books of a board list the orders it has accepted, in their order, and those that
have come to an end: served at a tick, or withdrawn by a later command. Commands and
yields in any order keep the books balanced: on every lane the accepted orders are
those that have ended, followed by those that are outstanding, in the same order. So
every order ends at most once, and as many yields as there are jobs serve them all.
`schedule_lawful` states this for all sequences of events, with the order in which
jobs are served and the ticks at which that happens.
-/

namespace OtpToken

/-- What a board has been asked for: a job, or a character when there is one. -/
inductive Order
  | timed (job : Job)
  | read
  deriving DecidableEq, Repr

/-- Orders on one lane are served in the order in which they were accepted. -/
inductive Lane
  | alarm (place : Nat)
  /-- The transitions of buttons that are due at a tick. -/
  | transitions (due : Nat)
  | console
  | macUnit
  | keyboard
  | keyValue
  deriving DecidableEq, Repr

/-- The driver of a lane. -/
def Lane.source : Lane → Source
  | alarm _ => .alarms
  | transitions _ => .buttons
  | console => .console
  | macUnit => .macUnit
  | keyboard => .keyboard
  | keyValue => .keyValue

/-- The lane of a job. -/
def Job.lane (job : Job) : Lane :=
  match job.task with
  | .ring place => .alarm place
  | .turn _ _ => .transitions job.due
  | .receive => .console
  | .digest => .macUnit
  | .typing => .keyboard
  | .access _ => .keyValue

/-- The lane of an order. -/
def Order.lane : Order → Lane
  | timed job => job.lane
  | read => .console

/-- The order that a job fulfils. -/
def Job.order (job : Job) : Order := if job.task = .receive then .read else .timed job

/-- Only a job that is not a read is a timed order, and then it is that one. -/
theorem Job.eq_of_order {job other : Job} (h : job.order = .timed other) : other = job := by
  unfold order at h
  split at h <;> cases h
  rfl

/-- The orders on one lane. -/
def onLane (lane : Lane) (orders : List Order) : List Order :=
  orders.filter fun order => order.lane = lane

/-- The orders on a lane are found part by part. -/
@[simp] theorem onLane_append (lane : Lane) (front back : List Order) :
    onLane lane (front ++ back) = onLane lane front ++ onLane lane back :=
  List.filter_append ..

/-- Orders that are all on other lanes are not found on this one. -/
theorem onLane_eq_nil {lane : Lane} {orders : List Order}
    (apart : ∀ order ∈ orders, order.lane ≠ lane) : onLane lane orders = [] :=
  List.filter_eq_nil_iff.mpr fun order member => by simpa using apart order member

/-- The lane of a job is one of its driver. -/
theorem Job.source_lane (job : Job) : job.lane.source = job.task.source := by
  obtain ⟨due, task⟩ := job
  cases task <;> rfl

namespace Alarms

/-- An alarm that is set differently ends its own order and begins another one. -/
theorem onLane_setTimer (lane : Lane) {alarms : Alarms} {place : Nat} (timer : Option Timer)
    (bound : place < alarms.places.length) :
    onLane lane (alarms.jobs.map .timed ++ (jobOf place timer).map .timed) =
      onLane lane ((jobOf place (alarms.timer? place)).map .timed ++
        (alarms.setTimer place timer).jobs.map .timed) := by
  obtain ⟨front, back, apart, split, set⟩ := jobs_split bound
  have own : ∀ timer, ∀ order ∈ (jobOf place timer).map Order.timed, order.lane = .alarm place := by
    intro timer order member
    obtain ⟨job, inside, rfl⟩ := List.mem_map.mp member
    simp only [Order.lane, Job.lane, (mem_jobOf.mp inside).2]
  rw [split, set]
  simp only [List.map_append, onLane_append]
  by_cases here : lane = .alarm place
  · have none : ∀ jobs : List Job, (∀ job ∈ jobs, job ∈ front ++ back) →
        onLane lane (jobs.map .timed) = [] := by
      intro jobs inside
      refine onLane_eq_nil fun order member => ?_
      obtain ⟨job, among, rfl⟩ := List.mem_map.mp member
      have ringing : ∃ other, job.task = .ring other := by
        have whole : job ∈ alarms.jobs := by
          rw [split]
          have := inside job among
          simp only [List.mem_append] at this ⊢
          tauto
        obtain ⟨other, task, _⟩ := mem_jobs.mp whole
        exact ⟨other, task⟩
      obtain ⟨other, task⟩ := ringing
      have different := apart job (inside job among)
      rw [task] at different
      simp only [Order.lane, Job.lane, task, here]
      simpa using different
    rw [none front fun job member => List.mem_append_left _ member,
      none back fun job member => List.mem_append_right _ member]
    simp
  · have none : ∀ timer, onLane lane ((jobOf place timer).map .timed) = [] := fun timer =>
      onLane_eq_nil fun order member => by
        rw [own timer order member]
        exact fun h => here h.symm
    rw [none, none]
    simp

/-- A timer that is armed for the same tick as before brings no job and takes none away. -/
theorem jobs_setTimer {alarms : Alarms} {place : Nat} {timer : Option Timer}
    (same : jobOf place timer = jobOf place (alarms.timer? place)) :
    (alarms.setTimer place timer).jobs = alarms.jobs := by
  by_cases bound : place < alarms.places.length
  · obtain ⟨_, _, _, split, set⟩ := jobs_split bound
    rw [split, set, same]
  · rw [setTimer, List.set_eq_of_length_le (Nat.le_of_not_lt bound)]

/-- An alarm that is allocated brings no job. -/
theorem jobs_allocate (alarms : Alarms) : alarms.allocate.2.jobs = alarms.jobs := by
  unfold allocate
  dsimp only
  split
  next bound =>
    apply jobs_setTimer
    have free : alarms.places[alarms.freePlace] = none :=
      Option.isNone_iff_eq_none.mp List.findIdx_getElem
    rw [timer?, List.getElem?_eq_getElem bound, free]
    rfl
  next => rw [jobs, jobsFrom_append]; simp [jobs, jobsFrom, jobOf, Timer.disarmed]

end Alarms

namespace Buttons

/-- The transitions on the lane of a tick are those that are due at it. -/
theorem onLane_transitions (due : Nat) (transitions : List Transition) :
    onLane (.transitions due) (transitions.map fun transition => .timed transition.job) =
      (transitions.filter (·.due = due)).map fun transition => .timed transition.job := by
  rw [onLane, List.filter_map]
  refine congrArg _ (List.filter_congr fun transition _ => ?_)
  simp [Order.lane, Job.lane, Transition.job]

/-- A transition is put behind those that are due at the same tick. -/
theorem filter_schedule (due : Nat) (transition : Transition) {queue : List Transition}
    (ordered : queue.Pairwise (·.due ≤ ·.due)) :
    (schedule transition queue).filter (·.due = due) =
      (queue ++ [transition]).filter (·.due = due) := by
  induction queue with
  | nil => rfl
  | cons first rest ih =>
    obtain ⟨least, ordered⟩ := List.pairwise_cons.mp ordered
    unfold schedule
    split
    next earlier =>
      by_cases here : transition.due = due
      · have later : ∀ other ∈ first :: rest, ¬other.due = due := by
          intro other member
          rcases List.mem_cons.mp member with rfl | member
          · omega
          · have := least other member
            omega
        have none : (first :: rest).filter (·.due = due) = [] :=
          List.filter_eq_nil_iff.mpr fun other member => by simpa using later other member
        rw [List.filter_append, List.filter_cons, none]
        simp [here]
      · simp [List.filter_cons, here]
    next => rw [List.filter_cons, List.cons_append, List.filter_cons, ih ordered]

/-- The transitions of a gesture are put behind those that are due at the same ticks. -/
theorem filter_perform (due now : Nat) (gesture : Gesture) {buttons : Buttons}
    (ordered : buttons.queue.Pairwise (·.due ≤ ·.due)) :
    (buttons.perform now gesture).queue.filter (·.due = due) =
      (buttons.queue ++ gesture.transitions now).filter (·.due = due) := by
  have pressed : (schedule ⟨now, gesture.button, true⟩ buttons.queue).Pairwise (·.due ≤ ·.due) :=
    ordered_schedule ordered
  rw [perform, filter_schedule due _ pressed, List.filter_append, filter_schedule due _ ordered,
    ← List.filter_append, List.append_assoc]
  rfl

end Buttons

namespace Board

variable {board after : Board} {job : Job}

/-- The outstanding orders of a driver. -/
def ordersOf (board : Board) : Source → List Order
  | .console => if board.console.reading then [.read] else []
  | source => (board.jobsOf source).map .timed

/-- The outstanding orders. -/
def orders (board : Board) : List Order := Source.all.flatMap board.ordersOf

/-- A board has taken on some orders and has come to the end of others: on each lane the orders
that have ended are followed by those that are outstanding, just as the outstanding ones were
followed by those taken on. -/
def Exchanges (board : Board) (taken ended : List Order) (after : Board) : Prop :=
  ∀ lane : Lane, onLane lane (board.ordersOf lane.source ++ taken) =
    onLane lane (ended ++ after.ordersOf lane.source)

/-- What a driver exchanges is what the board does if the other drivers keep their orders. -/
theorem Exchanges.of_driver {taken ended : List Order} (source : Source)
    (others : ∀ other, other ≠ source → after.ordersOf other = board.ordersOf other)
    (own : ∀ order ∈ taken ++ ended, order.lane.source = source)
    (here : ∀ lane, lane.source = source →
      onLane lane (board.ordersOf source ++ taken) = onLane lane (ended ++ after.ordersOf source)) :
    board.Exchanges taken ended after := by
  intro lane
  by_cases same : lane.source = source
  · rw [same]
    exact here lane same
  · have none : ∀ orders : List Order, (∀ order ∈ orders, order ∈ taken ++ ended) →
        onLane lane orders = [] := by
      intro orders inside
      refine onLane_eq_nil fun order member away => same ?_
      rw [← away]
      exact own order (inside order member)
    rw [onLane_append, onLane_append, others _ same,
      none taken fun order member => List.mem_append_left _ member,
      none ended fun order member => List.mem_append_right _ member]
    simp

/-- A board whose outstanding orders stay exchanges nothing. -/
theorem Exchanges.quiet (same : ∀ source, after.ordersOf source = board.ordersOf source) :
    board.Exchanges [] [] after := by
  intro lane
  rw [same, List.append_nil, List.nil_append]

/-- Setting a timer takes on what it is armed for, and ends what it was armed for. -/
theorem Exchanges.alarm {place : Nat} (timer : Option Timer)
    (bound : place < board.alarms.places.length) :
    board.Exchanges ((Alarms.jobOf place timer).map .timed)
      ((Alarms.jobOf place (board.alarms.timer? place)).map .timed)
      { board with alarms := board.alarms.setTimer place timer } := by
  refine .of_driver .alarms ?_ ?_ fun lane _ => Alarms.onLane_setTimer lane timer bound
  · intro other apart
    cases other <;> first | rfl | exact absurd rfl apart
  · intro order member
    simp only [List.mem_append, List.mem_map] at member
    obtain ⟨job, inside, rfl⟩ | ⟨job, inside, rfl⟩ := member
    all_goals
      simp only [Order.lane, Job.lane, (Alarms.mem_jobOf.mp inside).2]
      rfl

/-- A board keeps its orders if all its alarms stay armed as they are. -/
theorem Exchanges.quiet_alarms {alarms : Alarms} (same : alarms.jobs = board.alarms.jobs) :
    board.Exchanges [] [] { board with alarms := alarms } := by
  apply Exchanges.quiet
  intro source
  cases source <;> first | rfl | exact congrArg (List.map Order.timed) same

/-- The orders that a command asks for. -/
def ordered (board : Board) : Command Subscriber Nat → List Order
  | .perform gesture => (gesture.jobs board.clock).map .timed
  | .armAlarm place ticks => [.timed ⟨board.clock + ticks.toNat, .ring place⟩]
  | .start .readCharacter => [.read]
  | .start .runMac => [.timed ⟨board.clock + ticksOfMilliseconds MacUnit.milliseconds, .digest⟩]
  | .start .typeText =>
    let length := (board.keyboard.map fun keyboard => keyboard.buffer.length).getD 0
    [.timed ⟨board.clock + ticksOfMilliseconds (Keyboard.milliseconds * length), .typing⟩]
  | .start .getValue =>
    [.timed ⟨board.clock + ticksOfMilliseconds Access.get.milliseconds, .access .get⟩]
  | .start .setValue =>
    [.timed ⟨board.clock + ticksOfMilliseconds Access.set.milliseconds, .access .set⟩]
  | _ => []

/-- The outstanding orders that a command takes back: an alarm that is armed anew, cancelled or
freed, or the read that is given up. -/
def withdrawn (board : Board) : Command Subscriber Nat → List Order
  | .armAlarm place _ | .cancelAlarm place =>
    (Alarms.jobOf place (board.alarms.timer? place)).map .timed
  | .freeAlarm place =>
    if place = Alarms.defaultPlace then []
    else (Alarms.jobOf place (board.alarms.timer? place)).map .timed
  | .abortRead => [.read]
  | _ => []

/-- A subscription takes on nothing and ends nothing. -/
theorem Subscribes.exchanges {channel : Channel Nat} {subscriber : Option Subscriber}
    (subscribes : board.Subscribes subscriber channel after) : board.Exchanges [] [] after := by
  cases subscribes with
  | alarm here => exact .quiet_alarms (Alarms.jobs_setTimer (by rw [here]; rfl))
  | keyboard present =>
    refine .quiet fun source => ?_
    cases source <;> first | rfl | simp [ordersOf, jobsOf, present, Keyboard.jobs]
  | buttons | console | macUnit | keyValue => exact .quiet fun source => by cases source <;> rfl

/-- Sharing a buffer takes on nothing and ends nothing. -/
theorem Shares.exchanges {buffer : Buffer} {bytes : Bytes}
    (shares : board.Shares bytes buffer after) : board.Exchanges [] [] after := by
  cases shares with
  | text present _ =>
    refine .quiet fun source => ?_
    cases source <;> first | rfl | simp [ordersOf, jobsOf, present, Keyboard.jobs]
  | _ => exact .quiet fun source => by cases source <;> rfl

/-- An operation that an idle driver takes on is its only order. -/
theorem Exchanges.begin {order : Order} (source : Source) (own : order.lane.source = source)
    (others : ∀ other, other ≠ source → after.ordersOf other = board.ordersOf other)
    (idle : board.ordersOf source = []) (busy : after.ordersOf source = [order]) :
    board.Exchanges [order] [] after := by
  refine .of_driver source others ?_ ?_
  · intro other member
    rw [List.mem_singleton.mp member, own]
  · intro lane _
    simp only [idle, busy, List.nil_append]

/-- The only order of a driver is gone when it has ended. -/
theorem Exchanges.finish {order : Order} (source : Source) (own : order.lane.source = source)
    (others : ∀ other, other ≠ source → after.ordersOf other = board.ordersOf other)
    (busy : board.ordersOf source = [order]) (idle : after.ordersOf source = []) :
    board.Exchanges [] [order] after := by
  refine .of_driver source others ?_ ?_
  · intro other member
    rw [List.mem_singleton.mp member, own]
  · intro lane _
    simp only [idle, busy, List.append_nil]

/-- An operation that is started is what is taken on. -/
theorem Undertakes.exchanges {operation : Operation}
    (undertakes : board.Undertakes operation after) :
    board.Exchanges (board.ordered (.start operation)) [] after := by
  cases undertakes with
  | readCharacter idle _ =>
    refine .begin .console rfl ?_ (by simp [ordersOf, idle]) rfl
    intro other apart
    cases other <;> first | rfl | exact absurd rfl apart
  | runMac idle =>
    refine .begin .macUnit rfl ?_ (by simp [ordersOf, jobsOf, MacUnit.jobs, idle]) rfl
    intro other apart
    cases other <;> first | rfl | exact absurd rfl apart
  | typeText present idle =>
    refine .begin .keyboard rfl ?_ ?_ ?_
    · intro other apart
      cases other <;> first | rfl | exact absurd rfl apart
    · simp [ordersOf, jobsOf, present, Keyboard.jobs, idle]
    · simp [ordersOf, jobsOf, present, Keyboard.jobs]
  | getValue idle _ | setValue idle _ =>
    refine .begin .keyValue rfl ?_ (by simp [ordersOf, jobsOf, KeyValue.jobs, idle]) rfl
    intro other apart
    cases other <;> first | rfl | exact absurd rfl apart

/-- A gesture takes on its two transitions. -/
theorem Exchanges.perform (sound : board.Sound) (gesture : Gesture) :
    board.Exchanges ((gesture.jobs board.clock).map .timed) []
      { board with buttons := board.buttons.perform board.clock gesture } := by
  have ordered := sound.buttons.ordered
  generalize board.clock = now
  refine .of_driver .buttons ?_ ?_ ?_
  · intro other apart
    cases other <;> first | rfl | exact absurd rfl apart
  · intro order member
    simp only [Gesture.jobs, Gesture.transitions, List.map_cons, List.map_nil, List.append_nil, List.mem_cons,
      List.not_mem_nil, or_false] at member
    obtain rfl | rfl := member <;> rfl
  · intro lane same
    cases lane <;> cases same
    next due =>
      have whole : ∀ buttons : Buttons,
          buttons.jobs.map .timed = buttons.queue.map fun transition => Order.timed transition.job :=
        fun buttons => List.map_map ..
      have asked : (gesture.jobs now).map .timed =
          (gesture.transitions now).map fun transition => Order.timed transition.job :=
        List.map_map ..
      change onLane _ (board.buttons.jobs.map .timed ++ _) =
        onLane _ ((board.buttons.perform now gesture).jobs.map .timed)
      rw [whole, whole, asked, ← List.map_append, Buttons.onLane_transitions,
        Buttons.onLane_transitions, Buttons.filter_perform due now gesture ordered]

/-- A command that is accepted exchanges the orders that it takes back for those that it asks
for. -/
theorem Obeys.exchanges {command : Command Subscriber Nat} (obeys : board.Obeys command after)
    (sound : board.Sound) :
    board.Exchanges (board.ordered command) (board.withdrawn command) after := by
  cases obeys with
  | subscribe subscribes => exact subscribes.exchanges
  | share shares => exact shares.exchanges
  | start undertakes => exact undertakes.exchanges
  | abortRead reading =>
    refine .of_driver .console ?_ ?_ ?_
    · intro other apart
      cases other <;> first | rfl | exact absurd rfl apart
    · intro order member
      rw [List.mem_singleton.mp member]
      rfl
    · intro lane _
      simp [ordersOf, reading, ordered, withdrawn]
  | @armAlarm _ ticks timer here =>
    exact .alarm (some { timer with expiration := some (board.clock + ticks.toNat) })
      (Alarms.lt_length_of_timer? here)
  | @cancelAlarm _ timer here =>
    exact .alarm (some { timer with expiration := none }) (Alarms.lt_length_of_timer? here)
  | allocateAlarm => exact .quiet_alarms (Alarms.jobs_allocate _)
  | @freeAlarm place apart =>
    have armed : board.withdrawn (.freeAlarm place) =
        (Alarms.jobOf place (board.alarms.timer? place)).map .timed := if_neg apart
    rw [armed]
    by_cases bound : place < board.alarms.places.length
    · exact .alarm none bound
    · have absent : board.alarms.timer? place = none := by
        rw [Alarms.timer?, List.getElem?_eq_none (Nat.le_of_not_lt bound)]
        rfl
      rw [absent]
      exact .quiet_alarms (Alarms.jobs_setTimer (by rw [absent]))
  | perform => exact .perform sound _
  | keepAlarm | readButton | refuseValue | peekValue | ask => exact .quiet fun source => rfl
  | chooseAlgorithm | setInterrupt | setLight | print | putValue | setReadOnly =>
    exact .quiet fun source => by cases source <;> rfl

/-- Serving a job ends its order. -/
theorem Serves.exchanges (serves : board.Serves job after) (sound : board.Sound) :
    board.Exchanges [] [job.order] after := by
  cases serves with
  | @ring due place timer here expires =>
    have exchanges := Exchanges.alarm (some { timer with expiration := none })
      (Alarms.lt_length_of_timer? here)
    rw [here] at exchanges
    simp only [Alarms.jobOf, Option.bind_some, expires] at exchanges
    intro lane
    cases lane <;> exact exchanges _
  | @turn due button pressed rest queued =>
    refine .of_driver .buttons ?_ ?_ ?_
    · intro other apart
      cases other <;> first | rfl | exact absurd rfl apart
    · intro order member
      rw [List.mem_singleton.mp member]
      rfl
    · intro lane _
      simp only [ordersOf, jobsOf, Buttons.jobs, queued]
      simp [settledAt, record, discharge, Transition.job, Job.order]
  | receive received =>
    have reading := sound.console.awaited (by rw [received]; rfl)
    refine .finish .console rfl ?_ (if_pos reading) rfl
    intro other apart
    cases other <;> first | rfl | exact absurd rfl apart
  | digest running =>
    refine .finish .macUnit rfl ?_ (by simp [ordersOf, jobsOf, MacUnit.jobs, running, Job.order]) rfl
    intro other apart
    cases other <;> first | rfl | exact absurd rfl apart
  | typing present busy =>
    refine .finish .keyboard rfl ?_
      (by simp [ordersOf, jobsOf, present, Keyboard.jobs, busy, Job.order]) rfl
    intro other apart
    cases other <;> first | rfl | exact absurd rfl apart
  | access pending =>
    refine .finish .keyValue rfl ?_
      (by simp [ordersOf, jobsOf, KeyValue.jobs, pending, Job.order]) ?_
    · intro other apart
      cases other <;> first | rfl | exact absurd rfl apart
    · simp [ordersOf, jobsOf, KeyValue.jobs, settledAt, record, discharge,
        KeyValue.service_pending]

/-- The subscriber of an alarm that fires hears the tick it was due at, twice. -/
theorem Serves.calls_of_ring (serves : board.Serves job after) {place : Nat}
    (ring : job.task = .ring place) : ∃ subscriber,
      after.calls = (Subscriber.call? subscriber job.due job.due).toList ++ board.calls := by
  cases serves <;> cases ring
  exact ⟨_, rfl⟩

/-- The orders that come in by a stimulus: the transitions of a gesture. A read that is fed a byte
has been accepted before. -/
def stimulusOrders (board : Board) : List Order :=
  if board.jobs = [] ∧ board.console.reading = false then
    (((takeGesture board.console.input).1.map fun gesture => gesture.jobs board.clock).getD []).map
      .timed
  else []

/-- A stimulus takes on the transitions of the gesture that it finds, if it finds one. -/
theorem Sound.exchanges_stimulated (sound : board.Sound) :
    board.Exchanges board.stimulusOrders [] board.stimulated := by
  unfold Board.stimulated stimulusOrders
  by_cases idle : board.jobs = []
  · have stimulates := stimulates_stimulate idle
    rw [if_pos idle]
    generalize board.stimulate.1 = found, board.stimulate.2 = after at *
    cases stimulates with
    | feed reading input =>
      rw [if_neg (by simp [reading])]
      exact .quiet fun source => by cases source <;> rfl
    | starve reading input =>
      rw [if_neg (by simp [reading])]
      exact .quiet fun source => rfl
    | gesture reading taken =>
      rw [if_pos ⟨idle, reading⟩, taken]
      have exchanges := Exchanges.perform sound (by assumption)
      intro lane
      have here := exchanges lane
      cases lane <;> exact here
    | rest reading taken =>
      rw [if_pos ⟨idle, reading⟩, taken]
      exact .quiet fun source => by cases source <;> rfl
  · rw [if_neg idle, if_neg fun h => idle h.1]
    exact .quiet fun source => rfl

end Board

/-- What happens to a board from outside. -/
inductive Event
  | command (command : Command Subscriber Nat)
  | yield
  deriving Repr

/-- How an order ended. -/
inductive Ending
  | served (tick : Nat)
  | withdrawn
  deriving DecidableEq, Repr

/-- A board with its books. -/
structure Course where
  board : Board
  /-- The orders that were accepted, oldest first. -/
  accepted : List Order
  /-- The orders that have ended and how, oldest first. -/
  ended : List (Order × Ending)

namespace Course

/-- The books of a board that has just been switched on. -/
def initial (store : Store) (input : Bytes) (buttons : Nat) (hasKeyboard : Bool) : Course :=
  ⟨.initial store input buttons hasKeyboard, [], []⟩

/-- A command that is refused is not entered in the books. -/
def command (course : Course) (command : Command Subscriber Nat) : Course :=
  match course.board.obey command with
  | .ok (_, board) =>
    { board := board
      accepted := course.accepted ++ course.board.ordered command
      ended := course.ended ++ (course.board.withdrawn command).map fun order => (order, .withdrawn) }
  | .error _ => course

/-- The job that a yield serves: the first of those that are due first. -/
def served? (course : Course) : Option Job :=
  (earliest? (course.board.stimulated.jobs.map fun job => (job.due, job))).map Prod.snd

/-- A yield enters the order of the job that it serves as ended. -/
def yield (course : Course) : Course :=
  let after := course.board.yield.2
  { board := after
    accepted := course.accepted ++ course.board.stimulusOrders
    ended := course.ended ++ course.served?.toList.map fun job => (job.order, .served after.clock) }

/-- The books after an event. -/
def step (course : Course) : Event → Course
  | .command command => course.command command
  | .yield => course.yield

/-- The books after a sequence of events. -/
def run (course : Course) (events : List Event) : Course := events.foldl step course

/-- On each lane the accepted orders are those that have ended, followed by the outstanding ones. -/
def Balanced (accepted ended : List Order) (board : Board) : Prop :=
  ∀ lane : Lane, onLane lane accepted =
    onLane lane ended ++ onLane lane (board.ordersOf lane.source)

/-- Balanced books stay balanced when orders are taken on and others come to their end. -/
theorem Balanced.exchange {accepted ended taken gone : List Order} {board after : Board}
    (balanced : Balanced accepted ended board) (exchanges : board.Exchanges taken gone after) :
    Balanced (accepted ++ taken) (ended ++ gone) after := by
  intro lane
  have here := exchanges lane
  simp only [onLane_append] at here ⊢
  rw [balanced, List.append_assoc, List.append_assoc, here]

/-- What holds of the books after every event: the board is sound and supplied, the books are
balanced, and what has been served was due just then. -/
structure Lawful (course : Course) : Prop where
  sound : course.board.Sound
  supplied : course.board.charge = none
  balanced : Balanced course.accepted (course.ended.map Prod.fst) course.board
  punctual : ∀ job tick, (.timed job, .served tick) ∈ course.ended → job.due = tick

/-- The books of a board that has just been switched on are lawful. -/
theorem Lawful.initial (store : Store) (input : Bytes) (buttons : Nat) (hasKeyboard : Bool) :
    (Course.initial store input buttons hasKeyboard).Lawful where
  sound := .initial store input buttons hasKeyboard
  supplied := rfl
  balanced := by
    intro lane
    cases lane <;> first | rfl | (cases hasKeyboard <;> rfl)
  punctual := by simp [Course.initial]

/-- A command leaves the books lawful. -/
theorem Lawful.command {course : Course} (lawful : course.Lawful)
    (command : Command Subscriber Nat) : (course.command command).Lawful := by
  unfold Course.command
  cases obeyed : course.board.obey command with
  | error => exact lawful
  | ok result =>
    obtain ⟨answer, after⟩ := result
    have obeys := Board.obeys_of_ok obeyed
    refine ⟨obeys.sound lawful.sound, ?_, ?_, ?_⟩
    · rw [obeys.steady.charge, lawful.supplied]
    · have balanced := lawful.balanced.exchange (obeys.exchanges lawful.sound)
      simpa [List.map_map, Function.comp_def] using balanced
    · intro job tick member
      rcases List.mem_append.mp member with old | new
      · exact lawful.punctual job tick old
      · obtain ⟨order, _, same⟩ := List.mem_map.mp new
        cases same

/-- An entry that comes after later ones only, and before none that is earlier, is chosen. -/
theorem earliest?_of_split {α : Type} {before after : List (Nat × α)} {found : Nat × α}
    (strict : ∀ other ∈ before, found.1 < other.1) (weak : ∀ other ∈ after, found.1 ≤ other.1) :
    earliest? (before ++ found :: after) = some found := by
  induction before with
  | nil =>
    simp only [List.nil_append, earliest?]
    cases later : earliest? after with
    | none => rfl
    | some other =>
      have := weak other (mem_of_earliest?_eq_some later)
      exact if_neg (by omega)
  | cons first rest ih =>
    have here := ih fun other member => strict other (List.mem_cons_of_mem _ member)
    simp only [List.cons_append, earliest?, here]
    exact if_pos (strict first List.mem_cons_self)

/-- The job that comes first is the one that is chosen. -/
theorem earliest?_of_taken {job : Job} {jobs rest : List Job} (taken : JobTaken job jobs rest) :
    earliest? (jobs.map fun job => (job.due, job)) = some (job.due, job) := by
  obtain ⟨before, after, split, _, strict, weak⟩ := taken
  rw [split, List.map_append, List.map_cons]
  apply earliest?_of_split
  · intro other member
    obtain ⟨one, inside, rfl⟩ := List.mem_map.mp member
    exact strict one inside
  · intro other member
    obtain ⟨one, inside, rfl⟩ := List.mem_map.mp member
    exact weak one inside

/-- The books know which job is served. -/
theorem served?_of_taken {course : Course} {job : Job} {rest : List Job}
    (taken : JobTaken job course.board.stimulated.jobs rest) : course.served? = some job := by
  rw [served?, earliest?_of_taken taken]
  rfl

/-- A yield leaves the books lawful. -/
theorem Lawful.yield {course : Course} (lawful : course.Lawful) : course.yield.Lawful := by
  have supplied : course.board.charge ≠ some 0 := by rw [lawful.supplied]; simp
  have stimulated := lawful.balanced.exchange lawful.sound.exchanges_stimulated
  have charge : course.board.stimulated.charge = none :=
    course.board.steady_stimulated.charge.trans lawful.supplied
  rcases lawful.sound.yield supplied with
    ⟨job, after, yielded, serves, taken, sound⟩ | ⟨yielded, _, idle, sound⟩
  · have exchanges := serves.exchanges lawful.sound.stimulated
    have here : course.yield = ⟨after, course.accepted ++ course.board.stimulusOrders,
        course.ended ++ [(job.order, .served after.clock)]⟩ := by
      rw [Course.yield, yielded, served?_of_taken taken]
      rfl
    rw [here]
    refine ⟨sound, by rw [serves.charge_eq, charge]; rfl, ?_, ?_⟩
    · have balanced := stimulated.exchange exchanges
      simpa using balanced
    · intro other tick member
      rcases List.mem_append.mp member with old | new
      · exact lawful.punctual other tick old
      · obtain ⟨same, ended⟩ := Prod.mk.inj (List.mem_singleton.mp new)
        cases ended
        rw [Job.eq_of_order same.symm, serves.clock_eq]
  · have here : course.yield = ⟨course.board.stimulated,
        course.accepted ++ course.board.stimulusOrders, course.ended⟩ := by
      rw [Course.yield, yielded, served?, idle]
      simp [earliest?]
    rw [here]
    exact ⟨sound, charge, by simpa using stimulated, lawful.punctual⟩

/-- Whatever happens to a board leaves its books lawful. -/
theorem Lawful.step {course : Course} (lawful : course.Lawful) (event : Event) :
    (course.step event).Lawful := by
  cases event with
  | command command => exact lawful.command command
  | yield => exact lawful.yield

/-- Any sequence of events leaves a lawful course. -/
theorem Lawful.run {course : Course} (lawful : course.Lawful) (events : List Event) :
    (course.run events).Lawful := by
  induction events generalizing course with
  | nil => exact lawful
  | cons event rest ih => exact ih (lawful.step event)

/-- A yield serves the first of the jobs at the tick it is due, or else there are none. -/
theorem Lawful.yields {course : Course} (lawful : course.Lawful) :
    (∃ job, course.board.yield = (.serviced, course.yield.board) ∧
      course.board.stimulated.Serves job course.yield.board ∧
      JobTaken job course.board.stimulated.jobs course.yield.board.jobs ∧
      course.yield.ended = course.ended ++ [(job.order, .served job.due)]) ∨
    course.board.yield = (.idle, course.yield.board) ∧ course.board.jobs = [] ∧
      course.yield.board = course.board.stimulated ∧ course.board.stimulated.jobs = [] := by
  have supplied : course.board.charge ≠ some 0 := by rw [lawful.supplied]; simp
  rcases lawful.sound.yield supplied with
    ⟨job, after, yielded, serves, taken, sound⟩ | ⟨yielded, none, idle, sound⟩
  · refine .inl ⟨job, ?_⟩
    rw [Course.yield, yielded, served?_of_taken taken]
    exact ⟨rfl, serves, taken, by rw [serves.clock_eq]; rfl⟩
  · refine .inr ?_
    rw [Course.yield, yielded]
    exact ⟨rfl, none, rfl, idle⟩

/-- The clock never goes back. -/
theorem Lawful.clock_le_step {course : Course} (lawful : course.Lawful) (event : Event) :
    course.board.clock ≤ (course.step event).board.clock := by
  cases event with
  | command command =>
    cases obeyed : course.board.obey command with
    | error => simp [Course.step, Course.command, obeyed]
    | ok result => simp [Course.step, Course.command, obeyed, (Board.obeys_of_ok obeyed).steady.clock]
  | yield =>
    have steady := course.board.steady_stimulated.clock
    change course.board.clock ≤ course.yield.board.clock
    rcases lawful.yields with ⟨job, _, serves, taken, _⟩ | ⟨_, _, same, _⟩
    · have early := lawful.sound.stimulated.clock_le taken.mem
      rw [serves.clock_eq]
      omega
    · exact Nat.le_of_eq (by rw [same, steady])

/-- The clock never goes back. -/
theorem Lawful.clock_le_run {course : Course} (lawful : course.Lawful) (events : List Event) :
    course.board.clock ≤ (course.run events).board.clock := by
  induction events generalizing course with
  | nil => exact Nat.le_refl _
  | cons event rest ih => exact Nat.le_trans (lawful.clock_le_step event) (ih (lawful.step event))

/-- As many yields as there are jobs serve them all. -/
theorem Lawful.jobs_run_yields {course : Course} (lawful : course.Lawful) :
    (course.run (List.replicate course.board.jobs.length .yield)).board.jobs = [] := by
  generalize count : course.board.jobs.length = length
  induction length generalizing course with
  | zero => exact List.length_eq_zero_iff.mp count
  | succ length ih =>
    have busy : course.board.jobs ≠ [] := by
      intro none
      simp [none] at count
    rcases lawful.yields with ⟨job, _, _, taken, _⟩ | ⟨_, none, _⟩
    · have fewer := taken.length
      rw [Board.stimulated_of_jobs busy] at fewer
      have left : course.yield.board.jobs.length = length := by omega
      exact ih lawful.yield left
    · exact absurd none busy

/-- A yield that finds no job serves the pending read, if there is input for it. -/
theorem Lawful.serves_read {course : Course} (lawful : course.Lawful)
    (idle : course.board.jobs = []) (reading : course.board.console.reading = true)
    (input : course.board.console.input ≠ []) :
    (course.step .yield).ended = course.ended ++ [(.read, .served course.board.clock)] := by
  have brought : course.board.stimulated.jobs = [⟨course.board.clock, .receive⟩] := by
    rw [Board.stimulated, if_pos idle]
    have stimulates := Board.stimulates_stimulate idle
    have jobs := stimulates.jobs_eq idle
    generalize course.board.stimulate.1 = found, course.board.stimulate.2 = after at *
    cases stimulates with
    | feed => simpa [reading] using jobs
    | starve _ none => exact absurd none input
    | gesture other | rest other => rw [reading] at other; cases other
  rcases lawful.yields with ⟨job, _, _, taken, ended⟩ | ⟨_, _, _, none⟩
  · have member := taken.mem
    rw [brought] at member
    have same := List.mem_singleton.mp member
    subst same
    exact ended
  · rw [brought] at none
    cases none

end Course

/-- Every order on a driver's list is on a lane of that driver. -/
theorem Board.source_of_mem_ordersOf {board : Board} {source : Source} {order : Order}
    (member : order ∈ board.ordersOf source) : order.lane.source = source := by
  cases source with
  | alarms =>
    obtain ⟨job, inside, rfl⟩ := List.mem_map.mp member
    obtain ⟨place, task, _⟩ := Alarms.mem_jobs.mp inside
    rw [Order.lane, job.source_lane, task]
    rfl
  | buttons =>
    obtain ⟨job, inside, rfl⟩ := List.mem_map.mp member
    obtain ⟨transition, _, rfl⟩ := List.mem_map.mp inside
    rfl
  | console =>
    by_cases reading : board.console.reading = true
    · rw [ordersOf, if_pos reading] at member
      rw [List.mem_singleton.mp member]
      rfl
    · rw [ordersOf, if_neg reading] at member
      cases member
  | macUnit =>
    obtain ⟨job, inside, rfl⟩ := List.mem_map.mp member
    obtain ⟨due, _, rfl⟩ := List.mem_map.mp inside
    rfl
  | keyboard =>
    obtain ⟨job, inside, rfl⟩ := List.mem_map.mp member
    cases present : board.keyboard with
    | none => simp [jobsOf, present] at inside
    | some keyboard =>
      simp only [jobsOf, present, Option.map_some, Option.getD_some] at inside
      obtain ⟨due, _, rfl⟩ := List.mem_map.mp inside
      rfl
  | keyValue =>
    obtain ⟨job, inside, rfl⟩ := List.mem_map.mp member
    obtain ⟨⟨due, access⟩, _, rfl⟩ := List.mem_map.mp inside
    rfl

/-- The outstanding orders on a lane are those of its driver on it. -/
theorem Board.onLane_orders (board : Board) (lane : Lane) :
    onLane lane board.orders = onLane lane (board.ordersOf lane.source) := by
  obtain ⟨front, back, whole, notFront, notBack⟩ := lane.source.split
  have none : ∀ sources : List Source, lane.source ∉ sources →
      onLane lane (sources.flatMap board.ordersOf) = [] := by
    intro sources absent
    refine onLane_eq_nil fun order member same => absent ?_
    obtain ⟨source, among, member⟩ := List.mem_flatMap.mp member
    rw [← same, source_of_mem_ordersOf member]
    exact among
  rw [orders, whole, List.flatMap_append, List.flatMap_cons, onLane_append, onLane_append,
    none front notFront, none back notBack, List.nil_append, List.append_nil]

/-- The law of the schedule, for all sequences of commands, accepted or refused, and yields. -/
theorem schedule_lawful (store : Store) (input : Bytes) (buttons : Nat) (hasKeyboard : Bool)
    (events : List Event) :
    let course := (Course.initial store input buttons hasKeyboard).run events
    let board := course.board
    -- No job is overdue, and the clock never goes back.
    (∀ job ∈ board.jobs, board.clock ≤ job.due) ∧
    (∀ more, board.clock ≤ (course.run more).board.clock) ∧
    -- A yield serves the first of the jobs at the tick it is due, and looks for a stimulus only
    -- if there are none. An alarm that fires hears that tick twice.
    (board.jobs ≠ [] → board.stimulated = board) ∧
    ((∃ job after, board.yield = (.serviced, after) ∧ board.stimulated.Serves job after ∧
        JobTaken job board.stimulated.jobs after.jobs ∧ after.clock = job.due ∧
        ∀ place, job.task = .ring place → ∃ subscriber,
          after.calls = (Subscriber.call? subscriber job.due job.due).toList ++ board.calls) ∨
      board.yield = (.idle, board.stimulated) ∧ board.stimulated.jobs = []) ∧
    -- On each lane the accepted orders have ended once, or are outstanding, in the same order.
    -- What was served was served when it was due.
    (∀ lane, onLane lane course.accepted =
      onLane lane (course.ended.map Prod.fst) ++ onLane lane board.orders) ∧
    (∀ job tick, (.timed job, .served tick) ∈ course.ended → job.due = tick) ∧
    -- Yields alone serve all jobs, and then a read while there is input.
    (course.run (List.replicate board.jobs.length .yield)).board.jobs = [] ∧
    (board.jobs = [] → board.console.reading = true → board.console.input ≠ [] →
      (course.step .yield).ended = course.ended ++ [(.read, .served board.clock)]) := by
  intro course board
  have lawful : course.Lawful := (Course.Lawful.initial store input buttons hasKeyboard).run events
  refine ⟨fun job member => lawful.sound.clock_le member, fun more => lawful.clock_le_run more,
    fun busy => board.stimulated_of_jobs busy, ?_, ?_, lawful.punctual, lawful.jobs_run_yields, ?_⟩
  · rcases lawful.yields with ⟨job, yielded, serves, taken, _⟩ | ⟨yielded, _, same, idle⟩
    · refine .inl ⟨job, _, yielded, serves, taken, serves.clock_eq, ?_⟩
      intro place ring
      rw [← course.board.steady_stimulated.calls]
      exact serves.calls_of_ring ring
    · exact .inr ⟨by rw [← same]; exact yielded, idle⟩
  · intro lane
    rw [board.onLane_orders]
    exact lawful.balanced lane
  · exact lawful.serves_read

end OtpToken
