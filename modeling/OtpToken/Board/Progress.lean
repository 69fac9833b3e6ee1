import OtpToken.Board.Basic

/-!
# Progress

Every operation that a board serves uses something up: either an outstanding
operation, or bytes of the input, which turn into at most two operations each line.
The measure `workload` therefore falls with every yield that serves an operation,
and never rises with one that finds the board idle.
-/

namespace OtpToken

/-- Whether the alarm at a place is armed. -/
def Timer.isArmed (timer : Option Timer) : Bool := (timer.bind Timer.expiration).isSome

namespace Alarms

/-- The number of armed alarms. -/
def armedCount (alarms : Alarms) : Nat := alarms.places.countP Timer.isArmed

/-- The deadlines are those of the alarms that are armed, each with its place. -/
theorem mem_deadlines {alarms : Alarms} {expiration place : Nat} :
    (expiration, place) ∈ alarms.deadlines ↔
      ∃ timer, alarms.timer? place = some timer ∧ timer.expiration = some expiration := by
  simp only [deadlines, List.mem_filterMap, Prod.exists, List.mk_mem_zipIdx_iff_getElem?,
    Option.map_eq_some_iff, Prod.mk.injEq, timer?, Option.join_eq_some_iff]
  constructor
  · rintro ⟨entry, _, found, _, armed, rfl, rfl⟩
    obtain ⟨timer, rfl, expires⟩ := Option.bind_eq_some_iff.mp armed
    exact ⟨timer, found, expires⟩
  · rintro ⟨timer, found, expires⟩
    exact ⟨some timer, place, found, expiration, expires, rfl, rfl⟩

/-- An alarm stands at a place of the table. -/
theorem lt_length_of_timer? {alarms : Alarms} {place : Nat} {timer : Timer}
    (h : alarms.timer? place = some timer) : place < alarms.places.length := by
  simp only [timer?, Option.join_eq_some_iff] at h
  exact (List.getElem?_eq_some_iff.mp h).1

/-- The table holds an alarm at its place. -/
theorem getElem_of_timer? {alarms : Alarms} {place : Nat} {timer : Timer}
    (h : alarms.timer? place = some timer) (bound : place < alarms.places.length) :
    alarms.places[place] = some timer := by
  simp only [timer?, Option.join_eq_some_iff] at h
  exact (List.getElem?_eq_some_iff.mp h).2

/-- An alarm that is set differently changes the number of armed alarms by itself alone. -/
theorem armedCount_setTimer {alarms : Alarms} {place : Nat} {timer : Timer} (other : Option Timer)
    (h : alarms.timer? place = some timer) :
    (alarms.setTimer place other).armedCount + (Timer.isArmed (some timer)).toNat =
      alarms.armedCount + (Timer.isArmed other).toNat := by
  have bound := lt_length_of_timer? h
  have here := getElem_of_timer? h bound
  have counted : 0 < alarms.armedCount ∨ Timer.isArmed (some timer) = false := by
    cases armed : Timer.isArmed (some timer) with
    | false => exact .inr rfl
    | true =>
      refine .inl (List.countP_pos_iff.mpr ⟨some timer, ?_, armed⟩)
      exact here ▸ List.getElem_mem bound
  simp only [setTimer, armedCount] at counted ⊢
  rw [List.countP_set bound, here]
  generalize alarms.places.countP Timer.isArmed = count at counted ⊢
  cases armed : Timer.isArmed (some timer) <;> rw [armed] at counted <;>
    cases Timer.isArmed other <;> simp at counted ⊢ <;> omega

/-- When an alarm is due, one armed alarm less is left after it has fired. -/
theorem service_armedCount {alarms : Alarms} (now : Nat) (h : alarms.deadline.isSome) :
    (alarms.service now).1.armedCount + 1 = alarms.armedCount := by
  simp only [deadline, Option.isSome_map] at h
  obtain ⟨⟨expiration, place⟩, found⟩ := Option.isSome_iff_exists.mp h
  obtain ⟨timer, here, expires⟩ := mem_deadlines.mp (mem_of_earliest?_eq_some found)
  have counted := armedCount_setTimer (some { timer with expiration := none }) here
  have armed : Timer.isArmed (some timer) = true := by simp [Timer.isArmed, expires]
  have disarmed : Timer.isArmed (some { timer with expiration := none }) = false := rfl
  rw [armed, disarmed] at counted
  simpa [service, found, here] using counted

end Alarms

namespace Buttons

/-- A transition that is queued makes the queue longer by one. -/
theorem length_schedule (transition : Transition) (queue : List Transition) :
    (schedule transition queue).length = queue.length + 1 := by
  induction queue with
  | nil => rfl
  | cons first rest ih =>
    simp only [schedule]
    split <;> simp [ih]

/-- A gesture makes the queue longer by two. -/
theorem length_queue_perform (buttons : Buttons) (now : Nat) (gesture : Gesture) :
    (buttons.perform now gesture).queue.length = buttons.queue.length + 2 := by
  simp [perform, length_schedule]

/-- The first transition leaves the queue when it is served. -/
theorem service_queue {buttons served : Buttons} {call : Option Call}
    (h : buttons.service = .ok (served, call)) : served.queue = buttons.queue.drop 1 := by
  unfold service at h
  split at h
  next empty => cases h; simp [empty]
  next queued =>
    split at h
    · cases h; simp [queued]
    · split at h <;> cases h <;> simp [queued]

end Buttons

namespace Console

/-- A byte that is taken up leaves the console with none, and the input as it is. -/
theorem service_received {console served : Console} {call : Option Call}
    (h : console.service = .ok (served, call)) :
    served.received = none ∧ served.input = console.input := by
  unfold service at h
  split at h
  next none => cases h; exact ⟨none, rfl⟩
  next => split at h <;> cases h; exact ⟨rfl, rfl⟩

end Console

namespace MacUnit

/-- A run that completes leaves the unit idle. -/
theorem service_due {unit served : MacUnit} {call : Option Call}
    (h : unit.service = .ok (served, call)) : served.due = none := by
  unfold service at h
  split at h
  next idle => cases h; simpa using idle
  next => split at h <;> cases h; rfl

end MacUnit

namespace Keyboard

/-- A text that has been typed leaves the keyboard idle. -/
theorem service_due (keyboard : Keyboard) : keyboard.service.1.due = none := by
  unfold service
  split
  next idle => simpa using idle
  next => rfl

end Keyboard

namespace KeyValue

/-- An access that completes leaves the unit idle. -/
theorem service_pending (unit : KeyValue) : unit.service.1.pending = none := by
  unfold service
  split
  next none => exact none
  all_goals split <;> rfl

end KeyValue

/-- The bytes after the lines that were taken for gestures; there are fewer if a gesture was
found. -/
theorem takeGesture_length (bytes : Bytes) :
    (takeGesture bytes).2.length + ((takeGesture bytes).1.isSome).toNat ≤ bytes.length := by
  fun_induction takeGesture bytes with
  | case1 => simp
  | case2 byte bytes _ =>
    have := splitLine_rest_lt byte bytes
    simp only [Option.isSome_none, Bool.toNat_false]
    omega
  | case3 byte bytes _ _ _ _ =>
    have := splitLine_rest_lt byte bytes
    simp only [Option.isSome_some, Bool.toNat_true]
    omega
  | case4 byte bytes _ _ _ ih =>
    have := splitLine_rest_lt byte bytes
    omega

namespace Board

/-- The number of outstanding operations. -/
def outstanding (board : Board) : Nat :=
  board.alarms.armedCount + board.buttons.queue.length + board.console.received.isSome.toNat
    + board.macUnit.due.isSome.toNat + (board.keyboard.bind Keyboard.due).isSome.toNat
    + board.keyValue.pending.isSome.toNat

/-- What is left for a board to do: the outstanding operations, and those that the rest of the input
may still turn into. -/
def workload (board : Board) : Nat := 3 * board.console.input.length + board.outstanding

/-- The driver of a deadline has an operation outstanding that is due then. -/
theorem mem_deadlines {board : Board} {due : Nat} {source : Source} :
    (due, source) ∈ board.deadlines ↔
      match source with
      | .alarms => board.alarms.deadline = some due
      | .buttons => board.buttons.deadline = some due
      | .console => board.console.deadline = some due
      | .macUnit => board.macUnit.due = some due
      | .keyboard => board.keyboard.bind Keyboard.due = some due
      | .keyValue => board.keyValue.deadline = some due := by
  simp only [deadlines, List.mem_filterMap, List.mem_cons, List.not_mem_nil, or_false, Prod.exists,
    Option.map_eq_some_iff, Prod.mk.injEq]
  cases source <;> grind

/-- A driver that serves what is due leaves one operation less to do. -/
theorem service_workload {board served : Board} {due : Nat} {source : Source}
    (h : (due, source) ∈ board.deadlines) (ok : board.service source = .ok served) :
    served.workload + 1 = board.workload := by
  rw [mem_deadlines] at h
  cases source with
  | alarms =>
    have counted := Alarms.service_armedCount board.clock (by rw [h]; rfl)
    cases ok
    simp only [workload, outstanding, record]
    omega
  | buttons =>
    cases served_eq : board.buttons.service with
    | error trap => simp [service, served_eq, bind, Except.bind] at ok
    | ok result =>
      obtain ⟨buttons, call⟩ := result
      simp only [service, served_eq, bind, Except.bind] at ok
      cases ok
      have queue := Buttons.service_queue served_eq
      simp only [Buttons.deadline, Option.map_eq_some_iff] at h
      obtain ⟨first, found, _⟩ := h
      have : board.buttons.queue ≠ [] := by intro empty; simp [empty] at found
      have := List.length_pos_iff.mpr this
      simp only [workload, outstanding, record, queue, List.length_drop]
      omega
  | console =>
    cases served_eq : board.console.service with
    | error trap => simp [service, served_eq, bind, Except.bind] at ok
    | ok result =>
      obtain ⟨console, call⟩ := result
      simp only [service, served_eq, bind, Except.bind] at ok
      cases ok
      have after := Console.service_received served_eq
      have before : board.console.received.isSome = true := by
        simp only [Console.deadline, Option.map_eq_some_iff] at h
        obtain ⟨_, found, _⟩ := h
        rw [found]; rfl
      simp only [workload, outstanding, record, after, before, Option.isSome_none,
        Bool.toNat_false, Bool.toNat_true]
      omega
  | macUnit =>
    cases served_eq : board.macUnit.service with
    | error trap => simp [service, served_eq, bind, Except.bind] at ok
    | ok result =>
      obtain ⟨macUnit, call⟩ := result
      simp only [service, served_eq, bind, Except.bind] at ok
      cases ok
      simp only [workload, outstanding, record, MacUnit.service_due served_eq, h,
        Option.isSome_none, Option.isSome_some, Bool.toNat_false, Bool.toNat_true]
      omega
  | keyboard =>
    cases attached : board.keyboard with
    | none => simp [attached] at h
    | some keyboard =>
      simp only [service, attached] at ok
      cases ok
      simp only [attached, Option.bind_some] at h
      simp only [workload, outstanding, record, attached, Option.bind_some,
        Keyboard.service_due, h, Option.isSome_none, Option.isSome_some, Bool.toNat_false,
        Bool.toNat_true]
      omega
  | keyValue =>
    cases ok
    have before : board.keyValue.pending.isSome = true := by
      simp only [KeyValue.deadline, Option.map_eq_some_iff] at h
      obtain ⟨_, found, _⟩ := h
      rw [found]; rfl
    simp only [workload, outstanding, record, KeyValue.service_pending, before,
      Option.isSome_none, Bool.toNat_false, Bool.toNat_true]
    omega

/-- A board that completes what is due has one operation less to do. -/
theorem complete_workload {board served : Board} {due : Nat} {source : Source}
    (h : (due, source) ∈ board.deadlines) (ok : board.complete due source = (.serviced, served)) :
    served.workload + 1 = board.workload := by
  unfold complete at ok
  split at ok
  next after serviced =>
    cases ok
    have member : (due, source) ∈ (board.advanceTo due).deadlines := h
    have counted := service_workload member serviced
    exact counted
  next => cases ok

/-- A stimulus takes more from the input than it puts into the queue. -/
theorem stimulate_workload (board : Board) :
    (board.stimulate).2.workload + (board.stimulate).1.toNat ≤ board.workload := by
  unfold stimulate
  split
  next hungry =>
    have nothing : board.console.received.isSome = false := by
      simp only [Console.isHungry, Bool.and_eq_true] at hungry
      simpa using hungry.2
    split
    next console fed =>
      unfold Console.feed? at fed
      split at fed
      next => cases fed
      next byte rest input =>
        cases fed
        simp only [workload, outstanding, input, nothing, List.length_cons, Option.isSome_some,
          Bool.toNat_true, Bool.toNat_false]
        omega
    next => simp
  next =>
    have taken := takeGesture_length board.console.input
    split
    next gesture rest found =>
      simp only [found, Option.isSome_some, Bool.toNat_true] at taken
      simp only [workload, outstanding, Buttons.length_queue_perform, Bool.toNat_true]
      omega
    next rest found =>
      simp only [found, Option.isSome_none, Bool.toNat_false] at taken
      simp only [workload, outstanding, Bool.toNat_false]
      omega

/-- What is due next is one of the deadlines. -/
theorem nextDue?_mem {board : Board} {due : Nat} {source : Source}
    (h : board.nextDue? = some (due, source)) : (due, source) ∈ board.deadlines :=
  mem_of_earliest?_eq_some h

/-- Serving an operation leaves less to do. -/
theorem yield_workload_lt {board served : Board} (h : board.yield = (.serviced, served)) :
    served.workload < board.workload := by
  unfold yield at h
  split at h
  next => cases h
  next =>
    unfold serveNext at h
    split at h
    next due source next =>
      have := complete_workload (nextDue?_mem next) h
      omega
    next =>
      have bound := stimulate_workload board
      split at h
      next => cases h
      next stimulated found =>
        simp only [found] at bound
        split at h
        next due source next =>
          have := complete_workload (nextDue?_mem next) h
          omega
        next => cases h

/-- Finding a board idle leaves no more to do. -/
theorem yield_workload_le_of_idle {board after : Board} (h : board.yield = (.idle, after)) :
    after.workload ≤ board.workload := by
  have notServiced : ∀ {current : Board} {due : Nat} {source : Source},
      current.complete due source ≠ (.idle, after) := by
    intro current due source
    unfold complete
    split <;> simp
  unfold yield at h
  split at h
  next => cases h
  next =>
    unfold serveNext at h
    split at h
    next => exact absurd h notServiced
    next =>
      have bound := stimulate_workload board
      split at h
      next found => cases h; simp only [found] at bound; omega
      next found =>
        simp only [found] at bound
        split at h
        next => exact absurd h notServiced
        next => cases h; omega

end Board

end OtpToken
