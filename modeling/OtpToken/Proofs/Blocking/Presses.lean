import OtpToken.Proofs.Blocking.Delay
import OtpToken.Proofs.Board.Turning
import OtpToken.Proofs.Script

/-!
# Presses from a script

A board is poised for a watch over its buttons when nothing but buttons are left to be
let go. Whoever waits for a press then lets these go first, and after that the next
gesture of the script that is on one of the buttons brings the press
(`Poised.nextEvent`). A press is over when the delay after it is, and a hold is not.
-/

namespace OtpToken

open Board Act

/-- The upcalls that a press is looked for in are those after the first `count`. -/
theorem Ticket.pressed?_cons {ticket : Ticket} {count : Nat} {calls : History}
    (old : count ≤ calls.length) (call : Call) :
    ticket.pressed? count (call :: calls) =
      if call.subscriber = .presses ticket ∧ call.arguments.second = 1
      then some call.arguments.first.toNat else ticket.pressed? count calls := by
  have recent : History.since count (call :: calls) = call :: History.since count calls := by
    rw [History.since, List.length_cons, Nat.succ_sub old, List.take_succ_cons, History.since]
  have test : (call.subscriber == .presses ticket && call.arguments.second == 1) =
      decide (call.subscriber = .presses ticket ∧ call.arguments.second = 1) :=
    (Bool.decide_and _ _).symm
  rw [pressed?, recent, List.find?_cons, test]
  by_cases own : call.subscriber = .presses ticket ∧ call.arguments.second = 1
  · rw [if_pos own, decide_eq_true own, Option.map_some]
  · rw [if_neg own, decide_eq_false own, pressed?]

/-- A watch hears of all of so many buttons, and all that is left to do is to let some of them go. -/
structure Poised (watch : ButtonWatch) (count : Nat) (board : Board) : Prop where
  rest : board.AtRest
  hears : board.buttons.subscriber = some (.presses watch.ticket)
  enabled : board.buttons.interrupts = .all count true
  settled : board.buttons.settled = .all count false
  releases : ∀ job ∈ board.jobs, ∃ button, job.task = .turn button false

variable {watch : ButtonWatch} {count before : Nat} {board mid after : Board}

/-- A board that goes on from a poised one is poised. -/
theorem Poised.continues (poised : Poised watch count board) (continues : board.Continues after) :
    Poised watch count after where
  rest := poised.rest.continues continues
  hears := continues.watched.trans poised.hears
  enabled := continues.interrupts.trans poised.enabled
  settled := continues.settled.trans poised.settled
  releases := fun job member => poised.releases job (continues.fewer job member)

/-- A service leaves a poised board. -/
theorem Poised.serves (poised : Poised watch count board) {job : Job}
    (serves : board.Serves job after) (taken : JobTaken job board.jobs after.jobs)
    (sound : after.Sound) : Poised watch count after where
  rest := (poised.rest.serves serves taken.mem sound).1
  hears := (serves.abides.hearer? (.turn 0 true)).trans poised.hears
  enabled := serves.abides.interrupts.trans poised.enabled
  settled := serves.abides.settled.trans poised.settled
  releases := fun job member => poised.releases job (taken.mem_of_mem_rest member)

/-- Buttons that are let go leave no trace. -/
theorem traces_of_turn {due button : Nat} {pressed : Bool}
    (serves : board.Serves ⟨due, .turn button pressed⟩ after) : after.traces = board.traces := by
  have same : ∀ source, source ≠ .buttons → board.SameAt after source :=
    fun source apart => serves.sameAt apart.symm
  exact traces_of_sameAt (same .console (by decide)) (same .keyboard (by decide))
    (same .keyValue (by decide))

/-- What is heard of a turn of a button. -/
theorem calls_of_turn {due button : Nat} {pressed : Bool}
    (serves : board.Serves ⟨due, .turn button pressed⟩ after) :
    after.calls = (if board.buttons.interrupts.get? button = some true then
        Subscriber.call? board.buttons.subscriber button pressed.toNat
      else none).toList ++ board.calls := by
  cases serves
  rfl

/-- No press has been heard of since there were `before` upcalls. -/
def Silent (watch : ButtonWatch) (before : Nat) (board : Board) : Prop :=
  before ≤ board.calls.length ∧ watch.ticket.pressed? before board.calls = none

/-- A button that is let go is no press. -/
theorem Silent.release (silent : Silent watch before board) {due button : Nat}
    (serves : board.Serves ⟨due, .turn button false⟩ after) : Silent watch before after := by
  obtain ⟨old, none⟩ := silent
  rw [Silent, calls_of_turn serves]
  split
  next =>
    cases board.buttons.subscriber with
    | none => exact ⟨old, none⟩
    | some subscriber =>
      refine ⟨Nat.le_succ_of_le old, ?_⟩
      rw [Subscriber.call?, Option.map_some, Option.toList_some, List.singleton_append,
        Ticket.pressed?_cons old, if_neg (by simp), none]
  next => exact ⟨old, none⟩

/-- Whoever waits for a press lets all buttons go first. -/
theorem Poised.drain (poised : Poised watch count board) (silent : Silent watch before board)
    (polls : Nat) :
    let condition : Condition := fun _ calls => (watch.ticket.pressed? before calls).isSome
    ∃ mid polls', Poised watch count mid ∧ Silent watch before mid ∧ mid.jobs = [] ∧
      mid.traces = board.traces ∧
      board.watch condition (fun _ => false) polls =
        mid.watch condition (fun _ => false) polls' := by
  intro condition
  let waiting : Board → Prop := fun mid =>
    Poised watch count mid ∧ Silent watch before mid ∧ mid.traces = board.traces
  have stays : ∀ {mid job after}, waiting mid → mid.Serves job after →
      JobTaken job mid.jobs after.jobs → after.Sound → waiting after := by
    rintro mid ⟨due, task⟩ after ⟨poised, silent, left⟩ serves taken sound
    obtain ⟨button, same⟩ := poised.releases _ taken.mem
    cases same
    exact ⟨poised.serves serves taken sound, silent.release serves,
      (traces_of_turn serves).trans left⟩
  obtain ⟨_, mid, polls', _, _, ⟨poisedMid, silentMid, left⟩, drained, goes⟩ :=
    @watch_drain board condition polls waiting poised.rest.ready.sound poised.rest.supplied
      ⟨poised, silent, rfl⟩ (fun mid _ ⟨_, silent, _⟩ => by simp [condition, silent.2]) stays
  exact ⟨mid, polls', poisedMid, silentMid, drained, left, goes⟩

/-- All buttons are up when none is left to be let go. -/
theorem Poised.buttons_eq (poised : Poised watch count board) (drained : board.jobs = []) :
    board.buttons = ⟨some (.presses watch.ticket), .all count false, .all count true, []⟩ := by
  have queue : board.buttons.queue = [] :=
    List.map_eq_nil_iff.mp (jobs_eq_nil_iff.mp drained .buttons)
  have settled := poised.settled
  have hears := poised.hears
  have enabled := poised.enabled
  generalize board.buttons = buttons at queue settled hears enabled
  obtain ⟨subscriber, pressed, interrupts, transitions⟩ := buttons
  cases queue
  cases hears
  cases enabled
  exact congrArg (fun row => (⟨_, row, _, _⟩ : Buttons)) settled

/-- The row of buttons while one of them is down, if there is such a button. -/
def downRow (count button : Nat) : Row :=
  ((Row.all count false).set? button true).getD (.all count false)

/-- In the row of one button that is down, that button is down and no other. -/
theorem get?_downRow {button : Nat} (inside : button < count) (other : Nat) :
    (downRow count button).get? other =
      if other < count then some (decide (other = button)) else none := by
  cases set : (Row.all count false).set? button true with
  | none => exact absurd (Row.set?_eq_none_iff.mp set) (Nat.not_le_of_lt inside)
  | some down =>
    rw [downRow, set, Option.getD_some, Row.get?_set? set, Row.get?_all]
    by_cases same : other = button
    · rw [if_pos same, same, if_pos inside, decide_eq_true rfl]
    · rw [if_neg same, decide_eq_false same]

/-- A button that goes down and up again is as it was. -/
theorem set?_downRow (count button : Nat) :
    ((downRow count button).set? button false).getD (downRow count button) = .all count false := by
  by_cases inside : button < count <;> simp [downRow, Row.set?, inside, Row.all, Row.insertOnce]

/-- A button has gone down, and is only to be let go again. -/
structure Pressed (watch : ButtonWatch) (count : Nat) (gesture : Gesture) (board : Board) : Prop where
  rest : board.AtRest
  jobs : board.jobs =
    [⟨board.clock + ticksOfMilliseconds gesture.milliseconds, .turn gesture.button false⟩]
  buttons : board.buttons = ⟨some (.presses watch.ticket), downRow count gesture.button,
    .all count true,
    [⟨board.clock + ticksOfMilliseconds gesture.milliseconds, gesture.button, false⟩]⟩

/-- When the press has been heard of, the board is poised again. -/
theorem Pressed.poised {gesture : Gesture} (pressed : Pressed watch count gesture board) :
    Poised watch count board where
  rest := pressed.rest
  hears := congrArg Buttons.subscriber pressed.buttons
  enabled := congrArg Buttons.interrupts pressed.buttons
  settled := (congrArg Buttons.settled pressed.buttons).trans (set?_downRow count gesture.button)
  releases := by
    intro job member
    rw [pressed.jobs, List.mem_singleton] at member
    exact ⟨gesture.button, congrArg Job.task member⟩

/-- The next gesture of the script has its button go down, and leaves it to be let go. -/
theorem Poised.yield_of_gesture (poised : Poised watch count board) (drained : board.jobs = [])
    {gesture : Gesture} {bytes : Bytes}
    (taken : takeGesture board.console.input = (some gesture, bytes)) :
    ∃ after, board.yield = (.serviced, after) ∧ Pressed watch count gesture after ∧
      after.traces = { board.traces with input := bytes } ∧
      after.calls = (if gesture.button < count then
        [⟨.presses watch.ticket, ⟨UInt32.ofNat gesture.button, 1, 0⟩⟩] else []) ++ board.calls := by
  have buttons := poised.buttons_eq drained
  have yielded := yield_pressing poised.rest.ready.sound drained poised.rest.supplied
    poised.rest.unread taken
  obtain ⟨_, _, same, _, rest, _⟩ := poised.rest.yield
  rw [yielded] at same
  cases same
  refine ⟨_, yielded, ⟨rest, ?_, ?_⟩, rfl, ?_⟩
  · rw [gesture.ticksOfMilliseconds_milliseconds]
    exact jobs_pressing drained gesture bytes
  · rw [gesture.ticksOfMilliseconds_milliseconds]
    simp only [pressing, buttons, downRow]
  · rw [pressing, buttons]
    by_cases inside : gesture.button < count <;> simp [inside, Subscriber.call?]

/-- A wait for a press ends with the next gesture of the script that is on one of the buttons, or it
never ends. -/
theorem Poised.watch_press (poised : Poised watch count board) (silent : Silent watch before board)
    {script : Script} (input : board.console.input = Bytes.ofChars script) (polls : Nat) :
    let waited := board.watch (fun _ calls => (watch.ticket.pressed? before calls).isSome)
      (fun _ => false) polls
    match script.nextGesture count with
    | none => waited.result = .error (.fault .halted) ∧ waited.board.jobs = [] ∧
        waited.board.traces = { board.traces with input := [] }
    | some (gesture, rest) => waited.result = .ok () ∧ Pressed watch count gesture waited.board ∧
        waited.board.traces = { board.traces with input := Bytes.ofChars rest } ∧
        watch.ticket.pressed? before waited.board.calls = some (gesture.button % UInt32.size) := by
  generalize length : script.length = bound
  induction bound using Nat.strongRecOn generalizing board script polls with
  | ind bound ih =>
    obtain ⟨mid, polls', poisedMid, silentMid, drained, left, goes⟩ := poised.drain silent polls
    have unmet : (watch.ticket.pressed? before mid.calls).isSome = false := by simp [silentMid.2]
    have same : mid.console.input = Bytes.ofChars script :=
      (congrArg Traces.input left).trans input
    rw [goes]
    rcases takeGesture_ofChars count script with
      ⟨taken, none⟩ | ⟨gesture, rest, taken, shorter, next⟩
    · rw [← same] at taken
      rw [watch_of_idle unmet rfl (yield_of_rest poisedMid.rest.ready.sound drained
        poisedMid.rest.supplied poisedMid.rest.unread taken), none]
      refine ⟨rfl, drained, ?_⟩
      rw [← left]
      rfl
    · rw [← same] at taken
      obtain ⟨after, yielded, pressed, leftAfter, calls⟩ := poisedMid.yield_of_gesture drained taken
      rw [watch_of_serviced unmet rfl yielded, next]
      have traces : after.traces = { board.traces with input := Bytes.ofChars rest } := by
        rw [leftAfter, left]
      by_cases inside : gesture.button < count
      · have heard : watch.ticket.pressed? before after.calls =
            some (gesture.button % UInt32.size) := by
          rw [calls, if_pos inside, List.singleton_append, Ticket.pressed?_cons silentMid.1,
            if_pos ⟨rfl, rfl⟩]
          rfl
        have holds : (watch.ticket.pressed? before after.calls).isSome = true := by simp [heard]
        rw [watch_of_holds holds, if_pos inside]
        exact ⟨rfl, pressed, traces, heard⟩
      · rw [if_neg inside] at calls ⊢
        have silentAfter : Silent watch before after := by
          rw [Silent, calls]
          exact silentMid
        have remaining : after.console.input = Bytes.ofChars rest := congrArg Traces.input traces
        have last := ih rest.length (length ▸ shorter) pressed.poised silentAfter remaining
          (polls' + 1) rfl
        rw [traces] at last
        exact last

/-- After the delay, a button that was pressed is up, and one that is held is still down. -/
theorem Pressed.classify {gesture : Gesture} (pressed : Pressed watch count gesture board)
    (inside : gesture.button < count) :
    ∃ after, BoardAct.delay ButtonWatch.debounceMilliseconds board = .ok () after ∧
      Poised watch count after ∧ after.traces = board.traces ∧
      after.buttons.read (gesture.button % UInt32.size) =
        .ok (decide (gesture.told.press = .long)) := by
  have whole : ticksFor tickFrequency ButtonWatch.debounceMilliseconds = .ok 16384 := by decide
  obtain ⟨after, delayed, continues, same, late, unmoved⟩ :=
    BoardAct.delay_eq pressed.rest whole
  have poised := pressed.poised.continues continues
  have heard : gesture.button % UInt32.size < count :=
    Nat.lt_of_le_of_lt (Nat.mod_le _ _) inside
  refine ⟨after, delayed, poised, same, ?_⟩
  rw [Buttons.read]
  cases gesture with
  | press button =>
    have still : after.jobs = [] := by
      refine List.eq_nil_iff_forall_not_mem.mpr fun job member => ?_
      have own := continues.fewer job member
      rw [pressed.jobs, List.mem_singleton] at own
      have overdue := late job member
      have brief : ticksOfMilliseconds 120 = 3932 := by decide
      rw [own, Gesture.milliseconds, brief] at overdue
      dsimp only at overdue
      omega
    rw [poised.buttons_eq still, Row.get?_all, if_pos heard]
    rfl
  | hold button =>
    have unmoved : after.buttons = board.buttons := by
      refine unmoved fun job member _ => ?_
      rw [pressed.jobs, List.mem_singleton] at member
      have long : ticksOfMilliseconds 1500 = 49152 := by decide
      rw [member, Gesture.milliseconds, long]
      dsimp only
      omega
    rw [unmoved, pressed.buttons, get?_downRow inside, if_pos heard]
    have found : (Gesture.hold button).button % UInt32.size = (Gesture.hold button).button ↔
        (Gesture.hold button).told.press = .long := by
      rw [Nat.mod_eq_iff_lt (by decide), Gesture.told]
      simp [Gesture.button]
    simp only [found]

/-- The next event is the next gesture of the script that is on one of the buttons. -/
theorem Poised.nextEvent (poised : Poised watch count board) {script : Script}
    (input : board.console.input = Bytes.ofChars script) :
    match script.nextGesture count with
    | none => ∃ after, watch.nextEvent board = .error (.fault .halted) after ∧ after.jobs = [] ∧
        after.traces = { board.traces with input := [] }
    | some (gesture, rest) => ∃ after, watch.nextEvent board = .ok gesture.told after ∧
        Poised watch count after ∧
        after.traces = { board.traces with input := Bytes.ofChars rest } := by
  have silent : Silent watch board.calls.length board := by
    refine ⟨Nat.le_refl _, ?_⟩
    simp [Ticket.pressed?, History.since]
  have waited := poised.watch_press silent input 0
  have pressed := watch.nextPress_eq board
  rw [waitUntil] at pressed
  generalize board.watch _ _ 0 = ended at waited pressed
  obtain ⟨result, polls, mid⟩ := ended
  cases next : script.nextGesture count with
  | none =>
    rw [next] at waited
    obtain ⟨rfl, still, left⟩ := waited
    exact ⟨mid, bind_of_error pressed, still, left⟩
  | some found =>
    obtain ⟨gesture, rest⟩ := found
    rw [next] at waited
    obtain ⟨rfl, down, left, heard⟩ := waited
    simp only [heard, Option.getD_some] at pressed
    obtain ⟨after, delayed, poisedAfter, same, read⟩ := down.classify (Script.nextGesture_lt next)
    refine ⟨after, ?_, poisedAfter, same.trans left⟩
    rw [ButtonWatch.nextEvent_of_pressed pressed delayed, read]
    cases gesture with
    | press button => rfl
    | hold button => by_cases below : button < UInt32.size <;> simp [Gesture.told, Gesture.button, below]

end OtpToken
