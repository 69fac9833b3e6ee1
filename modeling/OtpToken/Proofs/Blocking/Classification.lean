import OtpToken.Proofs.Blocking.Listening

/-!
# Classifying presses on any board

A watch that listens to the buttons of a board (`Listens`) waits for the first press of a button that
exists: one that is queued, or else the first that the script brings when everything outstanding has
been served. Alarms may be armed meanwhile, drivers may be at work, and the transitions of several
buttons may overlap. The press is classified by the transitions that are due less than half a second
after it (`nextEvent_classified`). A button whose number takes more than 32 bits is told as another,
and its press is classified by that one (`nextEvent_told_apart`).
-/

namespace OtpToken

open Board Act

variable {watch : ButtonWatch} {board mid after : Board} {before : Nat}

/-- A wait for a press that has been heard of after the first so many upcalls. -/
abbrev ButtonWatch.heardSince (watch : ButtonWatch) (before : Nat) : Condition :=
  fun _ calls => (watch.ticket.pressed? before calls).isSome

/-- While the watch is silent, the wait for a press is not over. -/
theorem Silent.unmet (silent : Silent watch before board) (polls : Nat) :
    watch.heardSince before polls board.calls = false := by
  simp [ButtonWatch.heardSince, silent.2]

/-- A press has just been served, and the wait for it is over. -/
structure Struck (watch : ButtonWatch) (before : Nat) (row : Row) (input : Bytes)
    (first : Transition) (rest : List Transition) (pressed : Board) : Prop where
  listens : Listens watch pressed
  heard : watch.ticket.pressed? before pressed.calls = some (first.button % UInt32.size)
  clock : pressed.clock = first.due
  queue : pressed.buttons.queue = rest
  row : pressed.buttons.pressed = row
  input : pressed.console.input = input

/-- A wait on a board comes to an end with a press. -/
def Strikes (watch : ButtonWatch) (before polls : Nat) (board : Board) (row : Row) (input : Bytes)
    (first : Transition) (rest : List Transition) : Prop :=
  ∃ pressed polls', Struck watch before row input first rest pressed ∧
    board.watch (watch.heardSince before) (fun _ => false) polls = ⟨.ok (), polls', pressed⟩

/-- A wait that goes on as another does comes to the press that the other comes to. -/
theorem Strikes.of_eq {polls polls' : Nat} {row : Row} {input : Bytes} {first : Transition}
    {rest : List Transition}
    (onward : board.watch (watch.heardSince before) (fun _ => false) polls =
      mid.watch (watch.heardSince before) (fun _ => false) polls')
    (strikes : Strikes watch before polls' mid row input first rest) :
    Strikes watch before polls board row input first rest := by
  obtain ⟨pressed, last, struck, goes⟩ := strikes
  exact ⟨pressed, last, struck, onward.trans goes⟩

/-- A wait that has been told of a press is over at its next poll. -/
theorem Struck.strikes {polls : Nat} {row : Row} {input : Bytes} {first : Transition}
    {rest : List Transition} (struck : Struck watch before row input first rest board) :
    Strikes watch before polls board row input first rest := by
  have holds : watch.heardSince before polls board.calls = true := by
    simp [ButtonWatch.heardSince, struck.heard]
  exact ⟨board, polls + 1, struck, watch_of_holds holds⟩

/-- Everything outstanding has been served without a press. -/
structure Drained (watch : ButtonWatch) (before : Nat) (board mid : Board) : Prop where
  listens : Listens watch mid
  silent : Silent watch before mid
  idle : mid.jobs = []
  clock : mid.clock = board.latest
  row : mid.buttons.pressed = board.buttons.pressed.turnAll board.buttons.queue
  input : mid.console.input = board.console.input

/-- The first gesture on one of so many buttons, the tick at which it is made when the first gesture
of all is made at a given tick, and what follows it. Gestures on missing buttons take their time. -/
def Script.arrival (count clock : Nat) :
    List (Gesture × Script) → Option (Nat × Gesture × Script)
  | [] => none
  | (gesture, rest) :: later =>
    if gesture.button < count then some (clock, gesture, rest)
    else arrival count (clock + ticksOfMilliseconds gesture.milliseconds) later

namespace Listens

variable {first : Transition} {rest : List Transition} {gesture : Gesture} {bytes : Bytes}

/-- Whoever waits while a press is queued has it served. -/
theorem strikes_queued (listens : Listens watch board) (silent : Silent watch before board)
    (polls : Nat) {front : List Transition} (queue : board.buttons.queue = front ++ first :: rest)
    (others : ∀ transition ∈ front, ¬transition.IsPress board.buttons.count)
    (press : first.IsPress board.buttons.count) :
    Strikes watch before polls board (board.buttons.pressed.turnAll (front ++ [first]))
      board.console.input first rest := by
  -- Each yield serves one of the jobs that are there, since no stimulus comes while there are any.
  generalize number : board.jobs.length = length
  induction length generalizing board front polls with
  | zero =>
    have empty := queue_eq_nil (List.length_eq_zero_iff.mp number)
    simp [queue] at empty
  | succ length ih =>
    have busy : board.jobs ≠ [] := List.ne_nil_of_length_pos (by omega)
    rcases listens.live.sound.yield (by simp [listens.live.supplied]) with
      ⟨job, served, yielded, serves, taken, sound⟩ | ⟨_, none, _⟩
    · rw [stimulated_of_jobs busy] at serves taken
      obtain ⟨listensServed, count⟩ := listens.serves serves sound
      have fewer := taken.length
      have number : served.jobs.length = length := by omega
      rw [← count] at others press
      rw [← serves.abides.input]
      refine .of_eq (watch_of_serviced (silent.unmet polls) rfl yielded) ?_
      cases listens.overhears silent serves with
      | press queued told heard clock turned =>
        rw [queue] at queued
        cases front with
        | nil =>
          obtain ⟨rfl, rfl⟩ := List.cons.inj queued
          exact Struck.strikes ⟨listensServed, heard, clock, by rw [turned], by rw [turned]; rfl, rfl⟩
        | cons head front =>
          obtain ⟨rfl, -⟩ := List.cons.inj queued
          exact absurd (count ▸ told) (others _ List.mem_cons_self)
      | other queued other silentServed turned =>
        rw [queue] at queued
        cases front with
        | nil =>
          obtain ⟨rfl, -⟩ := List.cons.inj queued
          exact absurd (count ▸ press) other
        | cons head front =>
          obtain ⟨rfl, rfl⟩ := List.cons.inj queued
          have left : served.buttons.queue = front ++ first :: rest := by rw [turned]; rfl
          have row : served.buttons.pressed = board.buttons.pressed.turn head := by rw [turned]
          rw [List.cons_append, Row.turnAll_cons, ← row]
          exact ih listensServed silentServed (polls + 1) left
            (fun transition member => others transition (List.mem_cons_of_mem _ member)) press number
      | apart silentServed same =>
        rw [← same]
        exact ih listensServed silentServed (polls + 1) (same ▸ queue) others press number
    · exact absurd none busy

/-- Whoever waits while no press is queued has everything served. -/
theorem watch_drained (listens : Listens watch board) (silent : Silent watch before board)
    (polls : Nat)
    (others : ∀ transition ∈ board.buttons.queue, ¬transition.IsPress board.buttons.count) :
    ∃ mid polls', Drained watch before board mid ∧
      board.watch (watch.heardSince before) (fun _ => false) polls =
        mid.watch (watch.heardSince before) (fun _ => false) polls' := by
  let waiting : Board → Prop := fun mid => Listens watch mid ∧ Silent watch before mid ∧
    ∀ transition ∈ mid.buttons.queue, ¬transition.IsPress mid.buttons.count
  have stays : ∀ {mid job after}, waiting mid → mid.Serves job after →
      JobTaken job mid.jobs after.jobs → after.Sound → waiting after := by
    rintro mid job after ⟨listens, silent, others⟩ serves taken sound
    obtain ⟨listensAfter, count⟩ := listens.serves serves sound
    cases listens.overhears silent serves with
    | press queued press => exact absurd press (others _ (by rw [queued]; exact List.mem_cons_self))
    | other queued _ silentAfter turned =>
      refine ⟨listensAfter, silentAfter, fun transition member => ?_⟩
      rw [turned] at member
      rw [count]
      exact others transition (by rw [queued]; exact List.mem_cons_of_mem _ member)
    | apart silentAfter same => exact ⟨listensAfter, silentAfter, same ▸ others⟩
  obtain ⟨jobs, mid, polls', runs, sound, ⟨listensMid, silentMid, _⟩, idle, goes⟩ :=
    watch_drain polls listens.live.sound listens.live.supplied ⟨listens, silent, others⟩
      (fun _ polls waits => waits.2.1.unmet polls) stays
  refine ⟨mid, polls', ⟨listensMid, silentMid, idle, runs.clock_of_rest listens.live.sound idle, ?_,
    runs.abides.input⟩, goes⟩
  obtain ⟨turned, queue, moved, _⟩ := runs.turned
  rw [moved, queue, queue_eq_nil idle, List.append_nil]

/-- When nothing is left to do, the next gesture of the script is made. -/
theorem performed (listens : Listens watch board) (idle : board.jobs = []) (gesture : Gesture)
    (input : Bytes) : Listens watch (board.performed gesture input) :=
  ⟨⟨listens.live.sound.performed idle gesture input, listens.live.fresh, listens.live.supplied⟩,
    listens.hears, listens.alone, listens.enabled, listens.unread⟩

/-- With nothing left to do, the wait goes on as it would once the next gesture has been made. -/
theorem watch_performed (listens : Listens watch board) (silent : Silent watch before board)
    (idle : board.jobs = []) (taken : takeGesture board.console.input = (some gesture, bytes))
    (polls : Nat) :
    board.watch (watch.heardSince before) (fun _ => false) polls =
      (board.performed gesture bytes).watch (watch.heardSince before) (fun _ => false) polls := by
  have silentThen : Silent watch before (board.performed gesture bytes) := silent
  have same := yield_performed listens.live.sound idle listens.live.supplied listens.unread taken
  have live := (listens.performed idle gesture bytes).live
  rcases live.sound.yield (by simp [live.supplied]) with
    ⟨job, served, yielded, _⟩ | ⟨_, none, _⟩
  · rw [watch_of_serviced (silent.unmet polls) rfl (same.trans yielded),
      watch_of_serviced (silentThen.unmet polls) rfl yielded]
  · rw [jobs_performed idle] at none
    cases none

/-- A gesture on a missing button takes its time, and does nothing else. -/
theorem watch_missing (listens : Listens watch board) (silent : Silent watch before board)
    (idle : board.jobs = []) (taken : takeGesture board.console.input = (some gesture, bytes))
    (missing : board.buttons.count ≤ gesture.button) (polls : Nat) :
    ∃ mid polls', Drained watch before (board.performed gesture bytes) mid ∧
      mid.clock = board.clock + ticksOfMilliseconds gesture.milliseconds ∧
      mid.buttons.pressed = board.buttons.pressed ∧
      board.watch (watch.heardSince before) (fun _ => false) polls =
        mid.watch (watch.heardSince before) (fun _ => false) polls' := by
  have others : ∀ transition ∈ gesture.transitions board.clock,
      ¬transition.IsPress board.buttons.count := by
    rintro transition member ⟨down, inside⟩
    rcases List.mem_pair.mp member with rfl | rfl
    · exact absurd inside (Nat.not_lt.mpr missing)
    · cases down
  obtain ⟨mid, polls', drained, onward⟩ :=
    (listens.performed idle gesture bytes).watch_drained silent polls others
  have unturned : ∀ due pressed, board.buttons.pressed.turn ⟨due, gesture.button, pressed⟩ =
      board.buttons.pressed := fun _ _ => Row.turn_of_missing missing
  refine ⟨mid, polls', drained, drained.clock.trans (latest_performed idle ..),
    drained.row.trans ?_, (listens.watch_performed silent idle taken polls).trans onward⟩
  change (board.buttons.pressed.turn _).turn _ = _
  rw [unturned, unturned]

/-- A board that has nothing left to do waits for the first gesture of its script that is on a button
that exists. -/
theorem watch_script (listens : Listens watch board) (silent : Silent watch before board)
    (idle : board.jobs = []) {script : Script} (input : board.console.input = Bytes.ofChars script)
    (polls : Nat) :
    match Script.arrival board.buttons.count board.clock script.gestures with
    | none => ∃ polls' after, board.watch (watch.heardSince before) (fun _ => false) polls =
        ⟨.error (.fault .halted), polls', after⟩
    | some (tick, gesture, rest) =>
      Strikes watch before polls board (board.buttons.pressed.turn ⟨tick, gesture.button, true⟩)
        (Bytes.ofChars rest) ⟨tick, gesture.button, true⟩
        [⟨tick + ticksOfMilliseconds gesture.milliseconds, gesture.button, false⟩] := by
  -- A gesture on a missing button leaves a shorter script to a board that is idle again.
  generalize length : script.length = bound
  induction bound using Nat.strongRecOn generalizing board script polls with
  | ind bound ih =>
    rcases takeGesture_gestures script with ⟨taken, none⟩ | ⟨gesture, rest, taken, shorter, listed⟩
    · rw [none]
      exact ⟨_, _, watch_of_idle (silent.unmet polls) rfl (yield_of_rest listens.live.sound idle
        listens.live.supplied listens.unread (input ▸ taken))⟩
    · rw [← input] at taken
      rw [listed, Script.arrival]
      by_cases inside : gesture.button < board.buttons.count
      · rw [if_pos inside]
        exact .of_eq (listens.watch_performed silent idle taken polls)
          ((listens.performed idle gesture _).strikes_queued silent polls (List.nil_append _).symm
            (by simp) ⟨rfl, inside⟩)
      · rw [if_neg inside]
        obtain ⟨mid, polls', drained, late, unturned, onward⟩ :=
          listens.watch_missing silent idle taken (Nat.le_of_not_lt inside) polls
        have last := ih rest.length (length ▸ shorter) drained.listens drained.silent drained.idle
          drained.input polls' rfl
        rw [Buttons.count, unturned, late] at last
        rw [Buttons.count]
        generalize Script.arrival _ _ _ = arrives at last ⊢
        cases arrives with
        | none =>
          obtain ⟨_, after, halted⟩ := last
          exact ⟨_, after, onward.trans halted⟩
        | some found => exact .of_eq onward last

end Listens

/-- No gesture of a script arrives exactly if none of them is made on a button that exists. -/
theorem Script.arrival_eq_none_iff {count clock : Nat} {gestures : List (Gesture × Script)} :
    arrival count clock gestures = none ↔ ∀ found ∈ gestures, count ≤ found.1.button := by
  induction gestures generalizing clock with
  | nil => simp [arrival]
  | cons found later ih =>
    rw [arrival, List.forall_mem_cons]
    by_cases inside : found.1.button < count
    · simp [inside, Nat.not_le.mpr inside]
    · simp [inside, ih, Nat.le_of_not_lt inside]

/-- The gesture that arrives is on one of the buttons, and not early. -/
theorem Script.of_arrival {count clock tick : Nat} {gestures : List (Gesture × Script)}
    {gesture : Gesture} {rest : Script}
    (arrives : arrival count clock gestures = some (tick, gesture, rest)) :
    gesture.button < count ∧ clock ≤ tick := by
  induction gestures generalizing clock with
  | nil => cases arrives
  | cons found later ih =>
    rw [arrival] at arrives
    split at arrives
    next inside =>
      cases arrives
      exact ⟨inside, Nat.le_refl _⟩
    next =>
      obtain ⟨inside, early⟩ := ih arrives
      exact ⟨inside, Nat.le_trans (Nat.le_add_right _ _) early⟩

namespace Board

/-- What becomes of the buttons until a press has been heard of and what it leads to: the
transitions that are queued and, if none of them is a press, those of the first gesture of the
script on a button that exists, which is made when the others have been served; and what is left of
the script. -/
def ahead (board : Board) (script : Script) : List Transition × Script :=
  if board.buttons.queue.any (·.IsPress board.buttons.count) then (board.buttons.queue, script)
  else
    match Script.arrival board.buttons.count board.latest script.gestures with
    | some (tick, gesture, rest) => (board.buttons.queue ++ gesture.transitions tick, rest)
    | none => (board.buttons.queue, [])

/-- The press that is heard of next. -/
def nextPress? (board : Board) (script : Script) : Option Transition :=
  (board.ahead script).1.find? (·.IsPress board.buttons.count)

/-- The press that is heard of next is one of a button that exists. -/
theorem isPress_of_nextPress? {script : Script} {first : Transition}
    (next : board.nextPress? script = some first) : first.IsPress board.buttons.count := by
  simpa using List.find?_some next

/-- What is ahead is in order of time, and none of it is over. -/
theorem Sound.ahead (sound : board.Sound) (script : Script) :
    (board.ahead script).1.Pairwise (·.due ≤ ·.due) ∧
      ∀ transition ∈ (board.ahead script).1, board.clock ≤ transition.due := by
  have ordered := sound.buttons.ordered
  have punctual := sound.buttons.punctual
  unfold Board.ahead
  split
  · exact ⟨ordered, punctual⟩
  · split
    next tick gesture rest arrives =>
      have late := (Script.of_arrival arrives).2
      have queued : ∀ transition ∈ board.buttons.queue, transition.due ≤ tick := by
        intro transition member
        have own : transition.job ∈ board.jobs :=
          mem_jobs.mpr ⟨.buttons, List.mem_map_of_mem member⟩
        exact Nat.le_trans ((latest_le_iff.mp (Nat.le_refl _)).2 _ own) late
      have made : ∀ transition ∈ gesture.transitions tick, tick ≤ transition.due := by
        intro transition member
        rcases List.mem_pair.mp member with rfl | rfl
        · exact Nat.le_refl _
        · exact Nat.le_add_right _ _
      refine ⟨List.pairwise_append.mpr ⟨ordered, ?_, ?_⟩, ?_⟩
      · simp [Gesture.transitions]
      · exact fun first inside second among => Nat.le_trans (queued first inside) (made second among)
      · intro transition member
        rcases List.mem_append.mp member with inside | among
        · exact punctual transition inside
        · exact Nat.le_trans (Nat.le_trans board.clock_le_latest late) (made transition among)
    next => exact ⟨ordered, punctual⟩

/-- No press is heard of exactly if neither the queue nor the script has one of a button that
exists. -/
theorem nextPress?_eq_none_iff {script : Script} :
    board.nextPress? script = none ↔
      (∀ transition ∈ board.buttons.queue, ¬transition.IsPress board.buttons.count) ∧
        ∀ found ∈ script.gestures, board.buttons.count ≤ found.1.button := by
  rw [nextPress?, ahead, ← @Script.arrival_eq_none_iff _ board.latest, List.find?_eq_none]
  by_cases queued : board.buttons.queue.any (·.IsPress board.buttons.count)
  · rw [if_pos queued]
    obtain ⟨transition, member, press⟩ := List.any_eq_true.mp queued
    exact ⟨fun none => absurd press (none transition member),
      fun none => absurd (of_decide_eq_true press) (none.1 transition member)⟩
  · rw [if_neg queued]
    cases arrives : Script.arrival board.buttons.count board.latest script.gestures with
    | none => simp
    | some found =>
      obtain ⟨tick, gesture, rest⟩ := found
      have press : Transition.IsPress board.buttons.count ⟨tick, gesture.button, true⟩ :=
        ⟨rfl, (Script.of_arrival arrives).1⟩
      constructor
      · exact fun none => absurd (decide_eq_true press) (none _ (by simp [Gesture.transitions]))
      · rintro ⟨_, ⟨⟩⟩

end Board

variable {script : Script}

/-- When the wait has come to a press that has been heard of, that button is handed out. -/
theorem ButtonWatch.nextPress_of_ok {polls button : Nat}
    (goes : board.watch (watch.heardSince board.calls.length) (fun _ => false) 0 =
      ⟨.ok (), polls, mid⟩)
    (heard : watch.ticket.pressed? board.calls.length mid.calls = some button) :
    watch.nextPress board = .ok button mid := by
  rw [nextPress_eq, waitUntil, goes]
  simp [heard]

/-- A failure of the wait is passed on. -/
theorem ButtonWatch.nextPress_of_error {polls : Nat} {failure : Failure}
    (goes : board.watch (watch.heardSince board.calls.length) (fun _ => false) 0 =
      ⟨.error failure, polls, mid⟩) :
    watch.nextPress board = .error failure mid := by
  rw [nextPress_eq, waitUntil, goes]

/-- A watch waits for the press that is heard of next, if there is one. -/
theorem Listens.nextPress (listens : Listens watch board)
    (input : board.console.input = Bytes.ofChars script) :
    match board.nextPress? script with
    | none => ∃ after, watch.nextPress board = .error (.fault .halted) after
    | some first => ∃ front rest pressed, (board.ahead script).1 = front ++ first :: rest ∧
        watch.nextPress board = .ok (first.button % UInt32.size) pressed ∧
        Struck watch board.calls.length (board.buttons.pressed.turnAll (front ++ [first]))
          (Bytes.ofChars (board.ahead script).2) first rest pressed := by
  have silent : Silent watch board.calls.length board := by
    refine ⟨Nat.le_refl _, ?_⟩
    simp [Ticket.pressed?, History.since]
  rw [nextPress?, ahead]
  by_cases queued : board.buttons.queue.any (·.IsPress board.buttons.count)
  · rw [if_pos queued]
    cases found : board.buttons.queue.find? (·.IsPress board.buttons.count) with
    | none =>
      obtain ⟨transition, member, press⟩ := List.any_eq_true.mp queued
      exact absurd press (List.find?_eq_none.mp found transition member)
    | some first =>
      obtain ⟨press, front, rest, queue, others⟩ := List.find?_eq_some_iff_append.mp found
      obtain ⟨pressed, polls, struck, goes⟩ := listens.strikes_queued silent 0 queue
        (fun transition member => by simpa using others transition member) (of_decide_eq_true press)
      rw [input] at struck
      exact ⟨front, rest, pressed, queue, ButtonWatch.nextPress_of_ok goes struck.heard, struck⟩
  · rw [if_neg queued]
    have others : ∀ transition ∈ board.buttons.queue,
        ¬transition.IsPress board.buttons.count := by simpa using queued
    obtain ⟨mid, polls, drained, onward⟩ := listens.watch_drained silent 0 others
    have count : mid.buttons.count = board.buttons.count := by
      rw [Buttons.count, drained.row, Row.size_turnAll, Buttons.count]
    have brought := drained.listens.watch_script drained.silent drained.idle
      (drained.input.trans input) polls
    rw [count, drained.clock] at brought
    cases arrives : Script.arrival board.buttons.count board.latest script.gestures with
    | none =>
      rw [arrives] at brought
      obtain ⟨polls', after, goes⟩ := brought
      have none : board.buttons.queue.find? (·.IsPress board.buttons.count) = none := by
        simpa using queued
      simp only [none]
      exact ⟨after, ButtonWatch.nextPress_of_error (onward.trans goes)⟩
    | some found =>
      obtain ⟨tick, gesture, rest⟩ := found
      rw [arrives] at brought
      obtain ⟨pressed, polls', struck, goes⟩ := brought
      have press : Transition.IsPress board.buttons.count ⟨tick, gesture.button, true⟩ :=
        ⟨rfl, (Script.of_arrival arrives).1⟩
      have found : (board.buttons.queue ++ gesture.transitions tick).find?
          (·.IsPress board.buttons.count) = some ⟨tick, gesture.button, true⟩ :=
        List.find?_eq_some_iff_append.mpr ⟨decide_eq_true press, board.buttons.queue, _, rfl,
          fun transition member => by simpa using others transition member⟩
      have row : mid.buttons.pressed.turn ⟨tick, gesture.button, true⟩ =
          board.buttons.pressed.turnAll
            (board.buttons.queue ++ [⟨tick, gesture.button, true⟩]) := by
        rw [drained.row, Row.turnAll_append]
        rfl
      rw [row] at struck
      simp only [found]
      exact ⟨board.buttons.queue, _, pressed, rfl,
        ButtonWatch.nextPress_of_ok (onward.trans goes) struck.heard, struck⟩

/-- What comes of a press that a watch waits for: it is classified by how its button stands when
exactly the transitions that are due before the end of the delay have been served. What is left is
due later, and the watch goes on listening. -/
structure Classified (watch : ButtonWatch) (board : Board) (script : Script) (first : Transition)
    (event : ButtonEvent) (after : Board) : Prop where
  button : event.button = first.button % UInt32.size
  press : event.press = .long ↔ (board.buttons.pressed.turnAll ((board.ahead script).1.filter
    (·.due < first.due + 16384))).get? event.button = some true
  row : after.buttons.pressed = board.buttons.pressed.turnAll ((board.ahead script).1.filter
    (·.due < first.due + 16384))
  early : board.clock ≤ first.due
  clock : after.clock = first.due + 16384
  queue : after.buttons.queue = (board.ahead script).1.filter (first.due + 16384 ≤ ·.due)
  input : after.console.input = Bytes.ofChars (board.ahead script).2
  listens : Listens watch after

/-- A classified press is the only event that comes of it. -/
theorem Classified.event_eq {first : Transition} {event other : ButtonEvent} {left : Board}
    (classified : Classified watch board script first event after)
    (alike : Classified watch board script first other left) : event = other := by
  have same : event.button = other.button := classified.button.trans alike.button.symm
  have long : event.press = .long ↔ other.press = .long :=
    classified.press.trans (same ▸ alike.press.symm)
  obtain ⟨_, press⟩ := event
  obtain ⟨_, told⟩ := other
  cases same
  cases press <;> cases told <;> simp at long ⊢

/-- A press that is heard of next is waited for and classified. -/
theorem Listens.nextEvent (listens : Listens watch board)
    (input : board.console.input = Bytes.ofChars script) {first : Transition}
    (next : board.nextPress? script = some first) :
    ∃ event after, watch.nextEvent board = .ok event after ∧
      Classified watch board script first event after := by
  have waited := listens.nextPress input
  rw [next] at waited
  obtain ⟨front, rest, pressed, ahead, found, struck⟩ := waited
  have whole : ticksFor tickFrequency ButtonWatch.debounceMilliseconds = .ok 16384 := by decide
  obtain ⟨after, delayed, listensAfter, clock, left, queue, row⟩ := struck.listens.delay whole
  obtain ⟨ordered, punctual⟩ := listens.live.sound.ahead script
  rw [ahead] at ordered punctual
  have served : ∀ transition ∈ front ++ [first], transition.due < first.due + 16384 := by
    intro transition member
    have early : transition.due ≤ first.due := by
      rcases List.mem_append.mp member with member | member
      · exact (List.pairwise_append.mp ordered).2.2 transition member first List.mem_cons_self
      · exact Nat.le_of_eq (congrArg Transition.due (List.mem_singleton.mp member))
    omega
  have early : (board.ahead script).1.filter (·.due < first.due + 16384) =
      front ++ [first] ++ rest.filter (·.due < first.due + 16384) := by
    rw [ahead, List.append_cons, List.filter_append,
      List.filter_eq_self.mpr fun transition member => by simpa using served transition member]
  have late : (board.ahead script).1.filter (first.due + 16384 ≤ ·.due) =
      rest.filter (first.due + 16384 ≤ ·.due) := by
    rw [ahead, List.append_cons, List.filter_append,
      List.filter_eq_nil_iff.mpr fun transition member => by simpa using served transition member,
      List.nil_append]
  rw [struck.clock] at clock queue row
  rw [struck.queue] at queue row
  rw [struck.row, ← Row.turnAll_append, ← early] at row
  have inside : first.button % UInt32.size < after.buttons.pressed.size := by
    rw [row, Row.size_turnAll]
    exact Nat.lt_of_le_of_lt (Nat.mod_le _ _) (isPress_of_nextPress? next).2
  cases stands : after.buttons.pressed.get? (first.button % UInt32.size) with
  | none => exact absurd inside (Nat.not_lt.mpr (Row.get?_eq_none_iff.mp stands))
  | some isDown =>
    refine ⟨⟨first.button % UInt32.size, if isDown then .long else .short⟩, after, ?_,
      rfl, ?_, row, punctual first (by simp), clock, queue.trans late.symm, left.trans struck.input,
      listensAfter⟩
    · rw [ButtonWatch.nextEvent_of_pressed found delayed, Buttons.read, stands]
    · rw [← row, stands]
      cases isDown <;> simp

/-- There is no event exactly if there is no press. -/
theorem Listens.nextEvent_halted_iff (listens : Listens watch board)
    (input : board.console.input = Bytes.ofChars script) :
    (∃ after, watch.nextEvent board = .error (.fault .halted) after) ↔
      board.nextPress? script = none := by
  constructor
  · rintro ⟨_, halted⟩
    cases next : board.nextPress? script with
    | none => rfl
    | some first =>
      obtain ⟨_, _, goes, _⟩ := listens.nextEvent input next
      rw [goes] at halted
      cases halted
  · intro none
    have waited := listens.nextPress input
    rw [none] at waited
    obtain ⟨after, halted⟩ := waited
    exact ⟨after, bind_of_error halted⟩

/-- On every board that a watch listens to, whatever transitions are queued and alarms armed, the
next event is the classified press that is heard of next, and there is none exactly if neither the
queue nor the script has a press of a button that exists. The event is of the button that was pressed
exactly if the number of that button has 32 bits. The upcalls that have run before make no
difference to the event, and whatever a later call reports is due after all that was served until
then. -/
theorem nextEvent_classified (listens : Listens watch board)
    (input : board.console.input = Bytes.ofChars script) :
    ((∃ after, watch.nextEvent board = .error (.fault .halted) after) ↔
      board.nextPress? script = none) ∧
    (board.nextPress? script = none ↔
      (∀ transition ∈ board.buttons.queue, ¬transition.IsPress board.buttons.count) ∧
        ∀ found ∈ script.gestures, board.buttons.count ≤ found.1.button) ∧
    ∀ first, board.nextPress? script = some first → ∃ event after,
      watch.nextEvent board = .ok event after ∧
      Classified watch board script first event after ∧
      (event.button = first.button ↔ first.button < UInt32.size) ∧
      (∀ calls, ∃ alike, watch.nextEvent { board with calls := calls } = .ok event alike) ∧
      ∀ later text, Listens watch later → later.console.input = Bytes.ofChars text →
        after.clock ≤ later.clock →
        ∀ report final, watch.nextEvent later = .ok report final →
          ∃ press, Classified watch later text press report final ∧
            first.due + 16384 ≤ press.due := by
  refine ⟨listens.nextEvent_halted_iff input, nextPress?_eq_none_iff, fun first next => ?_⟩
  obtain ⟨event, after, goes, classified⟩ := listens.nextEvent input next
  refine ⟨event, after, goes, classified, ?_, fun calls => ?_, ?_⟩
  · rw [classified.button, Nat.mod_eq_iff_lt (by decide)]
  · have forgets : Listens watch { board with calls := calls } :=
      ⟨⟨{ listens.live.sound with }, listens.live.fresh, listens.live.supplied⟩, listens.hears,
        listens.alone, listens.enabled, listens.unread⟩
    obtain ⟨other, alike, goesAlike, told⟩ := forgets.nextEvent input next
    have same : Classified watch board script first other alike :=
      ⟨told.button, told.press, told.row, told.early, told.clock, told.queue, told.input,
        told.listens⟩
    exact ⟨alike, classified.event_eq same ▸ goesAlike⟩
  · intro later text listensLater left late report final reported
    cases next : later.nextPress? text with
    | none =>
      obtain ⟨_, halted⟩ := (listensLater.nextEvent_halted_iff left).mpr next
      rw [halted] at reported
      cases reported
    | some press =>
      obtain ⟨_, _, again, told⟩ := listensLater.nextEvent left next
      rw [again] at reported
      cases reported
      exact ⟨press, told, classified.clock ▸ Nat.le_trans late told.early⟩

/-- A board where a button is pressed and held at once, and a missing one before it, while an alarm is
armed for the tick at which the button is let go for the first time. -/
def overlapping : Board :=
  (initial .inMemory (Bytes.ofChars "hold 0\n".toList) 4 true).obeyAll [
    .subscribe (.alarm Alarms.defaultPlace) (some (.listener 1)),
    .armAlarm Alarms.defaultPlace 3932,
    .perform (.hold 9),
    .perform (.press 1),
    .perform (.hold 1)]

/-- The commands that are given in its definition lead to that board. -/
theorem reachable_overlapping : overlapping.Reachable :=
  Reachable.obeyAll (.initial ..) (by simp [Command.subscriber?])

/-- There the button is found up, although it was to be held. -/
theorem nextEvent_classified_overlapping :
    ButtonWatch.begin overlapping = .ok ⟨overlapping.drawTicket.1⟩ overlapping.attended ∧
    overlapping.attended.buttons.queue = [⟨0, 9, true⟩, ⟨0, 1, true⟩, ⟨0, 1, true⟩,
      ⟨3932, 1, false⟩, ⟨49152, 9, false⟩, ⟨49152, 1, false⟩] ∧
    Listens ⟨overlapping.drawTicket.1⟩ overlapping.attended ∧
    overlapping.attended.console.input = Bytes.ofChars "hold 0\n".toList ∧
    ∃ after, ButtonWatch.nextEvent ⟨overlapping.drawTicket.1⟩ overlapping.attended =
        .ok ⟨1, .short⟩ after ∧
      after.clock = 16384 ∧ after.buttons.queue = [⟨49152, 9, false⟩, ⟨49152, 1, false⟩] := by
  have listens := reachable_overlapping.live.listens (by decide)
  have input : overlapping.attended.console.input = Bytes.ofChars "hold 0\n".toList := by decide
  have next : overlapping.attended.nextPress? "hold 0\n".toList = some ⟨0, 1, true⟩ := by decide
  obtain ⟨⟨button, press⟩, after, goes, classified, _⟩ :=
    (nextEvent_classified listens input).2.2 _ next
  refine ⟨ButtonWatch.begin_attended overlapping, by decide, listens, input, after, ?_,
    classified.clock, classified.queue.trans (by decide)⟩
  have told : button = 1 := classified.button
  subst told
  have up : (overlapping.attended.buttons.pressed.turnAll
      ((overlapping.attended.ahead "hold 0\n".toList).1.filter (·.due < 16384))).get? 1 =
        some false := by decide
  cases press with
  | short => exact goes
  | long => exact absurd (up.symm.trans (classified.press.mp rfl)) (by decide)

/-- A board where a button is held whose number takes more than 32 bits. -/
def overcrowded : Board :=
  (initial .inMemory [] 4294967297 true).obeyAll [.perform (.hold 4294967296)]

/-- Holding its last button leads to that board. -/
theorem reachable_overcrowded : overcrowded.Reachable :=
  Reachable.obeyAll (.initial ..) (by simp [Command.subscriber?])

/-- There the hold is told as a short press of the first button, while the button itself is down. -/
theorem nextEvent_told_apart :
    ButtonWatch.begin overcrowded = .ok ⟨overcrowded.drawTicket.1⟩ overcrowded.attended ∧
    Listens ⟨overcrowded.drawTicket.1⟩ overcrowded.attended ∧
    overcrowded.attended.console.input = Bytes.ofChars [] ∧
    overcrowded.attended.nextPress? [] = some ⟨0, 4294967296, true⟩ ∧
    ∃ after, ButtonWatch.nextEvent ⟨overcrowded.drawTicket.1⟩ overcrowded.attended =
        .ok ⟨0, .short⟩ after ∧
      after.clock = 16384 ∧ after.buttons.read 4294967296 = .ok true := by
  have listens := reachable_overcrowded.live.listens (by decide)
  have input : overcrowded.attended.console.input = Bytes.ofChars [] := by decide
  have next : overcrowded.attended.nextPress? [] = some ⟨0, 4294967296, true⟩ := by decide
  obtain ⟨⟨button, press⟩, after, goes, classified⟩ := listens.nextEvent input next
  have told : button = 0 := classified.button
  subst told
  have up : (overcrowded.attended.buttons.pressed.turnAll
      ((overcrowded.attended.ahead []).1.filter (·.due < 16384))).get? 0 = some false := by decide
  have down : (overcrowded.attended.buttons.pressed.turnAll
      ((overcrowded.attended.ahead []).1.filter (·.due < 16384))).get? 4294967296 = some true := by
    decide
  refine ⟨ButtonWatch.begin_attended overcrowded, listens, input, next, after, ?_,
    classified.clock, ?_⟩
  · cases press with
    | short => exact goes
    | long => exact absurd (up.symm.trans (classified.press.mp rfl)) (by decide)
  · have stands : after.buttons.pressed.get? 4294967296 = some true :=
      (congrArg (Row.get? · 4294967296) classified.row).trans down
    rw [Buttons.read, stands]

end OtpToken
