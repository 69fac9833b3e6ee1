import OtpToken.Act.Settling
import OtpToken.Blocking.Calls

/-!
# Blocking calls settle

A blocking call starts at most one operation and does not return before it has
completed, so it leaves a board with no more to do than it found. Reading a
character leaves less, since it takes a byte of the input. This is what makes loops
over blocking calls end.
-/

namespace OtpToken

namespace Alarms

/-- With no deadline no alarm is armed. -/
theorem armedCount_eq_zero {alarms : Alarms} (h : alarms.deadline = none) :
    alarms.armedCount = 0 := by
  have none : alarms.deadlines = [] := by
    simpa [deadline, next?, earliest?_eq_none_iff] using h
  apply List.countP_eq_zero.mpr
  intro timer member
  obtain ⟨place, bound, rfl⟩ := List.getElem_of_mem member
  intro armed
  obtain ⟨expiration, expires⟩ := Option.isSome_iff_exists.mp armed
  obtain ⟨timer, found, expires⟩ := Option.bind_eq_some_iff.mp expires
  have member : (expiration, place) ∈ alarms.deadlines :=
    mem_deadlines.mpr ⟨timer, by rw [timer?, List.getElem?_eq_getElem bound, found]; rfl, expires⟩
  simp [none] at member

/-- Arming an alarm makes one more armed alarm at most. -/
theorem armedCount_arm {alarms armed : Alarms} {place expiration : Nat}
    (h : alarms.arm place expiration = .ok armed) : armed.armedCount ≤ alarms.armedCount + 1 := by
  unfold arm at h
  split at h
  next timer here =>
    cases h
    have counted := armedCount_setTimer (some { timer with expiration := some expiration }) here
    have := Bool.toNat_le (Timer.isArmed (some { timer with expiration := some expiration }))
    omega
  next => cases h

/-- Cancelling an alarm arms none. -/
theorem armedCount_cancel {alarms after : Alarms} {place : Nat}
    (h : alarms.cancel place = .ok after) : after.armedCount ≤ alarms.armedCount := by
  unfold cancel at h
  split at h
  next timer here =>
    split at h
    next =>
      cases h
      have counted := armedCount_setTimer (some { timer with expiration := none }) here
      have : Timer.isArmed (some { timer with expiration := none }) = false := rfl
      simp only [this, Bool.toNat_false] at counted
      omega
    next => cases h
  next => cases h

/-- A subscription arms and disarms no alarm. -/
theorem armedCount_subscribe {alarms after : Alarms} {place : Nat}
    {subscriber previous : Option Subscriber}
    (h : alarms.subscribe place subscriber = .ok (previous, after)) :
    after.armedCount = alarms.armedCount := by
  unfold subscribe at h
  split at h
  next timer here =>
    cases h
    have counted := armedCount_setTimer (some { timer with subscriber := subscriber }) here
    have : Timer.isArmed (some { timer with subscriber := subscriber }) =
      Timer.isArmed (some timer) := rfl
    rw [this] at counted
    omega
  next => cases h

end Alarms

namespace Board

/-- With no deadline nothing is outstanding. -/
theorem outstanding_eq_zero {board : Board} (h : board.nextDue? = none) :
    board.outstanding = 0 := by
  have none : ∀ due source, (due, source) ∉ board.deadlines := by
    intro due source member
    rw [nextDue?, earliest?_eq_none_iff] at h
    simp [h] at member
  have absent : ∀ {deadline : Option Nat} (source : Source),
      (∀ due, deadline = some due → (due, source) ∈ board.deadlines) → deadline = .none := by
    intro deadline source member
    cases deadline with
    | none => rfl
    | some due => exact absurd (member due rfl) (none due source)
  have alarms := absent .alarms fun due h => mem_deadlines.mpr h
  have buttons := absent .buttons fun due h => mem_deadlines.mpr h
  have console := absent .console fun due h => mem_deadlines.mpr h
  have macUnit := absent .macUnit fun due h => mem_deadlines.mpr h
  have keyboard := absent .keyboard fun due h => mem_deadlines.mpr h
  have keyValue := absent .keyValue fun due h => mem_deadlines.mpr h
  simp only [Buttons.deadline, Option.map_eq_none_iff, List.head?_eq_none_iff] at buttons
  simp only [Console.deadline, Option.map_eq_none_iff] at console
  simp only [KeyValue.deadline, Option.map_eq_none_iff] at keyValue
  simp [outstanding, Alarms.armedCount_eq_zero alarms, buttons, console, macUnit, keyboard,
    keyValue]

/-- A stimulus takes bytes from the front of the input. -/
theorem stimulate_input_le (board : Board) :
    (board.stimulate).2.console.input.length ≤ board.console.input.length := by
  unfold stimulate
  split
  next =>
    split
    next console fed =>
      unfold Console.feed? at fed
      split at fed <;> cases fed
      next byte rest input => simp [input]
    next => exact Nat.le_refl _
  next =>
    have taken := takeGesture_length board.console.input
    split
    next found => simp only [found] at taken; simp only; omega
    next found => simp only [found] at taken; simp only; omega

/-- No driver takes from the input when it completes an operation. -/
theorem service_input {board served : Board} {source : Source}
    (h : board.service source = .ok served) : served.console.input = board.console.input := by
  cases source with
  | alarms => cases h; rfl
  | buttons =>
    cases eq : board.buttons.service with
    | error _ => simp [service, eq, bind, Except.bind] at h
    | ok _ => simp only [service, eq, bind, Except.bind] at h; cases h; rfl
  | console =>
    cases eq : board.console.service with
    | error _ => simp [service, eq, bind, Except.bind] at h
    | ok served =>
      simp only [service, eq, bind, Except.bind] at h
      cases h
      exact (Console.service_received eq).2
  | macUnit =>
    cases eq : board.macUnit.service with
    | error _ => simp [service, eq, bind, Except.bind] at h
    | ok _ => simp only [service, eq, bind, Except.bind] at h; cases h; rfl
  | keyboard =>
    simp only [service] at h
    split at h <;> cases h <;> rfl
  | keyValue => cases h; rfl

/-- The input is as before when an operation has completed. -/
theorem complete_input (board : Board) (due : Nat) (source : Source) :
    (board.complete due source).2.console.input = board.console.input := by
  unfold complete
  split
  next served ok =>
    have same := service_input ok
    exact same
  next => rfl

/-- A yield only takes from the input. -/
theorem yield_input_le (board : Board) :
    (board.yield).2.console.input.length ≤ board.console.input.length := by
  unfold yield serveNext
  split
  next => exact Nat.le_refl _
  next =>
    split
    next => simp [complete_input]
    next =>
      have bound := stimulate_input_le board
      split
      next found => simpa [found] using bound
      next found =>
        simp only [found] at bound
        split
        next => simpa [complete_input] using bound
        next => exact bound

/-- A board found idle has nothing outstanding. -/
theorem outstanding_eq_zero_of_idle {board after : Board} (h : board.yield = (.idle, after)) :
    after.outstanding = 0 := by
  have notServed : ∀ {current : Board} {due : Nat} {source : Source},
      current.complete due source ≠ (.idle, after) := by
    intro current due source
    unfold complete
    split <;> simp
  unfold yield serveNext at h
  split at h
  next => cases h
  next =>
    split at h
    next => exact absurd h notServed
    next nothing =>
      split at h
      next found =>
        cases h
        have same : after.outstanding = board.outstanding := by
          unfold stimulate at found
          split at found
          next => split at found <;> cases found; rfl
          next => split at found <;> cases found; rfl
        rw [same]
        exact outstanding_eq_zero nothing
      next =>
        split at h
        next => exact absurd h notServed
        next nothing => cases h; exact outstanding_eq_zero nothing

/-- A wait without a limit that fails has found nothing outstanding, and has only taken from the
input. -/
theorem watch_fault {board : Board} {condition : Condition} {isUp : History → Bool} {polls : Nat}
    {fault : Fault} (never : ∀ calls, isUp calls = false)
    (h : (board.watch condition isUp polls).result = .error (.fault fault)) :
    (board.watch condition isUp polls).board.outstanding = 0 ∧
      (board.watch condition isUp polls).board.console.input.length ≤
        board.console.input.length := by
  fun_induction watch condition isUp polls board with
  | case1 => cases h
  | case2 polls board _ up => simp [never] at up
  | case3 polls board _ _ served yielded ih =>
    obtain ⟨empty, taken⟩ := ih h
    have := yield_input_le board
    rw [yielded] at this
    exact ⟨empty, Nat.le_trans taken this⟩
  | case4 polls board _ _ after yielded =>
    have := yield_input_le board
    rw [yielded] at this
    exact ⟨outstanding_eq_zero_of_idle yielded, this⟩
  | case5 => cases h

/-- A wait that ends without its condition has emptied the board and has put no byte back. -/
theorem waitUntil_fault {board : Board} {condition : Condition} {fault : Fault}
    (h : (board.waitUntil condition).result = .error (.fault fault)) :
    (board.waitUntil condition).board.outstanding = 0 ∧
      (board.waitUntil condition).board.console.input.length ≤ board.console.input.length :=
  watch_fault (fun _ => rfl) h

/-- A command that does no more than to start operations, `count` of them at most. -/
def Starts (count : Nat) (board after : Board) : Prop :=
  after.workload ≤ board.workload + count ∧ after.calls = board.calls ∧
    after.console.input = board.console.input

/-- A subscription starts no operation. -/
theorem starts_subscribe {board after : Board} {channel : Channel Nat}
    {subscriber previous : Option Subscriber}
    (h : board.subscribe channel subscriber = .ok (previous, after)) : Starts 0 board after := by
  cases channel with
  | alarm place =>
    cases answered : board.alarms.subscribe place subscriber with
    | error _ => simp [subscribe, answered, bind, Except.bind] at h
    | ok answer =>
      simp only [subscribe, answered, bind, Except.bind] at h
      cases h
      have counted := Alarms.armedCount_subscribe answered
      exact ⟨by simp [workload, outstanding, counted], rfl, rfl⟩
  | keyboard =>
    cases attached : board.keyboard with
    | none => simp [subscribe, attached] at h
    | some keyboard =>
      simp only [subscribe, attached] at h
      cases h
      exact ⟨by simp [workload, outstanding, attached], rfl, rfl⟩
  | buttons | console | macUnit | keyValue => cases h; exact ⟨Nat.le_refl _, rfl, rfl⟩

/-- Sharing a buffer starts no operation. -/
theorem starts_share {board after : Board} {buffer : Buffer} {bytes previous : Bytes}
    (h : board.share buffer bytes = .ok (previous, after)) : Starts 0 board after := by
  cases buffer with
  | character =>
    simp only [share, Console.share, bind, Except.bind] at h
    split at h
    next => cases h
    next shared =>
      split at shared <;> cases shared
      cases h
      exact ⟨Nat.le_refl _, rfl, rfl⟩
  | text =>
    cases attached : board.keyboard with
    | none => simp [share, attached] at h
    | some keyboard =>
      simp only [share, attached, Keyboard.share, bind, Except.bind] at h
      split at h
      next => cases h
      next shared =>
        split at shared <;> cases shared
        cases h
        exact ⟨by simp [workload, outstanding, attached], rfl, rfl⟩
  | macKey | macData | macDestination =>
    simp only [share, MacUnit.shareKey, MacUnit.shareData, MacUnit.shareDestination,
      MacUnit.whenIdle, bind, Except.bind] at h
    split at h
    next => cases h
    next shared =>
      split at shared <;> cases shared
      cases h
      exact ⟨Nat.le_refl _, rfl, rfl⟩
  | storedKey | storedValue | storedDestination =>
    simp only [share, KeyValue.shareKey, KeyValue.shareValue, KeyValue.shareDestination,
      KeyValue.whenIdle, bind, Except.bind] at h
    split at h
    next => cases h
    next shared =>
      split at shared <;> cases shared
      cases h
      exact ⟨Nat.le_refl _, rfl, rfl⟩

/-- Choosing an algorithm starts no operation. -/
theorem starts_chooseAlgorithm {board after : Board} {algorithm : Nat}
    (h : board.chooseAlgorithm algorithm = .ok ((), after)) : Starts 0 board after := by
  cases chosen : board.macUnit.choose algorithm with
  | error _ => simp [chooseAlgorithm, chosen, bind, Except.bind] at h
  | ok unit =>
    simp only [chooseAlgorithm, chosen, bind, Except.bind] at h
    cases h
    have same : unit.due = board.macUnit.due := by
      simp only [MacUnit.choose, MacUnit.whenIdle] at chosen
      split at chosen
      next => cases chosen
      next => split at chosen <;> cases chosen; rfl
    exact ⟨by simp [workload, outstanding, same], rfl, rfl⟩

/-- A read is no outstanding operation until its byte comes in. -/
theorem starts_readCharacter {board after : Board}
    (h : board.start .readCharacter = .ok ((), after)) : Starts 0 board after := by
  cases started : board.console.read with
  | error _ => simp [start, started, bind, Except.bind] at h
  | ok console =>
    simp only [start, started, bind, Except.bind] at h
    cases h
    simp only [Console.read] at started
    split at started
    next => cases started
    next => split at started <;> cases started; exact ⟨Nat.le_refl _, rfl, rfl⟩

/-- Starting an operation adds one to what is outstanding at most. -/
theorem starts_start {board after : Board} {operation : Operation}
    (h : board.start operation = .ok ((), after)) : Starts 1 board after := by
  have one : ∀ flag : Bool, flag.toNat ≤ 1 := Bool.toNat_le
  cases operation with
  | readCharacter =>
    have none := starts_readCharacter h
    exact ⟨by have := none.1; omega, none.2⟩
  | runMac =>
    cases started : board.macUnit.run board.clock with
    | error _ => simp [start, started, bind, Except.bind] at h
    | ok unit =>
      simp only [start, started, bind, Except.bind] at h
      cases h
      have := one unit.due.isSome
      exact ⟨by simp only [workload, outstanding]; omega, rfl, rfl⟩
  | typeText =>
    cases attached : board.keyboard with
    | none => simp [start, attached] at h
    | some keyboard =>
      cases started : keyboard.send board.clock with
      | error _ => simp [start, attached, started, bind, Except.bind] at h
      | ok keyboard =>
        simp only [start, attached, started, bind, Except.bind] at h
        cases h
        have := one keyboard.due.isSome
        exact ⟨by simp only [workload, outstanding, Option.bind_some]; omega, rfl, rfl⟩
  | getValue =>
    cases started : board.keyValue.start board.clock .get with
    | error _ => simp [start, started, bind, Except.bind] at h
    | ok unit =>
      simp only [start, started, bind, Except.bind] at h
      cases h
      have := one unit.pending.isSome
      exact ⟨by simp only [workload, outstanding]; omega, rfl, rfl⟩
  | setValue =>
    cases started : board.keyValue.start board.clock .set with
    | error _ => simp [start, started, bind, Except.bind] at h
    | ok unit =>
      simp only [start, started, bind, Except.bind] at h
      cases h
      have := one unit.pending.isSome
      exact ⟨by simp only [workload, outstanding]; omega, rfl, rfl⟩

/-- Arming an alarm adds one to what is outstanding at most. -/
theorem starts_armAlarm {board after : Board} {place ticks expiration : Nat}
    (h : board.armAlarm place ticks = .ok (expiration, after)) : Starts 1 board after := by
  cases armed : board.alarms.arm place (board.clock + ticks) with
  | error _ => simp [armAlarm, armed, bind, Except.bind] at h
  | ok alarms =>
    simp only [armAlarm, armed, bind, Except.bind] at h
    cases h
    have counted := Alarms.armedCount_arm armed
    exact ⟨by simp only [workload, outstanding]; omega, rfl, rfl⟩

/-- Cancelling an alarm adds nothing to what is outstanding. -/
theorem starts_cancelAlarm {board after : Board} {place : Nat}
    (h : board.cancelAlarm place = .ok ((), after)) : Starts 0 board after := by
  cases cancelled : board.alarms.cancel place with
  | error _ => simp [cancelAlarm, cancelled, bind, Except.bind] at h
  | ok alarms =>
    simp only [cancelAlarm, cancelled, bind, Except.bind] at h
    cases h
    have counted := Alarms.armedCount_cancel cancelled
    exact ⟨by simp only [workload, outstanding]; omega, rfl, rfl⟩

/-- Aborting a read adds nothing to what is outstanding. -/
theorem starts_abortRead {board after : Board} (h : board.abortRead = .ok ((), after)) :
    Starts 0 board after := by
  simp only [abortRead, Console.abort, bind, Except.bind] at h
  split at h
  next => cases h
  next aborted =>
    split at aborted <;> cases aborted
    cases h
    exact ⟨by simp [workload, outstanding], rfl, rfl⟩

/-- A command that may be refused leaves no more to do if it starts nothing. -/
theorem workload_settle {α : Type} {board : Board} {answer : Except ReturnCode (α × Board)}
    (h : ∀ value after, answer = .ok (value, after) → Starts 0 board after) :
    (board.settle answer).workload ≤ board.workload := by
  unfold settle
  split
  next value after => exact (h value after rfl).1
  next => exact Nat.le_refl _

/-- Taking a buffer back leaves no more to do. -/
theorem workload_settle_share (board : Board) (buffer : Buffer) (bytes : Bytes) :
    (board.settle (board.share buffer bytes)).workload ≤ board.workload :=
  workload_settle fun _ _ => starts_share

/-- Taking a subscription back leaves no more to do. -/
theorem workload_settle_subscribe (board : Board) (channel : Channel Nat)
    (subscriber : Option Subscriber) :
    (board.settle (board.subscribe channel subscriber)).workload ≤ board.workload :=
  workload_settle fun _ _ => starts_subscribe

/-- Releasing the default alarm leaves no more to do. -/
theorem workload_releaseAlarm (board : Board) : board.releaseAlarm.workload ≤ board.workload :=
  Nat.le_trans (workload_settle_subscribe _ _ _)
    (workload_settle fun _ _ => starts_cancelAlarm)

/-- Releasing the console leaves no more to do. -/
theorem workload_releaseConsole (board : Board) :
    board.releaseConsole.workload ≤ board.workload :=
  Nat.le_trans (workload_settle_subscribe _ _ _) <|
    Nat.le_trans (workload_settle_share _ _ _) (workload_settle fun _ _ => starts_abortRead)

/-- Releasing the keyboard leaves no more to do. -/
theorem workload_releaseKeyboard (board : Board) :
    board.releaseKeyboard.workload ≤ board.workload :=
  Nat.le_trans (workload_settle_subscribe _ _ _) (workload_settle_share _ _ _)

/-- Releasing the key-value unit leaves no more to do. -/
theorem workload_releaseKeyValue (board : Board) :
    board.releaseKeyValue.workload ≤ board.workload :=
  Nat.le_trans (workload_settle_subscribe _ _ _) <|
    Nat.le_trans (workload_settle_share _ _ _) <|
      Nat.le_trans (workload_settle_share _ _ _) (workload_settle_share _ _ _)

/-- Releasing the keyed-hash unit leaves no more to do. -/
theorem workload_releaseMacUnit (board : Board) :
    board.releaseMacUnit.workload ≤ board.workload :=
  Nat.le_trans (workload_settle_subscribe _ _ _) <|
    Nat.le_trans (workload_settle_share _ _ _) <|
      Nat.le_trans (workload_settle_share _ _ _) (workload_settle_share _ _ _)

end Board

namespace BoardAct

variable {α β : Type}

/-- The act leaves less to do on the board than it found, by at least `gain`. -/
abbrev SettlesBy (gain : Nat) (act : BoardAct α) : Prop := Act.Settles Board.workload gain act

/-- The act leaves no more to do on the board than it found. -/
abbrev Settles (act : BoardAct α) : Prop := SettlesBy 0 act

/-- At most `count` operations more are outstanding and none has been served; none are more where the
act ends early. -/
def registering (count : Nat) : Act.Contract Board := fun before failure after =>
  match failure with
  | none => after.workload ≤ before.workload + count ∧ after.calls = before.calls ∧
      after.console.input = before.console.input
  | some (.fault _) => after.workload ≤ before.workload
  | some (.trap _) => True

/-- The act starts operations, at most `count` of them, and lets none be served. If it ends early it
has started none. -/
abbrev Registers (count : Nat) (act : BoardAct α) : Prop := Act.Follows (registering count) act

/-- An act that starts nothing settles. -/
theorem Registers.settles {act : BoardAct α} (registers : Registers 0 act) : Settles act := by
  refine registers.mono fun {before failure after} done => ?_
  cases failure with
  | none => exact done.1
  | some failure => cases failure <;> exact done

/-- To look at a board leaves no more to do. -/
theorem Settles.look (view : Board → α) : Settles (look view) := fun _ => Nat.le_refl _

/-- To print leaves no more to do. -/
theorem Settles.print (text : String) : Settles (print text) := fun _ => Nat.le_refl _

/-- To print a line leaves no more to do. -/
theorem Settles.printLine (line : String) : Settles (printLine line) := fun _ => Nat.le_refl _

/-- What has been recorded of an operation is only looked at. -/
theorem Settles.completed (ticket : Ticket) (fault : ReturnCode → Fault) :
    Settles (completed ticket fault) := by
  refine .bind (Settles.look _) fun arguments => ?_
  cases arguments.completion with
  | ok length => exact .pure length
  | error code => exact .fail _

/-- A command that is accepted starts at most `count` operations. -/
theorem Registers.command {count : Nat} {change : Board → Except ReturnCode (α × Board)}
    (h : ∀ board value after, change board = .ok (value, after) →
      after.workload ≤ board.workload + count ∧ after.calls = board.calls ∧
        after.console.input = board.console.input) : Registers count (command change) := by
  intro board
  unfold BoardAct.command
  cases answered : change board with
  | ok answer => exact h board answer.1 answer.2 answered
  | error code => exact Nat.le_refl _

/-- Operations may be started after what starts none. -/
theorem Registers.bind {count : Nat} {act : BoardAct α} {next : α → BoardAct β}
    (first : Registers 0 act) (second : ∀ value, Registers count (next value)) :
    Registers count (act >>= next) := by
  refine first.bind_of second ?_ fun {before after failure} done => ?_
  · intro before between after failure ⟨work, calls, input⟩ done
    cases failure with
    | none => exact ⟨by have := done.1; omega, done.2.1.trans calls, done.2.2.trans input⟩
    | some failure =>
      cases failure with
      | fault => exact Nat.le_trans done work
      | trap => trivial
  · cases failure <;> exact done

/-- An act may end without handing out its value. -/
theorem Registers.discard {count : Nat} {act : BoardAct α} (registers : Registers count act) :
    Registers count (do let _ ← act) := by
  have handsOut : Act.Follows (fun before failure after => failure = none ∧ after = before)
      (pure () : BoardAct Unit) :=
    fun _ => ⟨rfl, rfl⟩
  refine registers.bind_of (fun _ => handsOut) ?_ id
  rintro before between after failure done ⟨rfl, rfl⟩
  exact done

/-- A call that waits for an upcall of what it has registered leaves less to do, unless it started
an operation for it. -/
theorem awaitUpcall_settled {count : Nat} {register : Ticket → BoardAct Unit}
    (h : ∀ ticket, Registers count (register ticket)) (board : Board) :
    match awaitUpcall register board with
    | .ok _ after => after.workload + 1 ≤ board.workload + count
    | .error (.fault _) after => after.workload ≤ board.workload
    | .error (.trap _) _ => True := by
  have one := h board.drawTicket.1 board.drawTicket.2
  simp only [awaitUpcall_eq, drawTicket, bind, EStateM.bind, Pure.pure, EStateM.pure]
  cases ran : register board.drawTicket.1 board.drawTicket.2 with
  | error failure after => rw [ran] at one; cases failure <;> exact one
  | ok _ started =>
    rw [ran] at one
    obtain ⟨work, calls, input⟩ : started.workload ≤ board.drawTicket.2.workload + count ∧
        started.calls = board.drawTicket.2.calls ∧
        started.console.input = board.drawTicket.2.console.input := one
    have unmet : board.drawTicket.1.isRaised started.calls = false := by
      rw [calls]
      simp [Ticket.isRaised, History.since, Board.drawTicket]
    have same : board.drawTicket.2.workload = board.workload := rfl
    simp only [wait]
    have waited := Board.watch_workload (fun _ calls => board.drawTicket.1.isRaised calls)
      (fun _ => false) 0 started
    cases ended : (started.waitUntil fun _ calls => board.drawTicket.1.isRaised calls).result with
    | ok _ =>
      simp only [Board.waitUntil] at ended
      simp only [ended, unmet, Bool.not_false, Bool.toNat_true] at waited
      simp only [Board.waitUntil]
      omega
    | error failure =>
      cases failure with
      | fault fault =>
        obtain ⟨empty, taken⟩ := Board.waitUntil_fault ended
        have whole : board.drawTicket.2.console.input = board.console.input := rfl
        rw [input, whole] at taken
        simp only [Board.workload, empty]
        omega
      | trap trap => trivial

/-- Whoever starts one operation and awaits its upcall leaves no more to do than before. -/
theorem awaitUpcall_settles {register : Ticket → BoardAct Unit}
    (h : ∀ ticket, Registers 1 (register ticket)) : Settles (awaitUpcall register) := by
  intro board
  have settled := awaitUpcall_settled h board
  cases ran : awaitUpcall register board with
  | ok _ after => rw [ran] at settled; exact Nat.le_of_succ_le_succ settled
  | error failure after => rw [ran] at settled; cases failure <;> exact settled

/-- A wait without an operation of its own takes a byte of the input, or an operation that was
outstanding before. -/
theorem awaitUpcall_settlesBy_one {register : Ticket → BoardAct Unit}
    (h : ∀ ticket, Registers 0 (register ticket)) : SettlesBy 1 (awaitUpcall register) := by
  intro board
  have settled := awaitUpcall_settled h board
  cases ran : awaitUpcall register board with
  | ok _ after => rw [ran] at settled; exact settled
  | error failure after => rw [ran] at settled; cases failure <;> exact settled

/-- A subscription is registered without an operation. -/
theorem Registers.subscribe (channel : Channel Nat) (subscriber : Option Subscriber) :
    Registers 0 (subscribe channel subscriber) :=
  Registers.discard (.command fun _ _ _ => Board.starts_subscribe)

/-- A buffer is shared without an operation. -/
theorem Registers.share (buffer : Buffer) (bytes : Bytes) : Registers 0 (share buffer bytes) :=
  .command fun _ _ _ => Board.starts_share

/-- An operation that is started is the only one. -/
theorem Registers.start (operation : Operation) : Registers 1 (start operation) :=
  .command fun _ _ _ => Board.starts_start

/-- Sharing a buffer leaves no more to do. -/
theorem settles_share (buffer : Buffer) (bytes : Bytes) : Settles (share buffer bytes) :=
  (Registers.share buffer bytes).settles

/-- A delay leaves no more to do than it found. -/
theorem settles_delay (milliseconds : Nat) : Settles (delay milliseconds) := by
  refine .bind (.ofExcept _) fun ticks => ?_
  refine .releasing ?_ Board.workload_releaseAlarm
  refine .bind (awaitUpcall_settles fun ticket => ?_) fun _ => .pure _
  refine (Registers.subscribe _ _).bind fun _ => Registers.discard ?_
  exact .command fun _ _ _ => Board.starts_armAlarm

/-- Reading a character takes a byte of the input. -/
theorem settles_readCharacter : SettlesBy 1 readCharacter := by
  refine .releasing ?_ Board.workload_releaseConsole
  refine .bind (awaitUpcall_settlesBy_one fun ticket => ?_) fun _ =>
    .bind (settles_share _ _) fun buffer => ?_
  · exact (Registers.subscribe _ _).bind fun _ => (Registers.share _ _).bind fun _ =>
      .command fun _ _ _ => Board.starts_readCharacter
  · cases buffer with
    | nil => exact .fail _
    | cons byte rest => exact .pure byte

/-- Typing a text leaves no more to do than it found. -/
theorem settles_typeText (text : String) : Settles (typeText text) := by
  refine .releasing ?_ Board.workload_releaseKeyboard
  refine .bind (awaitUpcall_settles fun ticket => ?_) fun ticket =>
    .bind (Settles.completed _ _) fun _ => .pure _
  exact (Registers.subscribe _ _).bind fun _ => (Registers.share _ _).bind fun _ => .start _

/-- Reading a value from the store leaves no more to do than it found. -/
theorem settles_getValue (key : Bytes) (size : Nat) : Settles (getValue key size) := by
  refine .releasing ?_ Board.workload_releaseKeyValue
  refine .bind
    (.mapFault _ (awaitUpcall_settles fun ticket => ?_)) fun ticket =>
    .bind (.mapFault _ (settles_share _ _)) fun _ =>
      .bind (Settles.completed _ _) fun _ => .pure _
  exact (Registers.subscribe _ _).bind fun _ => (Registers.share _ _).bind fun _ =>
    (Registers.share _ _).bind fun _ => .start _

/-- Writing a value to the store leaves no more to do than it found. -/
theorem settles_setValue (key value : Bytes) : Settles (setValue key value) := by
  refine .releasing ?_ Board.workload_releaseKeyValue
  refine .bind
    (.mapFault _ (awaitUpcall_settles fun ticket => ?_)) fun ticket =>
    .bind (Settles.completed _ _) fun _ => .pure _
  exact (Registers.subscribe _ _).bind fun _ => (Registers.share _ _).bind fun _ =>
    (Registers.share _ _).bind fun _ => .start _

/-- Computing a keyed hash leaves no more to do than it found. -/
theorem settles_computeMac (key message : Bytes) : Settles (computeMac key message) := by
  refine .releasing ?_ Board.workload_releaseMacUnit
  refine .bind (awaitUpcall_settles fun ticket => ?_) fun ticket =>
    .bind (settles_share _ _) fun destination =>
      .bind (Settles.completed _ _) fun length => ?_
  · exact (Registers.subscribe _ _).bind fun _ => (Registers.share _ _).bind fun _ =>
      (Registers.share _ _).bind fun _ => (Registers.share _ _).bind fun _ =>
        (Registers.command fun _ _ _ => Board.starts_chooseAlgorithm).bind fun _ => .start _
  · split
    · exact .pure _
    · exact .fail _

/-- Deriving a code leaves no more to do than it found. -/
theorem settles_generateCode (secret : Bytes) (counter : UInt64) (digits : Nat) :
    Settles (generateCode secret counter digits) :=
  .bind (.ofExcept _) fun _ =>
    .bind (settles_computeMac _ _) fun _ => .ofExcept _

end BoardAct

end OtpToken
