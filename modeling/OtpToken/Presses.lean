import OtpToken.Blocking.Settling

/-!
# Button presses

A press is classified by a single look at its button half a second later: still down
means a long press, up again a short one. Whatever else the buttons do in the
meantime is absorbed by that delay, and presses that come while nobody waits for one
are not remembered.
-/

namespace OtpToken

/-- How long a button was down. -/
inductive Press
  | short
  | long
  deriving DecidableEq, Repr

/-- A classified press of a button. -/
structure ButtonEvent where
  button : Nat
  press : Press
  deriving DecidableEq, Repr

/-- A watch over all buttons of a board. -/
structure ButtonWatch where
  ticket : Ticket
  deriving DecidableEq, Repr

namespace ButtonWatch

open Act BoardAct

/-- The delay before a pressed button is looked at again. -/
def debounceMilliseconds : Nat := 500

/-- Subscribes to the buttons and enables the interrupts of all of them. -/
def begin : BoardAct ButtonWatch := do
  let ticket ← drawTicket
  subscribe .buttons (some (.presses ticket))
  change (·.enableInterrupts)
  return ⟨ticket⟩

/-- Waits for a button to go down from now on, and hands out that button. -/
def nextPress (watch : ButtonWatch) : BoardAct Nat := do
  let count ← look (·.calls.length)
  wait (·.waitUntil fun _ calls => (watch.ticket.pressed? count calls).isSome)
  look fun board => (watch.ticket.pressed? count board.calls).getD 0

/-- Waits for the next press and classifies it. -/
def nextEvent (watch : ButtonWatch) : BoardAct ButtonEvent := do
  let button ← watch.nextPress
  delay debounceMilliseconds
  let isDown ← command fun board => return (← board.buttons.read button, board)
  return ⟨button, if isDown then .long else .short⟩

/-- A press uses up at least one operation. -/
theorem advances_nextPress (watch : ButtonWatch) :
    Act.Advances Board.workload watch.nextPress := by
  intro board
  have waited := Board.watch_workload
    (fun _ calls => (watch.ticket.pressed? board.calls.length calls).isSome) (fun _ => false) 0
    board
  have unmet : (watch.ticket.pressed? board.calls.length board.calls).isSome = false := by
    simp [Ticket.pressed?, History.since]
  simp only [nextPress, bind, EStateM.bind, look, wait]
  cases ended : (board.waitUntil fun _ calls =>
      (watch.ticket.pressed? board.calls.length calls).isSome).result with
  | ok _ =>
    simp only [Board.waitUntil] at ended
    simp only [ended, unmet, Bool.not_false, Bool.toNat_true] at waited
    exact waited
  | error failure =>
    cases failure with
    | fault fault => exact .inl (Board.watch_fault_eq_halted (fun _ => rfl) ended)
    | trap _ => trivial

/-- To look at a button leaves no more to do. -/
theorem settles_readButton (button : Nat) :
    Settles (command fun board => return (← board.buttons.read button, board)) := by
  refine (Registers.command fun board value after h => ?_).settles
  cases read : board.buttons.read button with
  | error _ => simp [read, bind, Except.bind] at h
  | ok _ =>
    simp only [read, bind, Except.bind, pure, Except.pure] at h
    cases h
    exact ⟨Nat.le_refl _, rfl, rfl⟩

/-- A classified press uses up at least one operation. -/
theorem advances_nextEvent (watch : ButtonWatch) :
    Act.Advances Board.workload watch.nextEvent :=
  .bind (advances_nextPress watch) fun button =>
    .bind (settles_delay _) fun _ =>
      .bind (settles_readButton button) fun _ => .pure _

end ButtonWatch

end OtpToken
