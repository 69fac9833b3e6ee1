import OtpToken.Board.Progress

/-!
# Waiting

Whoever waits yields to the board until a condition holds. A condition sees only how
often it has been asked and which upcalls have run, so it can be decided at any
moment and disturbs nothing. A bounded wait runs against a virtual alarm of its own,
which is freed when the wait ends.
-/

namespace OtpToken

/-- Decides whether a wait is over, from the number of times it has been asked before and the
upcalls that have run. -/
abbrev Condition := Nat → History → Bool

/-- How a wait ended: its result, how often the condition was asked, and the board it left. -/
structure Watched where
  result : Except Failure Unit
  polls : Nat
  board : Board

/-- Converts milliseconds to ticks of a frequency, whole seconds and the rest apart; alarms take 32
bits. -/
def ticksFor (frequency milliseconds : Nat) : Except Fault Nat :=
  let ticks := milliseconds / 1000 * frequency + milliseconds % 1000 * frequency / 1000
  if ticks < UInt32.size then .ok ticks else .error (.rejected .size)

namespace Board

/-- Yields until the condition holds; otherwise until the time is up or the board is idle. The
condition has been asked `polls` times before. -/
def watch (condition : Condition) (isUp : History → Bool) (polls : Nat) (board : Board) : Watched :=
  if condition polls board.calls then ⟨.ok (), polls + 1, board⟩
  else if isUp board.calls then ⟨.error (.fault .timedOut), polls + 1, board⟩
  else
    match _yielded : board.yield with
    | (.serviced, served) => watch condition isUp (polls + 1) served
    | (.idle, after) => ⟨.error (.fault .halted), polls + 1, after⟩
    | (.stopped trap, after) => ⟨.error (.trap trap), polls + 1, after⟩
termination_by board.workload
decreasing_by exact yield_workload_lt _yielded

/-- Yields until the condition holds. -/
def waitUntil (condition : Condition) (board : Board) : Watched :=
  board.watch condition (fun _ => false) 0

/-- Draws a ticket for a wait. -/
def drawTicket (board : Board) : Ticket × Board :=
  (⟨board.tickets, board.calls.length⟩, { board with tickets := board.tickets + 1 })

/-- Allocates an alarm of its own for a wait and arms it, and hands out its place. -/
def armTimeout (board : Board) (ticket : Ticket) (ticks : Nat) : Nat × Board :=
  let allocated := board.alarms.allocate
  (allocated.1, { board with
    alarms := allocated.2.setTimer allocated.1
      (some ⟨some (.flag ticket), some (board.clock + ticks)⟩) })

/-- The board with the alarm at a place freed. -/
def freeAlarm (board : Board) (place : Nat) : Board :=
  { board with alarms := board.alarms.free place }

/-- Yields until the condition holds, for at most the whole milliseconds in a number of
microseconds. -/
def waitAtMost (microseconds : Nat) (condition : Condition) (board : Board) : Watched :=
  let milliseconds := microseconds / 1000
  if milliseconds < UInt32.size then
    match ticksFor tickFrequency milliseconds with
    | .ok ticks =>
      let drawn := board.drawTicket
      let armed := drawn.2.armTimeout drawn.1 ticks
      let watched := armed.2.watch condition drawn.1.isRaised 0
      { watched with board := watched.board.freeAlarm armed.1 }
    | .error fault => ⟨.error (.fault fault), 0, board⟩
  else ⟨.error (.fault (.rejected .size)), 0, board⟩

/-- Yields until the condition holds, for at most a number of microseconds if one is given. -/
def waitWithin (limit : Option Nat) (condition : Condition) (board : Board) : Watched :=
  match limit with
  | some microseconds => board.waitAtMost microseconds condition
  | none => board.waitUntil condition

/-- A wait that does not stop the board leaves no more to do, and less if its condition did not hold
from the start. -/
theorem watch_workload (condition : Condition) (isUp : History → Bool) (polls : Nat)
    (board : Board) :
    match (board.watch condition isUp polls).result with
    | .ok () =>
      (board.watch condition isUp polls).board.workload + (!condition polls board.calls).toNat
        ≤ board.workload
    | .error (.fault _) => (board.watch condition isUp polls).board.workload ≤ board.workload
    | .error (.trap _) => True := by
  fun_induction watch condition isUp polls board with
  | case1 polls board holds => simp [holds]
  | case2 polls board => simp
  | case3 polls board holds _ served yielded ih =>
    have less := yield_workload_lt yielded
    have unmet := Bool.toNat_le (!condition polls board.calls)
    cases ended : (served.watch condition isUp (polls + 1)).result with
    | ok _ => simp only [ended] at ih ⊢; omega
    | error failure =>
      cases failure with
      | fault _ => simp only [ended] at ih ⊢; omega
      | trap _ => trivial
  | case4 polls board _ _ after yielded =>
    have := yield_workload_le_of_idle yielded
    simpa using this
  | case5 polls board => simp

/-- A wait without a limit ends early only on an idle board, unless that stops. -/
theorem watch_fault_eq_halted {board : Board} {condition : Condition} {isUp : History → Bool}
    {polls : Nat} {fault : Fault} (never : ∀ calls, isUp calls = false)
    (h : (board.watch condition isUp polls).result = .error (.fault fault)) : fault = .halted := by
  fun_induction watch condition isUp polls board with
  | case1 => cases h
  | case2 polls board _ up => simp [never] at up
  | case3 polls board _ _ served yielded ih => exact ih h
  | case4 => cases h; rfl
  | case5 => cases h

end Board

end OtpToken
