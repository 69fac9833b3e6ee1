import OtpToken.Board.Buttons
import OtpToken.Board.Console
import OtpToken.Board.Keyboard
import OtpToken.Board.KeyValue
import OtpToken.Board.MacUnit

/-!
# Boards

A board is its clock and its drivers, with the history of the upcalls that have run.
Operations complete only when control is yielded to the board: it then serves the
one operation that is due first, after moving the clock to that tick. With nothing
outstanding it first looks to the console input for a stimulus.
-/

namespace OtpToken

/-- The drivers that complete operations. -/
inductive Source
  | alarms
  | buttons
  | console
  | macUnit
  | keyboard
  | keyValue
  deriving DecidableEq, Repr

/-- What a yield to the board came to. -/
inductive Yielded
  /-- One operation was served. -/
  | serviced
  /-- Nothing is outstanding and there is no stimulus. -/
  | idle
  /-- The board stopped. -/
  | stopped (trap : Trap)
  deriving DecidableEq, Repr

/-- A board in the course of its work. -/
structure Board where
  clock : Nat
  alarms : Alarms
  buttons : Buttons
  lights : Lights
  console : Console
  macUnit : MacUnit
  keyboard : Option Keyboard
  keyValue : KeyValue
  /-- The upcalls that have run. -/
  calls : History
  /-- The number of tickets that have been drawn. -/
  tickets : Nat
  /-- How many more operations the supply lasts for; none where it does not fail. -/
  charge : Option Nat

namespace Board

/-- A board that has just been switched on. -/
def initial (store : Store) (input : Bytes) (buttons : Nat) (hasKeyboard : Bool) : Board where
  clock := 0
  alarms := .initial
  buttons := .initial buttons
  lights := .initial buttons
  console := .initial input
  macUnit := .initial
  keyboard := if hasKeyboard then some .initial else none
  keyValue := .initial store
  calls := []
  tickets := 0
  charge := none

/-- The outstanding deadlines, in the order of the drivers. -/
def deadlines (board : Board) : List (Nat × Source) :=
  [(board.alarms.deadline, Source.alarms),
    (board.buttons.deadline, Source.buttons),
    (board.console.deadline, Source.console),
    (board.macUnit.due, Source.macUnit),
    (board.keyboard.bind Keyboard.due, Source.keyboard),
    (board.keyValue.deadline, Source.keyValue)].filterMap
      fun (due, source) => due.map fun due => (due, source)

/-- The deadline that is served next: the earliest, and of several the first driver's. -/
def nextDue? (board : Board) : Option (Nat × Source) := earliest? board.deadlines

/-- Adds an upcall to the history, if one has run. -/
def record (board : Board) (call : Option Call) : Board :=
  { board with calls := call.toList ++ board.calls }

/-- Has a driver complete the operation of its that is due first. -/
def service (board : Board) : Source → Except Trap Board
  | .alarms =>
    let served := board.alarms.service board.clock
    .ok ({ board with alarms := served.1 }.record served.2)
  | .buttons => do
    let served ← board.buttons.service
    return { board with buttons := served.1 }.record served.2
  | .console => do
    let served ← board.console.service
    return { board with console := served.1 }.record served.2
  | .macUnit => do
    let served ← board.macUnit.service
    return { board with macUnit := served.1 }.record served.2
  | .keyboard =>
    match board.keyboard with
    | some keyboard =>
      let served := keyboard.service
      .ok ({ board with keyboard := some served.1 }.record served.2)
    | none => .ok board
  | .keyValue =>
    let served := board.keyValue.service
    .ok ({ board with keyValue := served.1 }.record served.2)

/-- The board with its clock moved to a tick, unless that has passed. -/
def advanceTo (board : Board) (tick : Nat) : Board :=
  { board with clock := max board.clock tick }

/-- The board after the supply has lasted for one more operation. -/
def discharge (board : Board) : Board :=
  { board with charge := board.charge.map Nat.pred }

/-- Serves the operation of a driver that is due at a tick. -/
def complete (board : Board) (due : Nat) (source : Source) : Yielded × Board :=
  match (board.advanceTo due).service source with
  | .ok board => (.serviced, board.discharge)
  | .error trap => (.stopped trap, board.advanceTo due)

/-- Looks for a stimulus: a byte for a pending read, or else the next gesture of the input. -/
def stimulate (board : Board) : Bool × Board :=
  if board.console.isHungry then
    match board.console.feed? board.clock with
    | some console => (true, { board with console := console })
    | none => (false, board)
  else
    match takeGesture board.console.input with
    | (some gesture, rest) =>
      (true, { board with
        console := { board.console with input := rest }
        buttons := board.buttons.perform board.clock gesture })
    | (none, rest) => (false, { board with console := { board.console with input := rest } })

/-- Serves the next operation of a supplied board, after looking for a stimulus if there is
none. -/
def serveNext (board : Board) : Yielded × Board :=
  match board.nextDue? with
  | some (due, source) => board.complete due source
  | none =>
    match board.stimulate with
    | (false, board) => (.idle, board)
    | (true, board) =>
      match board.nextDue? with
      | some (due, source) => board.complete due source
      | none => (.idle, board)

/-- Yields control to the board until one operation has been served. -/
def yield (board : Board) : Yielded × Board :=
  if board.charge = some 0 then (.stopped .powerLoss, board) else board.serveNext

end Board

end OtpToken
