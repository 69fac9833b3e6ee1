import OtpToken.Act
import OtpToken.Board.Command

/-!
# Blocking on upcalls

A blocking call draws a ticket, registers what it needs under that ticket and starts
an operation, and then yields to the board until an upcall of the ticket has run. If
anything is refused while it registers, the call ends at once.
-/

namespace OtpToken

/-- What is done with a board. -/
abbrev BoardAct (α : Type) := Act Board α

namespace BoardAct

variable {α : Type}

/-- Gives a command to a driver; a refusal is a fault. -/
def command (change : Board → Except ReturnCode (α × Board)) : BoardAct α := fun board =>
  match change board with
  | .ok (value, after) => .ok value after
  | .error code => .error (.fault (.rejected code)) board

/-- Looks at the board. -/
def look (view : Board → α) : BoardAct α := fun board => .ok (view board) board

/-- Changes the board. -/
def change (change : Board → Board) : BoardAct Unit := fun board => .ok () (change board)

/-- Prints a text. -/
def print (text : String) : BoardAct Unit := change (·.print text)

/-- Prints a line. -/
def printLine (line : String) : BoardAct Unit := change (·.printLine line)

/-- Draws a ticket. -/
def drawTicket : BoardAct Ticket := fun board => .ok board.drawTicket.1 board.drawTicket.2

/-- Waits on the board. -/
def wait (wait : Board → Watched) : BoardAct Unit := fun board =>
  match (wait board).result with
  | .ok () => .ok () (wait board).board
  | .error failure => .error failure (wait board).board

/-- Gives a driver another subscriber. -/
def subscribe (channel : Channel Nat) (subscriber : Option Subscriber) : BoardAct Unit := do
  let _ ← command (·.subscribe channel subscriber)

/-- Shares another buffer with its driver, and hands out the previous one. -/
def share (buffer : Buffer) (bytes : Bytes) : BoardAct Bytes := command (·.share buffer bytes)

/-- Starts an operation over the shared buffers. -/
def start (operation : Operation) : BoardAct Unit := command (·.start operation)

/-- Registers under a fresh ticket, and waits until an upcall of it has run or the predicate holds;
within a limit, if one is given. -/
def awaitCondition (register : Ticket → BoardAct Unit) (predicate : Condition)
    (limit : Option Nat) : BoardAct Ticket := do
  let ticket ← drawTicket
  register ticket
  wait (·.waitWithin limit fun polls calls => ticket.isRaised calls || predicate polls calls)
  return ticket

/-- Registers under a fresh ticket, and waits until an upcall of it has run. -/
def awaitUpcall (register : Ticket → BoardAct Unit) : BoardAct Ticket :=
  awaitCondition register (fun _ _ => false) none

/-- To wait for an upcall is to draw a ticket, to register it and to wait until it is raised. -/
theorem awaitUpcall_eq (register : Ticket → BoardAct Unit) :
    awaitUpcall register = do
      let ticket ← drawTicket
      register ticket
      wait (·.waitUntil fun _ calls => ticket.isRaised calls)
      return ticket := by
  simp only [awaitUpcall, awaitCondition, Board.waitWithin, Bool.or_false]

end BoardAct

/-- Reads the arguments of an upcall that reports a status and a length. -/
def Arguments.completion (arguments : Arguments) : Except ReturnCode Nat :=
  match ReturnCode.ofStatus? arguments.first with
  | some code => .error code
  | none => .ok arguments.second.toNat

/-- The length that an upcall of a ticket has reported. -/
def BoardAct.completed (ticket : Ticket) (fault : ReturnCode → Fault) : BoardAct Nat := do
  let arguments ← look fun board => ticket.recorded board.calls
  match arguments.completion with
  | .ok length => return length
  | .error code => Act.fail (fault code)

end OtpToken
