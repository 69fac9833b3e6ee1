/-!
# Upcalls

A driver tells its subscriber that an operation has completed by an upcall with
three words. Subscribers only record small facts, so an upcall is kept as an entry
in the history of the board, and whoever waits reads the history.
-/

namespace OtpToken

/-- The mark of one wait: its own number, and how many upcalls had run when it was drawn. -/
structure Ticket where
  number : Nat
  since : Nat
  deriving DecidableEq, Repr

/-- Who hears the upcalls of a driver. -/
inductive Subscriber
  /-- An outside listener, known by its number. -/
  | listener (id : Nat)
  /-- A wait that ends with the upcall. -/
  | flag (ticket : Ticket)
  /-- A wait that ends with the upcall and keeps its arguments. -/
  | recorder (ticket : Ticket)
  /-- A watch for buttons that go down. -/
  | presses (ticket : Ticket)
  deriving DecidableEq, Repr

/-- The three words of an upcall. -/
structure Arguments where
  first : UInt32
  second : UInt32
  third : UInt32
  deriving DecidableEq, Repr

/-- An upcall that has run. -/
structure Call where
  subscriber : Subscriber
  arguments : Arguments
  deriving DecidableEq, Repr

/-- The upcalls that have run, newest first. -/
abbrev History := List Call

/-- The upcall to a subscriber, if there is one; each argument keeps its lowest 32 bits. -/
def Subscriber.call? (subscriber : Option Subscriber) (first second : Nat) : Option Call :=
  subscriber.map fun subscriber => ⟨subscriber, ⟨UInt32.ofNat first, UInt32.ofNat second, 0⟩⟩

namespace History

/-- The upcalls that have run since there were `count` of them. -/
def since (count : Nat) (calls : History) : History := calls.take (calls.length - count)

end History

namespace Ticket

/-- The flag of a wait is up once an upcall of its own has run. -/
def isRaised (ticket : Ticket) (calls : History) : Bool :=
  (History.since ticket.since calls).any fun call =>
    call.subscriber == .flag ticket || call.subscriber == .recorder ticket

/-- The arguments of the last upcall that a wait has kept, zeros if there is none. -/
def recorded (ticket : Ticket) (calls : History) : Arguments :=
  match calls.find? fun call => call.subscriber == .recorder ticket with
  | some call => call.arguments
  | none => ⟨0, 0, 0⟩

/-- The button that went down last, if one has since there were `count` upcalls. -/
def pressed? (ticket : Ticket) (count : Nat) (calls : History) : Option Nat :=
  ((History.since count calls).find? fun call =>
    call.subscriber == .presses ticket && call.arguments.second == 1).map
      fun call => call.arguments.first.toNat

end Ticket

end OtpToken
