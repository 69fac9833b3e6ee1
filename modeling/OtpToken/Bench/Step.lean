import OtpToken.Delivery
import OtpToken.Keystore
import OtpToken.Presses
import OtpToken.SecretEntry

/-!
# Steps at the bench

At a bench a board is exercised step by step, by raw commands to its drivers and by
blocking calls. Steps can be nested: some register for a wait, and some are followed
by a light being turned off. Upcalls to listeners and the course of every wait are
entered in a journal.
-/

namespace OtpToken.Bench

/-- What a step subscribes to a driver. -/
inductive Hook
  /-- A listener, whose upcalls are entered in the journal. -/
  | listener (id : Nat)
  /-- An upcall that ends the surrounding wait. -/
  | flag
  /-- An upcall that ends the surrounding wait, which keeps its arguments. -/
  | recorder
  deriving DecidableEq, Repr

/-- How a step names an alarm. -/
inductive AlarmName
  | default
  /-- An alarm that was allocated earlier, by the order of allocation. -/
  | allocated (handle : Nat)
  deriving DecidableEq, Repr

/-- When a wait is over: after a number of polls, or after a number of upcalls to listeners,
whichever comes first. -/
structure Goal where
  polls : Option Nat
  upcalls : Option Nat
  deriving DecidableEq, Repr

/-- A step at the bench of a board. -/
inductive Step
  | yield
  /-- Fails with the return code of a status. -/
  | fail (status : UInt32)
  | command (command : Command Hook AlarmName)
  | delay (milliseconds : Nat)
  /-- Waits for a goal, for at most a number of microseconds if one is given. -/
  | waitFor (limit : Option Nat) (goal : Goal)
  /-- Registers for a wait by other steps, and waits for one of its hooks or a goal. -/
  | await (register : List Step) (limit : Option Nat) (goal : Goal)
  /-- Takes other steps, and turns a light off whichever way they end. -/
  | scope (light : Nat) (steps : List Step)
  | getValue (key : Bytes) (size : Nat)
  /-- Reads a value, and tells whether it was missing if that fails. -/
  | probeValue (key : Bytes) (size : Nat)
  | setValue (key value : Bytes)
  | readCharacter
  | typeText (text : String)
  | computeMac (key message : Bytes)
  | generateCode (secret : Bytes) (counter : UInt64) (digits : Nat)
  /-- Cuts a code from a digest and delivers it. -/
  | deliver (digest : Digest) (digits : Nat) (counter : UInt64)
  | readSecret
  | watchButtons
  | nextEvent
  | load (slot : Nat)
  | loadAll
  /-- Stores under a slot the credential that another slot reads from a record. -/
  | save (slot number : Nat) (record : Bytes)

/-- What a step hands out. -/
inductive Reply
  | nothing
  | yielded (serviced : Bool)
  | answer (answer : Answer)
  | storedValue (value : Bytes) (length : Nat)
  | missing (isMissing : Bool)
  | character (byte : UInt8)
  | digest (digest : Digest)
  | code (code : Code)
  | delivery (delivery : Delivery)
  | text (text : String)
  | event (event : ButtonEvent)
  | credential (credential : Option Credential)
  | restored (restored : Restored)
  | lit (isLit : Bool)

/-- An entry of the journal. -/
inductive Entry
  /-- An upcall to a listener. -/
  | upcall (listener : Nat) (arguments : Arguments)
  /-- The end of a wait for a goal, with how often the goal was looked at. -/
  | waited (polls : Nat)
  /-- The end of a wait for hooks, with how often its goal was looked at and the arguments that a
  recorder of any such wait has kept last since one of them began. -/
  | awaited (polls : Nat) (arguments : Arguments)
  deriving DecidableEq, Repr

/-- The entry of an upcall that has run; only listeners have one. -/
def Entry.ofCall? (call : Call) : Option Entry :=
  match call.subscriber with
  | .listener id => some (.upcall id call.arguments)
  | _ => none

/-- The subscriber that a hook stands for in a wait. -/
def Hook.subscriber (ticket : Ticket) : Hook → Subscriber
  | listener id => .listener id
  | flag => .flag ticket
  | recorder => .recorder ticket

/-- The upcalls to listeners since there were `count` upcalls, in the order they ran. -/
def heardSince (count : Nat) (calls : History) : List Entry :=
  ((History.since count calls).filterMap Entry.ofCall?).reverse

/-- The condition of a goal, where the upcalls count since there were `start` of them. -/
def Goal.condition (goal : Goal) (start : Nat) : Condition := fun polls calls =>
  goal.polls.any (· ≤ polls) || goal.upcalls.any (· ≤ (heardSince start calls).length)

end OtpToken.Bench
