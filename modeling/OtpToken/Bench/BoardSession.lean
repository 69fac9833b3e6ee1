import OtpToken.Bench.Step

/-!
# Sessions with a board

A session takes steps on one board. Every step leaves a line: its reply or what went
wrong, the clock, and what was heard and printed in the course of it. A fault ends
only its step, and a trap ends the session.
-/

namespace OtpToken.Bench

open Act

/-- What a session remembers from step to step, apart from the board. -/
structure Memory where
  /-- The places of the alarms that were allocated, in order. -/
  handles : List Nat
  watch : Option ButtonWatch
  /-- The tickets of the waits for hooks, whose recorders may still be subscribed. -/
  waits : List Ticket

/-- Nothing to remember. -/
def Memory.empty : Memory := ⟨[], none, []⟩

/-- A board at the bench. -/
structure Session where
  board : Board
  memory : Memory
  /-- What has been heard since the present step began. -/
  journal : List Entry
  /-- The number of upcalls that the journal takes account of. -/
  heard : Nat
  /-- The number of upcalls when the present step began. -/
  start : Nat
  /-- The number of upcalls when the last wait for hooks began. -/
  renewed : Nat

/-- What is done in a session. -/
abbrev SessionAct (α : Type) := Act Session α

namespace Session

variable {α : Type}

/-- The session at the beginning of a step. -/
def beginStep (board : Board) (memory : Memory) : Session where
  board := board
  memory := memory
  journal := []
  heard := board.calls.length
  start := board.calls.length
  renewed := board.calls.length

/-- Does something with the board. -/
def onBoard (action : BoardAct α) : SessionAct α := fun session =>
  match action session.board with
  | .ok value board => .ok value { session with board := board }
  | .error failure board => .error failure { session with board := board }

/-- Enters the upcalls that are not in the journal yet. -/
def listen (session : Session) : Session :=
  { session with
    journal := session.journal ++ heardSince session.heard session.board.calls
    heard := session.board.calls.length }

/-- Makes an entry in the journal. -/
def enter (entry : Entry) : SessionAct Unit := modify fun session =>
  { session.listen with journal := session.listen.journal ++ [entry] }

/-- The place of an alarm; a handle that was never given out has none in the table. -/
def placeOf (session : Session) : AlarmName → Nat
  | .default => Alarms.defaultPlace
  | .allocated handle => session.memory.handles.getD handle session.board.alarms.places.length

/-- Changes what the session remembers. -/
def remember (change : Memory → Memory) : SessionAct Unit :=
  modify fun session => { session with memory := change session.memory }

/-- Gives a raw command to the board. A freshly allocated alarm is remembered. -/
def command (ticket : Ticket) (command : Command Hook AlarmName) : SessionAct Answer := do
  let session ← get
  let renamed := command.rename (Hook.subscriber ticket) session.placeOf
  match ← onBoard (BoardAct.command (·.obey renamed)) with
  | .place place =>
    remember fun memory => { memory with handles := memory.handles ++ [place] }
    return .place place
  | answer => return answer

/-- Yields once. -/
def yieldOnce : SessionAct Bool := fun session =>
  match session.board.yield with
  | (.serviced, board) => .ok true { session with board := board }
  | (.idle, board) => .ok false { session with board := board }
  | (.stopped trap, board) => .error (.trap trap) { session with board := board }

/-- Waits, and hands out how that ended together with the number of polls. -/
def wait (limit : Option Nat) (condition : Condition) : SessionAct (Except Fault Unit × Nat) :=
  fun session =>
    let watched := session.board.waitWithin limit condition
    let after := { session with board := watched.board }
    match watched.result with
    | .ok () => .ok (.ok (), watched.polls) after
    | .error (.fault fault) => .ok (.error fault, watched.polls) after
    | .error (.trap trap) => .error (.trap trap) after

/-- Waits for a goal. -/
def waitFor (limit : Option Nat) (goal : Goal) : SessionAct Unit := do
  let session ← get
  let (result, polls) ← wait limit (goal.condition session.start)
  enter (.waited polls)
  ofExcept result

/-- Begins a wait for hooks. -/
def beginWait : SessionAct Ticket := do
  let ticket ← onBoard BoardAct.drawTicket
  remember fun memory => { memory with waits := ticket :: memory.waits }
  modify fun session => { session with renewed := session.board.calls.length }
  return ticket

/-- The arguments that a recorder of any wait for hooks has kept last since one of them began, zeros
if there are none. -/
def recorded (session : Session) : Arguments :=
  let isKept (call : Call) : Bool :=
    session.memory.waits.any fun ticket => call.subscriber == .recorder ticket
  match (History.since session.renewed session.board.calls).find? isKept with
  | some call => call.arguments
  | none => ⟨0, 0, 0⟩

/-- Registers under a fresh ticket, and waits until an upcall of it has run or a goal is reached.
The goal is looked at only while no such upcall has run. -/
def await (register : Ticket → SessionAct Unit) (limit : Option Nat) (goal : Goal) :
    SessionAct Unit := do
  let start := (← get).start
  let ticket ← beginWait
  let result ← attempt do
    register ticket
    wait limit fun polls calls => ticket.isRaised calls || goal.condition start polls calls
  let session ← get
  match result with
  | .ok (result, polls) =>
    enter (.awaited (polls - (ticket.isRaised session.board.calls).toNat) session.recorded)
    ofExcept result
  | .error fault =>
    enter (.awaited 0 session.recorded)
    fail fault

/-- Does something, and turns a light off whichever way that ends. Hands out whether the light was
on just before. -/
def scope (light : Nat) (body : SessionAct Unit) : SessionAct Bool :=
  releasing (fun session =>
      { session with board := session.board.settle (session.board.setLight light false) }) do
    body
    onBoard (BoardAct.look (·.lights.isLit light))

/-- Reads a value, and tells whether it was missing if that fails. -/
def probeValue (key : Bytes) (size : Nat) : SessionAct Reply := do
  match ← attempt (onBoard (BoardAct.getValue key size)) with
  | .ok _ => return .nothing
  | .error fault => return .missing (BoardAct.isMissing fault)

/-- Cuts a code from a digest and delivers it. -/
def deliver (digest : Digest) (digits : Nat) (counter : UInt64) : SessionAct Delivery := do
  let code ← ofExcept (Code.truncate digest digits)
  onBoard (Delivery.deliver code counter)

/-- Begins a watch over the buttons, in place of an earlier one. -/
def watchButtons : SessionAct Unit := do
  let watch ← onBoard ButtonWatch.begin
  remember fun memory => { memory with watch := some watch }

/-- Waits for the next press and classifies it; without a watch there is none. -/
def nextEvent : SessionAct ButtonEvent := do
  match (← get).memory.watch with
  | some watch => onBoard watch.nextEvent
  | none => fail .halted

/-- The stored credential of a slot that is given by number. -/
def load (number : Nat) : SessionAct (Option Credential) := do
  let slot ← ofExcept (Slot.select number)
  onBoard (Keystore.load slot)

/-- Stores under a slot the credential that another slot reads from a record. -/
def save (slot number : Nat) (record : Bytes) : SessionAct Unit := do
  match ← ofTrapped (Credential.parse number record) with
  | some credential => onBoard (Keystore.save slot credential)
  | none => pure ()

end Session

open Session

mutual

/-- Takes a step inside the wait of a ticket. -/
def Step.take (ticket : Ticket) : Step → SessionAct Reply
  | .yield => return .yielded (← yieldOnce)
  | .fail status => Act.fail (.rejected ((ReturnCode.ofStatus? status).getD .fail))
  | .command command => return .answer (← Session.command ticket command)
  | .delay milliseconds => do
    onBoard (BoardAct.delay milliseconds)
    return .nothing
  | .waitFor limit goal => do
    Session.waitFor limit goal
    return .nothing
  | .await register limit goal => do
    Session.await (fun ticket => takeAll ticket register) limit goal
    return .nothing
  | .scope light steps => return .lit (← Session.scope light (takeAll ticket steps))
  | .getValue key size => do
    let (value, length) ← onBoard (BoardAct.getValue key size)
    return .storedValue value length
  | .probeValue key size => Session.probeValue key size
  | .setValue key value => do
    onBoard (BoardAct.setValue key value)
    return .nothing
  | .readCharacter => return .character (← onBoard BoardAct.readCharacter)
  | .typeText text => do
    onBoard (BoardAct.typeText text)
    return .nothing
  | .computeMac key message => return .digest (← onBoard (BoardAct.computeMac key message))
  | .generateCode secret counter digits =>
    return .code (← onBoard (BoardAct.generateCode secret counter digits))
  | .deliver digest digits counter => return .delivery (← Session.deliver digest digits counter)
  | .readSecret => return .text (← onBoard SecretEntry.readLine)
  | .watchButtons => do
    Session.watchButtons
    return .nothing
  | .nextEvent => return .event (← Session.nextEvent)
  | .load slot => return .credential (← Session.load slot)
  | .loadAll => return .restored (← onBoard Keystore.loadAll)
  | .save slot number record => do
    Session.save slot number record
    return .nothing

/-- Takes steps one after the other, up to the first that fails. -/
def takeAll (ticket : Ticket) : List Step → SessionAct Unit
  | [] => pure ()
  | step :: rest => do
    let _ ← step.take ticket
    takeAll ticket rest

end

/-- What a step leaves. -/
structure Line where
  result : Except Failure Reply
  clock : Nat
  journal : List Entry
  printed : String

/-- What a board has printed after the first `count` characters. -/
def printedSince (count : Nat) (board : Board) : String :=
  String.ofList (board.console.transcript.toList.drop count)

namespace Session

/-- Takes a step of its own, in no wait. -/
def takeStep (step : Step) : SessionAct Reply := do
  let ticket ← onBoard BoardAct.drawTicket
  step.take ticket

/-- The line of a step that began after `count` characters had been printed. -/
def line (session : Session) (count : Nat) (result : Except Failure Reply) : Line where
  result := result
  clock := session.board.clock
  journal := session.listen.journal
  printed := printedSince count session.board

/-- Takes steps one after the other, each of which leaves a line. -/
def runFrom (board : Board) (memory : Memory) : List Step → List Line
  | [] => []
  | step :: rest =>
    let count := board.console.transcript.length
    match takeStep step (beginStep board memory) with
    | .ok reply after => after.line count (.ok reply) :: runFrom after.board after.memory rest
    | .error (.fault fault) after =>
      after.line count (.error (.fault fault)) :: runFrom after.board after.memory rest
    | .error (.trap trap) after => [after.line count (.error (.trap trap))]

/-- Takes steps on a board. -/
def run (board : Board) (steps : List Step) : List Line := runFrom board .empty steps

end Session

end OtpToken.Bench
