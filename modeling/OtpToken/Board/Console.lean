import OtpToken.Board.Upcall
import OtpToken.Bytes
import OtpToken.Fault

/-!
# Console

Text is printed at once, and characters are read one at a time into a shared buffer.
The input is one stream of bytes: a pending read is fed a byte of it when nothing
else is due, and with no read pending its lines are taken for gestures.
-/

namespace OtpToken

/-- The console driver. -/
structure Console where
  subscriber : Option Subscriber
  /-- The bytes that have not been taken yet. -/
  input : Bytes
  /-- All that has been printed. -/
  transcript : String
  buffer : Bytes
  reading : Bool
  /-- A byte that has come in for the pending read, and the tick it came in. -/
  received : Option (Nat × UInt8)
  deriving DecidableEq, Repr

namespace Console

/-- A console that will be fed the given bytes. -/
def initial (input : Bytes) : Console := ⟨none, input, "", [], false, none⟩

/-- Prints a text as it is. -/
def print (console : Console) (text : String) : Console :=
  { console with transcript := console.transcript ++ text }

/-- Shares another read buffer, and hands out the previous one. -/
def share (console : Console) (buffer : Bytes) : Except ReturnCode (Bytes × Console) :=
  if console.reading then .error .busy
  else .ok (console.buffer, { console with buffer := buffer })

/-- Starts to read one character. -/
def read (console : Console) : Except ReturnCode Console :=
  if console.reading then .error .busy
  else if console.buffer = [] then .error .reserve
  else .ok { console with reading := true }

/-- Gives up the pending read. -/
def abort (console : Console) : Except ReturnCode Console :=
  if console.reading then .ok { console with reading := false, received := none }
  else .error .already

/-- Whether a read is pending that no byte has come in for. -/
def isHungry (console : Console) : Bool := console.reading && console.received.isNone

/-- Takes a byte of the input for the pending read, if there is one left. -/
def feed? (console : Console) (now : Nat) : Option Console :=
  match console.input with
  | [] => none
  | byte :: rest => some { console with input := rest, received := some (now, byte) }

/-- When the pending read completes. -/
def deadline (console : Console) : Option Nat := console.received.map Prod.fst

/-- Completes the pending read: the byte goes to the front of the buffer. -/
def service (console : Console) : Except Trap (Console × Option Call) :=
  match console.received with
  | none => .ok (console, none)
  | some (_, byte) =>
    match console.buffer with
    | [] => .error (.indexOutOfBounds 0 0)
    | _ :: rest =>
      .ok ({ console with reading := false, received := none, buffer := byte :: rest },
        Subscriber.call? console.subscriber 0 1)

end Console

end OtpToken
