import OtpToken.Board.Alarms
import OtpToken.Crypto.Hmac

/-!
# Keyed-hash unit

The unit computes HMAC-SHA256 over the shared key and data, and puts the digest into
the shared destination. While a run is outstanding it accepts no command.
-/

namespace OtpToken

/-- The keyed-hash driver. -/
structure MacUnit where
  subscriber : Option Subscriber
  key : Bytes
  data : Bytes
  destination : Bytes
  /-- Whether the one supported algorithm has been chosen. -/
  chosen : Bool
  due : Option Nat
  /-- The runs that have been started. -/
  runs : Nat
  deriving DecidableEq, Repr

namespace MacUnit

/-- The greatest number of bytes of a key. -/
def maxKeyLength : Nat := 64

/-- How long a run takes. -/
def milliseconds : Nat := 2

/-- A unit that nothing is registered with. -/
def initial : MacUnit := ⟨none, [], [], [], false, none, 0⟩

/-- A unit with an outstanding run refuses every command. -/
def whenIdle {α : Type} (unit : MacUnit) (answer : Except ReturnCode α) : Except ReturnCode α :=
  if unit.due.isSome then .error .busy else answer

/-- Shares another key, and hands out the previous one. -/
def shareKey (unit : MacUnit) (key : Bytes) : Except ReturnCode (Bytes × MacUnit) :=
  unit.whenIdle (.ok (unit.key, { unit with key := key }))

/-- Shares other data, and hands out the previous data. -/
def shareData (unit : MacUnit) (data : Bytes) : Except ReturnCode (Bytes × MacUnit) :=
  unit.whenIdle (.ok (unit.data, { unit with data := data }))

/-- Shares another destination, and hands out the previous one. -/
def shareDestination (unit : MacUnit) (destination : Bytes) :
    Except ReturnCode (Bytes × MacUnit) :=
  unit.whenIdle (.ok (unit.destination, { unit with destination := destination }))

/-- Chooses the algorithm by number: zero is SHA-256, and one and two are known but not
supported. -/
def choose (unit : MacUnit) (algorithm : Nat) : Except ReturnCode MacUnit :=
  unit.whenIdle <|
    match algorithm with
    | 0 => .ok { unit with chosen := true }
    | 1 | 2 => .error .noSupport
    | _ => .error .invalid

/-- Starts a run over what is shared. -/
def run (unit : MacUnit) (now : Nat) : Except ReturnCode MacUnit :=
  unit.whenIdle <|
    if !unit.chosen then .error .invalid
    else if unit.key = [] then .error .reserve
    else if maxKeyLength < unit.key.length ∨ unit.destination.length < Sha256.digestSize then
      .error .size
    else .ok { unit with
      runs := unit.runs + 1
      due := some (now + ticksOfMilliseconds milliseconds) }

/-- Whether a subscriber or a buffer is still registered. -/
def isExposed (unit : MacUnit) : Bool :=
  unit.subscriber.isSome || unit.key != [] || unit.data != [] || unit.destination != []

/-- Completes the outstanding run: the digest goes to the front of the destination. -/
def service (unit : MacUnit) : Except Trap (MacUnit × Option Call) :=
  if unit.due.isNone then .ok (unit, none)
  else if unit.destination.length < Sha256.digestSize then
    .error (.sliceOutOfBounds Sha256.digestSize unit.destination.length)
  else
    .ok ({ unit with
        due := none
        destination :=
          (Hmac.mac unit.key unit.data).val ++ unit.destination.drop Sha256.digestSize },
      Subscriber.call? unit.subscriber 0 Sha256.digestSize)

end MacUnit

end OtpToken
