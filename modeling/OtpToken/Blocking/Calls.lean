import OtpToken.Blocking.Basic
import OtpToken.Code

/-!
# Blocking calls

Each asynchronous operation of a driver as one call that returns when it has
completed. Whichever way a call ends, its upcall is taken back and its buffers are
emptied, as far as the driver lets it.
-/

namespace OtpToken

namespace Board

/-- Takes the default alarm back. -/
def releaseAlarm (board : Board) : Board :=
  let board := board.settle (board.cancelAlarm Alarms.defaultPlace)
  board.settle (board.subscribe (.alarm Alarms.defaultPlace) none)

/-- Takes the console back. -/
def releaseConsole (board : Board) : Board :=
  let board := board.settle board.abortRead
  let board := board.settle (board.share .character [])
  board.settle (board.subscribe .console none)

/-- Takes the keyboard back, if there is one. -/
def releaseKeyboard (board : Board) : Board :=
  let board := board.settle (board.share .text [])
  board.settle (board.subscribe .keyboard none)

/-- Takes the key-value unit back. -/
def releaseKeyValue (board : Board) : Board :=
  let board := board.settle (board.share .storedDestination [])
  let board := board.settle (board.share .storedValue [])
  let board := board.settle (board.share .storedKey [])
  board.settle (board.subscribe .keyValue none)

/-- Takes the keyed-hash unit back. -/
def releaseMacUnit (board : Board) : Board :=
  let board := board.settle (board.share .macData [])
  let board := board.settle (board.share .macDestination [])
  let board := board.settle (board.share .macKey [])
  board.settle (board.subscribe .macUnit none)

end Board

namespace BoardAct

open Act

/-- Waits for a number of milliseconds. -/
def delay (milliseconds : Nat) : BoardAct Unit := do
  let ticks ← ofExcept (ticksFor tickFrequency milliseconds)
  releasing Board.releaseAlarm do
    let _ ← awaitUpcall fun ticket => do
      subscribe (.alarm Alarms.defaultPlace) (some (.flag ticket))
      let _ ← command (·.armAlarm Alarms.defaultPlace ticks)

/-- Reads one character. -/
def readCharacter : BoardAct UInt8 :=
  releasing Board.releaseConsole do
    let _ ← awaitUpcall fun ticket => do
      subscribe .console (some (.flag ticket))
      let _ ← share .character [0]
      start .readCharacter
    match ← share .character [] with
    | byte :: _ => return byte
    | [] => fail (.rejected .size)

/-- Types a text on the keyboard. -/
def typeText (text : String) : BoardAct Unit :=
  releasing Board.releaseKeyboard do
    let ticket ← awaitUpcall fun ticket => do
      subscribe .keyboard (some (.recorder ticket))
      let _ ← share .text (Bytes.ofText text)
      start .typeText
    let _ ← completed ticket .rejected

/-- What a driver refuses on behalf of the store is a fault of the store. -/
def storageFault : Fault → Fault
  | .rejected code => .storage code
  | fault => fault

/-- The value of a key, which has at most `size` bytes, and its length. -/
def getValue (key : Bytes) (size : Nat) : BoardAct (Bytes × Nat) :=
  releasing Board.releaseKeyValue do
    let ticket ← mapFault storageFault <| awaitUpcall fun ticket => do
      subscribe .keyValue (some (.recorder ticket))
      let _ ← share .storedKey key
      let _ ← share .storedDestination (List.replicate size 0)
      start .getValue
    let value ← mapFault storageFault (share .storedDestination [])
    let length ← completed ticket .storage
    return (value.take length, length)

/-- Gives a key a value. -/
def setValue (key value : Bytes) : BoardAct Unit :=
  releasing Board.releaseKeyValue do
    let ticket ← mapFault storageFault <| awaitUpcall fun ticket => do
      subscribe .keyValue (some (.recorder ticket))
      let _ ← share .storedKey key
      let _ ← share .storedValue value
      start .setValue
    let _ ← completed ticket .storage

/-- Whether a fault says that the store holds nothing under a key. -/
def isMissing (fault : Fault) : Bool := fault == .storage .noSupport

/-- HMAC-SHA256 of a message under a key, computed by the keyed-hash unit. -/
def computeMac (key message : Bytes) : BoardAct Digest :=
  releasing Board.releaseMacUnit do
    let ticket ← awaitUpcall fun ticket => do
      subscribe .macUnit (some (.recorder ticket))
      let _ ← share .macKey key
      let _ ← share .macDestination (List.replicate Sha256.digestSize 0)
      let _ ← share .macData message
      command (·.chooseAlgorithm 0)
      start .runMac
    let destination ← share .macDestination []
    let length ← completed ticket .rejected
    if fits : length = Sha256.digestSize ∧ Sha256.digestSize ≤ destination.length then
      return Block.slice Sha256.digestSize 0 destination (by omega)
    else fail (.rejected .size)

/-- The code of a secret for a counter value. -/
def generateCode (secret : Bytes) (counter : UInt64) (digits : Nat) : BoardAct Code := do
  ofExcept (Code.checkDigits digits)
  let digest ← computeMac secret (Code.movingFactor counter)
  ofExcept (Code.truncate digest digits)

end BoardAct

end OtpToken
