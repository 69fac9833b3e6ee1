import OtpToken.Board.Alarms
import OtpToken.Bytes

/-!
# Emulated keyboard

The keyboard types the shared text as keystrokes. Only printable ASCII can be typed,
and the last sixteen texts are remembered.
-/

namespace OtpToken

/-- The keyboard driver. -/
structure Keyboard where
  subscriber : Option Subscriber
  buffer : Bytes
  due : Option Nat
  /-- The texts typed last, oldest first. -/
  typed : List String
  deriving DecidableEq, Repr

namespace Keyboard

/-- How many texts are remembered. -/
def memory : Nat := 16

/-- How long a keystroke takes. -/
def milliseconds : Nat := 8

/-- A keyboard that has typed nothing. -/
def initial : Keyboard := ⟨none, [], none, []⟩

/-- Whether a byte is a printable ASCII character or a space. -/
def isPrintable (byte : UInt8) : Bool := 0x20 ≤ byte && byte ≤ 0x7e

/-- The text of printable bytes. -/
def textOf (bytes : Bytes) : String := String.ofList (bytes.map fun byte => Char.ofNat byte.toNat)

/-- Shares another text to be typed, and hands out the previous one. -/
def share (keyboard : Keyboard) (buffer : Bytes) : Except ReturnCode (Bytes × Keyboard) :=
  if keyboard.due.isSome then .error .busy
  else .ok (keyboard.buffer, { keyboard with buffer := buffer })

/-- Starts to type the shared text. -/
def send (keyboard : Keyboard) (now : Nat) : Except ReturnCode Keyboard :=
  if keyboard.due.isSome then .error .busy
  else if keyboard.buffer = [] then .error .reserve
  else if !keyboard.buffer.all isPrintable then .error .invalid
  else .ok { keyboard with
    due := some (now + ticksOfMilliseconds (milliseconds * keyboard.buffer.length)) }

/-- Remembers a text, and forgets the oldest one where there are too many. -/
def remember (text : String) (typed : List String) : List String :=
  (if typed.length = memory then typed.drop 1 else typed) ++ [text]

/-- Completes the outstanding text. -/
def service (keyboard : Keyboard) : Keyboard × Option Call :=
  if keyboard.due.isNone then (keyboard, none)
  else
    ({ keyboard with due := none, typed := remember (textOf keyboard.buffer) keyboard.typed },
      Subscriber.call? keyboard.subscriber 0 keyboard.buffer.length)

end Keyboard

end OtpToken
