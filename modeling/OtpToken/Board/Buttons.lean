import OtpToken.Board.Alarms
import OtpToken.Board.Gesture
import OtpToken.Board.Row

/-!
# Buttons and lights

A gesture becomes two transitions of its button, down at once and up later, in a
queue ordered by tick. Only a button whose interrupt is enabled tells the subscriber
of its transitions. Each button has a light.
-/

namespace OtpToken

/-- A change of a button that is still to come. -/
structure Transition where
  due : Nat
  button : Nat
  pressed : Bool
  deriving DecidableEq, Repr

/-- The button driver. -/
structure Buttons where
  subscriber : Option Subscriber
  pressed : Row
  interrupts : Row
  queue : List Transition
  deriving DecidableEq, Repr

namespace Buttons

/-- A number of buttons that are up, with interrupts disabled. -/
def initial (count : Nat) : Buttons where
  subscriber := none
  pressed := .all count false
  interrupts := .all count false
  queue := []

/-- The number of buttons. -/
def count (buttons : Buttons) : Nat := buttons.pressed.size

/-- Enables or disables the interrupt of a button. -/
def setInterrupt (buttons : Buttons) (button : Nat) (enabled : Bool) : Except ReturnCode Buttons :=
  match buttons.interrupts.set? button enabled with
  | some interrupts => .ok { buttons with interrupts := interrupts }
  | none => .error .invalid

/-- Enables the interrupts of all buttons. -/
def enableAll (buttons : Buttons) : Buttons :=
  { buttons with interrupts := buttons.interrupts.setAll true }

/-- Whether a button is down. -/
def read (buttons : Buttons) (button : Nat) : Except ReturnCode Bool :=
  match buttons.pressed.get? button with
  | some pressed => .ok pressed
  | none => .error .invalid

/-- Puts a transition into a queue, after all that are due no later. -/
def schedule (transition : Transition) : List Transition → List Transition
  | [] => [transition]
  | first :: rest =>
    if transition.due < first.due then transition :: first :: rest
    else first :: schedule transition rest

/-- Queues the transitions of a gesture that starts now. -/
def perform (buttons : Buttons) (now : Nat) (gesture : Gesture) : Buttons :=
  let release := now + ticksOfMilliseconds gesture.milliseconds
  { buttons with
    queue := schedule ⟨release, gesture.button, false⟩
      (schedule ⟨now, gesture.button, true⟩ buttons.queue) }

/-- When the first transition is due. -/
def deadline (buttons : Buttons) : Option Nat := buttons.queue.head?.map Transition.due

/-- Serves the first transition. One of a button that does not exist has no effect. -/
def service (buttons : Buttons) : Except Trap (Buttons × Option Call) :=
  match buttons.queue with
  | [] => .ok (buttons, none)
  | transition :: queue =>
    match buttons.pressed.set? transition.button transition.pressed with
    | none => .ok ({ buttons with queue := queue }, none)
    | some pressed =>
      let served := { buttons with pressed := pressed, queue := queue }
      match buttons.interrupts.get? transition.button with
      | some true =>
        .ok (served, Subscriber.call? buttons.subscriber transition.button
          transition.pressed.toNat)
      | some false => .ok (served, none)
      | none => .error (.indexOutOfBounds buttons.interrupts.size transition.button)

end Buttons

/-- The lights, one for each button. -/
structure Lights where
  lit : Row
  deriving DecidableEq, Repr

namespace Lights

/-- A number of lights that are off. -/
def initial (count : Nat) : Lights := ⟨.all count false⟩

/-- The number of lights. -/
def count (lights : Lights) : Nat := lights.lit.size

/-- Whether a light is on; one that does not exist is off. -/
def isLit (lights : Lights) (place : Nat) : Bool := (lights.lit.get? place).getD false

/-- Turns a light on or off. -/
def set (lights : Lights) (place : Nat) (lit : Bool) : Except ReturnCode Lights :=
  match lights.lit.set? place lit with
  | some lit => .ok ⟨lit⟩
  | none => .error .invalid

end Lights

end OtpToken
