import OtpToken.Board.Earliest
import OtpToken.Board.Upcall
import OtpToken.Fault

/-!
# Alarms

The alarm hardware serves any number of virtual alarms, each with a subscriber and
an expiration of its own. They are known by their place in a table. The default
alarm stands at place zero and cannot be freed; the place of a freed alarm is given
to the next one that is allocated.
-/

namespace OtpToken

/-- The number of ticks in a second. -/
def tickFrequency : Nat := 32768

/-- The ticks that a number of milliseconds takes. -/
def ticksOfMilliseconds (milliseconds : Nat) : Nat := milliseconds * tickFrequency / 1000

/-- A virtual alarm. -/
structure Timer where
  subscriber : Option Subscriber
  expiration : Option Nat
  deriving DecidableEq, Repr

/-- An alarm that is not armed and has no subscriber. -/
def Timer.disarmed : Timer := ⟨none, none⟩

/-- The table of alarms; a freed place holds none. -/
structure Alarms where
  places : List (Option Timer)
  deriving DecidableEq, Repr

namespace Alarms

/-- The place of the default alarm. -/
def defaultPlace : Nat := 0

/-- The table with the default alarm alone. -/
def initial : Alarms := ⟨[some .disarmed]⟩

/-- The alarm at a place. -/
def timer? (alarms : Alarms) (place : Nat) : Option Timer := alarms.places[place]?.join

/-- The table with another timer at a place. -/
def setTimer (alarms : Alarms) (place : Nat) (timer : Option Timer) : Alarms :=
  ⟨alarms.places.set place timer⟩

/-- The first free place, or the one after the last. -/
def freePlace (alarms : Alarms) : Nat := alarms.places.findIdx Option.isNone

/-- Allocates a fresh alarm, and hands out its place. -/
def allocate (alarms : Alarms) : Nat × Alarms :=
  let place := alarms.freePlace
  if place < alarms.places.length then (place, alarms.setTimer place (some .disarmed))
  else (place, ⟨alarms.places ++ [some .disarmed]⟩)

/-- Frees the alarm at a place, unless it is the default one. -/
def free (alarms : Alarms) (place : Nat) : Alarms :=
  if place = defaultPlace then alarms else alarms.setTimer place none

/-- Gives an alarm another subscriber, and hands out the previous one. -/
def subscribe (alarms : Alarms) (place : Nat) (subscriber : Option Subscriber) :
    Except ReturnCode (Option Subscriber × Alarms) :=
  match alarms.timer? place with
  | some timer =>
    .ok (timer.subscriber, alarms.setTimer place (some { timer with subscriber := subscriber }))
  | none => .error .invalid

/-- Arms an alarm for a tick, in place of the one it was armed for. -/
def arm (alarms : Alarms) (place : Nat) (expiration : Nat) : Except ReturnCode Alarms :=
  match alarms.timer? place with
  | some timer => .ok (alarms.setTimer place (some { timer with expiration := some expiration }))
  | none => .error .invalid

/-- Disarms an alarm that is armed. -/
def cancel (alarms : Alarms) (place : Nat) : Except ReturnCode Alarms :=
  match alarms.timer? place with
  | some timer =>
    match timer.expiration with
    | some _ => .ok (alarms.setTimer place (some { timer with expiration := none }))
    | none => .error .already
  | none => .error .invalid

/-- The expirations of the armed alarms with their places, in the order of the places. -/
def deadlines (alarms : Alarms) : List (Nat × Nat) :=
  alarms.places.zipIdx.filterMap fun (timer, place) =>
    (timer.bind Timer.expiration).map fun expiration => (expiration, place)

/-- The alarm that expires first, the one at the lowest place among these. -/
def next? (alarms : Alarms) : Option (Nat × Nat) := earliest? alarms.deadlines

/-- When the first alarm expires. -/
def deadline (alarms : Alarms) : Option Nat := alarms.next?.map Prod.fst

/-- Whether any alarm is armed. -/
def isArmed (alarms : Alarms) : Bool := alarms.deadline.isSome

/-- Fires the alarm that expires first: it is disarmed, and its subscriber hears the present tick
and the expiration. -/
def service (alarms : Alarms) (now : Nat) : Alarms × Option Call :=
  match alarms.next? with
  | some (expiration, place) =>
    match alarms.timer? place with
    | some timer =>
      (alarms.setTimer place (some { timer with expiration := none }),
        Subscriber.call? timer.subscriber now expiration)
    | none => (alarms, none)
  | none => (alarms, none)

end Alarms

end OtpToken
