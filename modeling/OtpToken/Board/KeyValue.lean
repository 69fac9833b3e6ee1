import OtpToken.Board.Alarms
import OtpToken.Storage.Store

/-!
# Key-value unit

The unit reads and writes one key of a store at a time. A read copies as much of the
value as the shared destination takes, and tells the whole length, so that a value
cut short is known from one that fits.
-/

namespace OtpToken

/-- What an outstanding operation of the key-value unit does. -/
inductive Access
  | get
  | set
  deriving DecidableEq, Repr

/-- How long an access takes. -/
def Access.milliseconds : Access → Nat
  | get => 1
  | set => 5

/-- The key-value driver and its store. -/
structure KeyValue where
  store : Store
  subscriber : Option Subscriber
  key : Bytes
  value : Bytes
  destination : Bytes
  pending : Option (Nat × Access)

namespace KeyValue

/-- A unit over a store that nothing is registered with. -/
def initial (store : Store) : KeyValue := ⟨store, none, [], [], [], none⟩

/-- A unit with an outstanding operation refuses every command. -/
def whenIdle {α : Type} (unit : KeyValue) (answer : Except ReturnCode α) : Except ReturnCode α :=
  if unit.pending.isSome then .error .busy else answer

/-- Shares another key, and hands out the previous one. -/
def shareKey (unit : KeyValue) (key : Bytes) : Except ReturnCode (Bytes × KeyValue) :=
  unit.whenIdle (.ok (unit.key, { unit with key := key }))

/-- Shares another value, and hands out the previous one. -/
def shareValue (unit : KeyValue) (value : Bytes) : Except ReturnCode (Bytes × KeyValue) :=
  unit.whenIdle (.ok (unit.value, { unit with value := value }))

/-- Shares another destination, and hands out the previous one. -/
def shareDestination (unit : KeyValue) (destination : Bytes) :
    Except ReturnCode (Bytes × KeyValue) :=
  unit.whenIdle (.ok (unit.destination, { unit with destination := destination }))

/-- Starts an access to the shared key. -/
def start (unit : KeyValue) (now : Nat) (access : Access) : Except ReturnCode KeyValue :=
  unit.whenIdle <|
    if unit.key = [] then .error .reserve
    else .ok { unit with pending := some (now + ticksOfMilliseconds access.milliseconds, access) }

/-- When the outstanding access completes. -/
def deadline (unit : KeyValue) : Option Nat := unit.pending.map Prod.fst

/-- The front of a destination replaced by as much of a value as fits. -/
def copyInto (destination value : Bytes) : Bytes :=
  value.take destination.length ++ destination.drop value.length

/-- Completes the outstanding access; its subscriber hears the status and the length of the
value. -/
def service (unit : KeyValue) : KeyValue × Option Call :=
  match unit.pending with
  | none => (unit, none)
  | some (_, .get) =>
    let served := { unit with pending := none }
    match unit.store.get? unit.key with
    | some value =>
      let status := if unit.destination.length < value.length then ReturnCode.size.number else 0
      ({ served with destination := copyInto unit.destination value },
        Subscriber.call? unit.subscriber status value.length)
    | none => (served, Subscriber.call? unit.subscriber ReturnCode.noSupport.number 0)
  | some (_, .set) =>
    let served := { unit with pending := none }
    match unit.store.put unit.key unit.value with
    | .ok store =>
      ({ served with store := store }, Subscriber.call? unit.subscriber 0 unit.value.length)
    | .error _ => (served, Subscriber.call? unit.subscriber ReturnCode.fail.number 0)

end KeyValue

end OtpToken
