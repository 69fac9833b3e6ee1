/-!
# What can go wrong

A driver answers a command that it refuses with a return code. The device turns
these and its own refusals into faults, which it reports and survives. A trap is
different: the program stops there and then.
-/

namespace OtpToken

/-- The codes with which a driver refuses a command or reports a failed completion. -/
inductive ReturnCode
  | fail
  | busy
  | already
  | off
  | reserve
  | invalid
  | size
  | cancel
  | noMemory
  | noSupport
  | noDevice
  | uninstalled
  | noAcknowledgement
  deriving DecidableEq, Repr

namespace ReturnCode

/-- The number of a return code; zero is left for success. -/
def number : ReturnCode → Nat
  | fail => 1
  | busy => 2
  | already => 3
  | off => 4
  | reserve => 5
  | invalid => 6
  | size => 7
  | cancel => 8
  | noMemory => 9
  | noSupport => 10
  | noDevice => 11
  | uninstalled => 12
  | noAcknowledgement => 13

/-- The status argument of an upcall that reports this code. -/
def status (code : ReturnCode) : UInt32 := UInt32.ofNat code.number

/-- Reads the status argument of an upcall: zero is success, and a number that no code has is a
plain failure. -/
def ofStatus? (status : UInt32) : Option ReturnCode :=
  match status.toNat with
  | 0 => none
  | 2 => some busy
  | 3 => some already
  | 4 => some off
  | 5 => some reserve
  | 6 => some invalid
  | 7 => some size
  | 8 => some cancel
  | 9 => some noMemory
  | 10 => some noSupport
  | 11 => some noDevice
  | 12 => some uninstalled
  | 13 => some noAcknowledgement
  | _ => some fail

/-- The status of a return code stands for that code. -/
@[simp] theorem ofStatus?_status (code : ReturnCode) : ofStatus? code.status = some code := by
  cases code <;> rfl

/-- The wording of a return code. -/
def message : ReturnCode → String
  | fail => "Unknown Error"
  | busy => "Underlying system is busy; retry"
  | already => "The state requested is already set"
  | off => "The component is powered down"
  | reserve => "Reservation required before use"
  | invalid => "An invalid parameter was passed"
  | size => "Parameter passed was too large"
  | cancel => "Operation canceled by a call"
  | noMemory => "Memory required not available"
  | noSupport => "Operation or command is unsupported"
  | noDevice => "Device does not exist"
  | uninstalled => "Device is not physically installed"
  | noAcknowledgement => "Packet transmission not acknowledged"

end ReturnCode

/-- Everything that can go wrong while a credential is handled, none of it fatal to the device. -/
inductive Fault
  /-- A driver refused a command or reported a failed completion. -/
  | rejected (code : ReturnCode)
  /-- A bounded wait ran out before its condition held. -/
  | timedOut
  /-- A secret is not base32, or too short or too long. -/
  | malformedSecret
  /-- A secret could not be sealed or opened. -/
  | sealing
  /-- The storage driver refused a command or reported a failed completion. -/
  | storage (code : ReturnCode)
  /-- A slot holds no secret. -/
  | notConfigured (slot : Nat)
  /-- There is no slot of this number. -/
  | noSuchSlot (slot : Nat)
  /-- No code has this many digits. -/
  | unsupportedDigits (digits : Nat)
  /-- Nothing is outstanding and no stimulus is left, so a wait would never end. -/
  | halted
  deriving DecidableEq, Repr

namespace Fault

/-- The wording of a fault. -/
def message : Fault → String
  | rejected code => code.message
  | timedOut => "timed out"
  | malformedSecret => "secret is not valid base32"
  | sealing => "encryption oracle failure"
  | storage code => code.message
  | notConfigured slot => s!"slot {slot} not yet configured"
  | noSuchSlot slot => s!"no credential slot for button {slot}"
  | unsupportedDigits digits => s!"cannot produce {digits}-digit codes"
  | halted => "platform halted"

/-- The return code behind a fault, if a driver is behind it. -/
def code? : Fault → Option ReturnCode
  | rejected code => some code
  | storage code => some code
  | _ => none

end Fault

/-- What stops the program there and then. -/
inductive Trap
  /-- A counter at its greatest value was advanced. -/
  | counterOverflow
  /-- A table of `size` entries was indexed at `index`. -/
  | indexOutOfBounds (size index : Nat)
  /-- The first `length` bytes were taken of a buffer of `size`. -/
  | sliceOutOfBounds (length size : Nat)
  /-- A table was asked for that no memory could hold. -/
  | capacityOverflow
  /-- The supply failed. -/
  | powerLoss
  deriving DecidableEq, Repr

/-- The wording of a trap. -/
def Trap.message : Trap → String
  | counterOverflow => "attempt to add with overflow"
  | indexOutOfBounds size index =>
    s!"index out of bounds: the len is {size} but the index is {index}"
  | sliceOutOfBounds length size =>
    s!"range end index {length} out of range for slice of length {size}"
  | capacityOverflow => "capacity overflow"
  | powerLoss => "power lost"

/-- Why an action ended early. -/
inductive Failure
  | fault (fault : Fault)
  | trap (trap : Trap)
  deriving DecidableEq, Repr

end OtpToken
