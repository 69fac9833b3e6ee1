import OtpToken.CommandLine.Invocation
import OtpToken.Credential
import OtpToken.Numeral

/-!
# Configuration and command

What an invocation means: where the files are and what the board has, and what is to
be done. The two are read apart from each other, since the board is brought up before
the command is looked at.
-/

namespace OtpToken.CommandLine

/-- Why an invocation has no meaning. -/
inductive UsageError
  | numeral (error : NumeralError)
  | slotOutOfRange (slot : Nat)
  deriving DecidableEq, Repr

/-- The wording of a usage error. -/
def UsageError.message : UsageError → String
  | numeral error => error.message
  | slotOutOfRange slot => s!"slot {slot} out of range, there are {slotCount} slots"

/-- What every subcommand needs to know. -/
structure Config where
  stateFile : String
  keyFile : String
  buttons : Nat
  usbKeyboard : Bool
  verbosity : Nat
  deriving DecidableEq, Repr

/-- What is to be done. -/
inductive Request
  | run
  | code (slot : Slot)
  | program (slot : Slot) (secret : String)
  | status
  deriving DecidableEq, Repr

/-- Reads a number. -/
def readNumber (text : String) : Except UsageError Nat :=
  match Numeral.read text.toList with
  | .ok number => .ok number
  | .error error => .error (.numeral error)

/-- Reads the number of a slot. -/
def readSlot (text : String) : Except UsageError Slot := do
  let number ← readNumber text
  match Slot.ofNat? number with
  | some slot => return slot
  | none => throw (.slotOutOfRange number)

namespace Invocation

/-- The configuration of an invocation. -/
def config (invocation : Invocation) : Except UsageError Config := do
  let buttons ← readNumber (invocation.value .buttons)
  return {
    stateFile := invocation.value .stateFile
    keyFile := invocation.value .keyFile
    buttons := buttons
    usbKeyboard := decide (0 < invocation.times .usbKeyboard)
    verbosity := invocation.times .verbose }

/-- The argument at a place after the name of the subcommand. -/
def argument (invocation : Invocation) (place : Nat) : String :=
  invocation.after.positionals.getD place ""

/-- What an invocation asks for. -/
def request (invocation : Invocation) : Except UsageError Request :=
  match invocation.subcommand with
  | .run => .ok .run
  | .code => do return .code (← readSlot (invocation.argument 0))
  | .program => do
    let slot ← readSlot (invocation.argument 0)
    return .program slot (invocation.argument 1)
  | .status => .ok .status

end Invocation

end OtpToken.CommandLine
