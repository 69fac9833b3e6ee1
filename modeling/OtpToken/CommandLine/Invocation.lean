import OtpToken.CommandLine.Arguments

/-!
# Invocations

A command line names a subcommand, with options before or after it and the
subcommand's own arguments after it. An option that is given on both sides counts as
given after the subcommand.
-/

namespace OtpToken.CommandLine

/-- What the program can be asked to do. -/
inductive Subcommand
  | run
  | code
  | program
  | status
  deriving DecidableEq, Repr

namespace Subcommand

/-- The subcommand of a name. -/
def ofName? (name : String) : Option Subcommand :=
  if name = "run" then some run
  else if name = "code" then some code
  else if name = "program" then some program
  else if name = "status" then some status
  else none

/-- The number of arguments of a subcommand, all of them required. -/
def arity : Subcommand → Nat
  | run => 0
  | code => 1
  | program => 2
  | status => 0

end Subcommand

/-- The name of the subcommand that shows help. -/
def helpName : String := "help"

/-- Whether a name is that of a subcommand, help included. -/
def isSubcommand (name : String) : Bool :=
  name == helpName || (Subcommand.ofName? name).isSome

/-- A subcommand with its arguments, and the options given before and after it. -/
structure Invocation where
  subcommand : Subcommand
  before : Given
  after : Given
  deriving DecidableEq, Repr

namespace Invocation

/-- The value of an option. -/
def value (invocation : Invocation) (setting : Setting) : String :=
  let given := (invocation.after.settings ++ invocation.before.settings).find? (·.1 == setting)
  (given.bind Prod.snd).getD setting.standard

/-- How often a switch has been given, on the side that counts. -/
def times (invocation : Invocation) (switch : Switch) : Nat :=
  if 0 < invocation.after.timesSwitched switch then invocation.after.timesSwitched switch
  else invocation.before.timesSwitched switch

end Invocation

/-- Shows help, on one subcommand if one is named. -/
def refuseHelp : List String → Refusal
  | [] => .helpDisplayed
  | [name] => if isSubcommand name then .helpDisplayed else .unknownSubcommand
  | _ => .unknownSubcommand

/-- Reads the arguments after the name of a subcommand. -/
def readSubcommand (subcommand : Subcommand) (arguments : List String) : Except Refusal Given := do
  let (given, _) ← readLevel (fun _ => false) subcommand.arity .nothing arguments
  if given.positionals.length < subcommand.arity then throw .missingArgument
  given.checkRepeated
  return given

/-- Reads the arguments of the program. -/
def read (arguments : List String) : Except Refusal Invocation := do
  match ← readLevel isSubcommand 0 .nothing arguments with
  | (_, none) => throw .missingSubcommand
  | (before, some rest) =>
    match Subcommand.ofName? rest.subcommand with
    | none => throw (refuseHelp rest.arguments)
    | some subcommand =>
      let after ← readSubcommand subcommand rest.arguments
      before.checkRepeated
      return ⟨subcommand, before, after⟩

end OtpToken.CommandLine
