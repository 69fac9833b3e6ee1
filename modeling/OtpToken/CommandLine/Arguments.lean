/-!
# Arguments

The arguments of one level of a command line: options that take a value, switches,
and positional arguments. A long option has its value after an equals sign or in the
next argument, and a short one in the rest of its argument or in the next one. An
argument that begins with a minus sign and has more to it is never a value of the
option before it, which then keeps its default. After two minus signs everything is
positional.
-/

namespace OtpToken.CommandLine

/-- Why arguments end the program before it has begun. -/
inductive Refusal
  | helpDisplayed
  | versionDisplayed
  | missingSubcommand
  | missingArgument
  | repeatedOption
  | unknownArgument
  | unknownSubcommand
  deriving DecidableEq, Repr

/-- The options that take a value. -/
inductive Setting
  | stateFile
  | keyFile
  | buttons
  deriving DecidableEq, Repr

/-- The options that take no value. -/
inductive Switch
  | usbKeyboard
  | verbose
  | help
  | version
  deriving DecidableEq, Repr

namespace Setting

/-- The option of a letter. -/
def ofLetter? : Char → Option Setting
  | 's' => some stateFile
  | 'k' => some keyFile
  | 'b' => some buttons
  | _ => none

/-- The option of a long name. -/
def ofName? (name : String) : Option Setting :=
  if name = "state-file" then some stateFile
  else if name = "key-file" then some keyFile
  else if name = "buttons" then some buttons
  else none

/-- The value of an option that is not given. -/
def standard : Setting → String
  | stateFile => "hotp-state.bin"
  | keyFile => "hotp-oracle.key"
  | buttons => "4"

/-- All options that take a value. -/
def all : List Setting := [stateFile, keyFile, buttons]

end Setting

namespace Switch

/-- The switch of a letter. -/
def ofLetter? : Char → Option Switch
  | 'v' => some verbose
  | 'h' => some help
  | 'V' => some version
  | _ => none

/-- The switch of a long name. -/
def ofName? (name : String) : Option Switch :=
  if name = "usb-keyboard" then some usbKeyboard
  else if name = "verbose" then some verbose
  else if name = "help" then some help
  else if name = "version" then some version
  else none

end Switch

/-- What has been given on one level, in order. -/
structure Given where
  /-- The options, each with its value unless it keeps its default. -/
  settings : List (Setting × Option String)
  switches : List Switch
  positionals : List String
  deriving DecidableEq, Repr

namespace Given

/-- Nothing. -/
def nothing : Given := ⟨[], [], []⟩

/-- Adds an option. -/
def addSetting (given : Given) (setting : Setting) (value : Option String) : Given :=
  { given with settings := given.settings ++ [(setting, value)] }

/-- Adds a switch; those for help and for the version end everything at once. -/
def addSwitch (given : Given) : Switch → Except Refusal Given
  | .help => .error .helpDisplayed
  | .version => .error .versionDisplayed
  | switch => .ok { given with switches := given.switches ++ [switch] }

/-- Adds a positional argument, of which a level takes at most `room`. -/
def addPositional (given : Given) (room : Nat) (value : String) : Except Refusal Given :=
  if given.positionals.length < room then
    .ok { given with positionals := given.positionals ++ [value] }
  else .error .unknownArgument

/-- How often an option has been given. -/
def timesSet (given : Given) (setting : Setting) : Nat :=
  given.settings.countP (·.1 == setting)

/-- How often a switch has been given. -/
def timesSwitched (given : Given) (switch : Switch) : Nat := given.switches.count switch

/-- Only the switch for more logging may be repeated. -/
def checkRepeated (given : Given) : Except Refusal Unit :=
  if Setting.all.any (1 < given.timesSet ·) ∨ 1 < given.timesSwitched .usbKeyboard then
    .error .repeatedOption
  else .ok ()

end Given

/-- Reads letters that follow a minus sign. Hands out the option whose value has to follow, if the
last letter is one. -/
def readLetters (given : Given) : List Char → Except Refusal (Given × Option Setting)
  | [] => .ok (given, none)
  | letter :: rest =>
    match Setting.ofLetter? letter with
    | some setting =>
      match rest with
      | [] => .ok (given, some setting)
      | value =>
        .ok (given.addSetting setting (some (String.ofList (value.dropWhile (· == '=')))), none)
    | none =>
      match Switch.ofLetter? letter with
      | some switch => do
        let given ← given.addSwitch switch
        readLetters given rest
      | none => .error .unknownArgument

/-- Reads a long option, less its leading minus signs. Hands out the option whose value has to
follow, if there is no equals sign. -/
def readName (given : Given) (text : List Char) : Except Refusal (Given × Option Setting) :=
  let name := String.ofList (text.takeWhile (· != '='))
  match Setting.ofName? name with
  | some setting =>
    match text.dropWhile (· != '=') with
    | [] => .ok (given, some setting)
    | value =>
      .ok (given.addSetting setting (some (String.ofList (value.dropWhile (· == '=')))), none)
  | none =>
    match Switch.ofName? name with
    | some switch => do
      let given ← given.addSwitch switch
      return (given, none)
    | none => .error .unknownArgument

/-- Reads an argument that begins with a minus sign. -/
def readOption (given : Given) (argument : String) : Except Refusal (Given × Option Setting) :=
  let text := argument.toList.dropWhile (· == '-')
  match argument.toList with
  | '-' :: '-' :: _ => readName given text
  | _ => readLetters given text

/-- Whether an argument stands for options: it begins with a minus sign and has more to it. -/
def isOption (argument : String) : Bool :=
  match argument.toList with
  | '-' :: _ :: _ => true
  | _ => false

/-- What is left of the arguments where a level ends at the name of a subcommand. -/
structure Rest where
  subcommand : String
  arguments : List String
  deriving DecidableEq, Repr

/-- Reads arguments that are all positional. -/
def readPositionals (room : Nat) (given : Given) (arguments : List String) :
    Except Refusal Given :=
  arguments.foldlM (fun given => given.addPositional room) given

/-- Reads the arguments of a level that takes at most `room` positional ones and ends at the name of
a subcommand. -/
def readLevel (isSubcommand : String → Bool) (room : Nat) (given : Given) :
    List String → Except Refusal (Given × Option Rest)
  | [] => .ok (given, none)
  | argument :: rest =>
    if argument = "--" then do
      let given ← readPositionals room given rest
      return (given, none)
    else if isSubcommand argument then .ok (given, some ⟨argument, rest⟩)
    else if isOption argument then
      match readOption given argument with
      | .error refusal => .error refusal
      | .ok (given, none) => readLevel isSubcommand room given rest
      | .ok (given, some setting) =>
        match rest with
        | [] => .ok (given.addSetting setting none, none)
        | value :: others =>
          if isOption value then
            readLevel isSubcommand room (given.addSetting setting none) (value :: others)
          else readLevel isSubcommand room (given.addSetting setting (some value)) others
    else
      match given.addPositional room argument with
      | .error refusal => .error refusal
      | .ok given => readLevel isSubcommand room given rest
termination_by arguments => arguments.length

end OtpToken.CommandLine
