import OtpToken.Board.Watch

/-!
# Driver commands

An application subscribes to a driver, shares buffers with it, and starts operations
by commands. A command takes effect at once or is refused with a return code, and a
refused command changes nothing.
-/

namespace OtpToken

/-- Where upcalls come from. -/
inductive Channel (place : Type)
  | alarm (place : place)
  | buttons
  | console
  | macUnit
  | keyboard
  | keyValue
  deriving DecidableEq, Repr

/-- The buffers that are shared with drivers. -/
inductive Buffer
  | character
  | macKey
  | macData
  | macDestination
  | text
  | storedKey
  | storedValue
  | storedDestination
  deriving DecidableEq, Repr

/-- The operations that work on shared buffers. -/
inductive Operation
  | readCharacter
  | runMac
  | typeText
  | getValue
  | setValue
  deriving DecidableEq, Repr

/-- Facts that can be asked of a board. -/
inductive Query
  | tickFrequency
  | isArmed
  | buttonCount
  | lightCount
  | isLit (light : Nat)
  | macUnitState
  | typedTexts
  | storeState
  deriving DecidableEq, Repr

/-- The raw commands to the drivers of a board, for given ways to name subscribers and alarms. -/
inductive Command (who place : Type)
  | subscribe (channel : Channel place) (subscriber : Option who)
  | share (buffer : Buffer) (bytes : Bytes)
  | start (operation : Operation)
  | abortRead
  | chooseAlgorithm (algorithm : Nat)
  | armAlarm (place : place) (ticks : UInt32)
  | cancelAlarm (place : place)
  | allocateAlarm
  | freeAlarm (place : place)
  | setInterrupt (button : Nat) (enabled : Bool)
  | readButton (button : Nat)
  | perform (gesture : Gesture)
  | setLight (light : Nat) (lit : Bool)
  | print (text : String)
  | putValue (key value : Bytes)
  | peekValue (key : Bytes)
  | setReadOnly (readOnly : Bool)
  | ask (query : Query)
  deriving DecidableEq, Repr

/-- What a command answers. -/
inductive Answer
  | done
  | truth (value : Bool)
  | number (value : Nat)
  | buffer (bytes : Bytes)
  | place (place : Nat)
  | stored (result : Except StoreError Unit)
  | value (value : Option Bytes)
  | texts (texts : List String)
  | macUnit (isExposed : Bool) (runs : Nat)
  | store (entries writes : Nat)

namespace Board

/-- The board after a command that may have been refused. -/
def settle {α : Type} (board : Board) (answer : Except ReturnCode (α × Board)) : Board :=
  match answer with
  | .ok (_, board) => board
  | .error _ => board

/-- Gives a driver another subscriber, and hands out the previous one. -/
def subscribe (board : Board) (channel : Channel Nat) (subscriber : Option Subscriber) :
    Except ReturnCode (Option Subscriber × Board) :=
  match channel with
  | .alarm place => do
    let (previous, alarms) ← board.alarms.subscribe place subscriber
    return (previous, { board with alarms := alarms })
  | .buttons =>
    .ok (board.buttons.subscriber,
      { board with buttons := { board.buttons with subscriber := subscriber } })
  | .console =>
    .ok (board.console.subscriber,
      { board with console := { board.console with subscriber := subscriber } })
  | .macUnit =>
    .ok (board.macUnit.subscriber,
      { board with macUnit := { board.macUnit with subscriber := subscriber } })
  | .keyboard =>
    match board.keyboard with
    | some keyboard =>
      .ok (keyboard.subscriber,
        { board with keyboard := some { keyboard with subscriber := subscriber } })
    | none => .error .noDevice
  | .keyValue =>
    .ok (board.keyValue.subscriber,
      { board with keyValue := { board.keyValue with subscriber := subscriber } })

/-- Shares another buffer with its driver, and hands out the previous one. -/
def share (board : Board) (buffer : Buffer) (bytes : Bytes) :
    Except ReturnCode (Bytes × Board) :=
  match buffer with
  | .character => do
    let (previous, console) ← board.console.share bytes
    return (previous, { board with console := console })
  | .macKey => do
    let (previous, macUnit) ← board.macUnit.shareKey bytes
    return (previous, { board with macUnit := macUnit })
  | .macData => do
    let (previous, macUnit) ← board.macUnit.shareData bytes
    return (previous, { board with macUnit := macUnit })
  | .macDestination => do
    let (previous, macUnit) ← board.macUnit.shareDestination bytes
    return (previous, { board with macUnit := macUnit })
  | .text =>
    match board.keyboard with
    | some keyboard => do
      let (previous, keyboard) ← keyboard.share bytes
      return (previous, { board with keyboard := some keyboard })
    | none => .error .noDevice
  | .storedKey => do
    let (previous, keyValue) ← board.keyValue.shareKey bytes
    return (previous, { board with keyValue := keyValue })
  | .storedValue => do
    let (previous, keyValue) ← board.keyValue.shareValue bytes
    return (previous, { board with keyValue := keyValue })
  | .storedDestination => do
    let (previous, keyValue) ← board.keyValue.shareDestination bytes
    return (previous, { board with keyValue := keyValue })

/-- Starts an operation over the shared buffers. -/
def start (board : Board) (operation : Operation) : Except ReturnCode (Unit × Board) :=
  match operation with
  | .readCharacter => do
    let console ← board.console.read
    return ((), { board with console := console })
  | .runMac => do
    let macUnit ← board.macUnit.run board.clock
    return ((), { board with macUnit := macUnit })
  | .typeText =>
    match board.keyboard with
    | some keyboard => do
      let keyboard ← keyboard.send board.clock
      return ((), { board with keyboard := some keyboard })
    | none => .error .noDevice
  | .getValue => do
    let keyValue ← board.keyValue.start board.clock .get
    return ((), { board with keyValue := keyValue })
  | .setValue => do
    let keyValue ← board.keyValue.start board.clock .set
    return ((), { board with keyValue := keyValue })

/-- Gives up the pending read of a character. -/
def abortRead (board : Board) : Except ReturnCode (Unit × Board) := do
  let console ← board.console.abort
  return ((), { board with console := console })

/-- Chooses the algorithm of the keyed-hash unit. -/
def chooseAlgorithm (board : Board) (algorithm : Nat) : Except ReturnCode (Unit × Board) := do
  let macUnit ← board.macUnit.choose algorithm
  return ((), { board with macUnit := macUnit })

/-- Arms an alarm for a number of ticks from now, and hands out its expiration. -/
def armAlarm (board : Board) (place ticks : Nat) : Except ReturnCode (Nat × Board) := do
  let expiration := board.clock + ticks
  let alarms ← board.alarms.arm place expiration
  return (expiration, { board with alarms := alarms })

/-- Disarms an alarm. -/
def cancelAlarm (board : Board) (place : Nat) : Except ReturnCode (Unit × Board) := do
  let alarms ← board.alarms.cancel place
  return ((), { board with alarms := alarms })

/-- Enables or disables the interrupt of a button. -/
def setInterrupt (board : Board) (button : Nat) (enabled : Bool) :
    Except ReturnCode (Unit × Board) := do
  let buttons ← board.buttons.setInterrupt button enabled
  return ((), { board with buttons := buttons })

/-- Enables the interrupts of all buttons. -/
def enableInterrupts (board : Board) : Board := { board with buttons := board.buttons.enableAll }

/-- Turns a light on or off. -/
def setLight (board : Board) (light : Nat) (lit : Bool) : Except ReturnCode (Unit × Board) := do
  let lights ← board.lights.set light lit
  return ((), { board with lights := lights })

/-- The board after a text has been printed. -/
def print (board : Board) (text : String) : Board :=
  { board with console := board.console.print text }

/-- The board after a line has been printed. -/
def printLine (board : Board) (line : String) : Board := board.print (line ++ "\r\n")

/-- The board with another store. -/
def setStore (board : Board) (store : Store) : Board :=
  { board with keyValue := { board.keyValue with store := store } }

/-- The store of a board. -/
def store (board : Board) : Store := board.keyValue.store

/-- The texts that the keyboard has typed; none without a keyboard. -/
def typed? (board : Board) : Option (List String) := board.keyboard.map Keyboard.typed

/-- Answers a question about the board. -/
def ask (board : Board) : Query → Answer
  | .tickFrequency => .number OtpToken.tickFrequency
  | .isArmed => .truth board.alarms.isArmed
  | .buttonCount => .number board.buttons.count
  | .lightCount => .number board.lights.count
  | .isLit light => .truth (board.lights.isLit light)
  | .macUnitState => .macUnit board.macUnit.isExposed board.macUnit.runs
  | .typedTexts => .texts (board.typed?.getD [])
  | .storeState => .store board.store.table.length board.store.writes

end Board

namespace Command

variable {who place who' place' : Type}

/-- The command with its subscribers and alarms named in another way. -/
def rename (renameWho : who → who') (renamePlace : place → place') :
    Command who place → Command who' place'
  | subscribe channel subscriber =>
    subscribe
      (match channel with
        | .alarm place => .alarm (renamePlace place)
        | .buttons => .buttons
        | .console => .console
        | .macUnit => .macUnit
        | .keyboard => .keyboard
        | .keyValue => .keyValue)
      (subscriber.map renameWho)
  | share buffer bytes => share buffer bytes
  | start operation => start operation
  | abortRead => abortRead
  | chooseAlgorithm algorithm => chooseAlgorithm algorithm
  | armAlarm place ticks => armAlarm (renamePlace place) ticks
  | cancelAlarm place => cancelAlarm (renamePlace place)
  | allocateAlarm => allocateAlarm
  | freeAlarm place => freeAlarm (renamePlace place)
  | setInterrupt button enabled => setInterrupt button enabled
  | readButton button => readButton button
  | perform gesture => perform gesture
  | setLight light lit => setLight light lit
  | print text => print text
  | putValue key value => putValue key value
  | peekValue key => peekValue key
  | setReadOnly readOnly => setReadOnly readOnly
  | ask query => ask query

end Command

namespace Board

/-- Carries out a command, or refuses it. -/
def obey (board : Board) : Command Subscriber Nat → Except ReturnCode (Answer × Board)
  | .subscribe channel subscriber => do
    let (previous, board) ← board.subscribe channel subscriber
    return (.truth previous.isSome, board)
  | .share buffer bytes => do
    let (previous, board) ← board.share buffer bytes
    return (.buffer previous, board)
  | .start operation => do
    let (_, board) ← board.start operation
    return (.done, board)
  | .abortRead => do
    let (_, board) ← board.abortRead
    return (.done, board)
  | .chooseAlgorithm algorithm => do
    let (_, board) ← board.chooseAlgorithm algorithm
    return (.done, board)
  | .armAlarm place ticks => do
    let (expiration, board) ← board.armAlarm place ticks.toNat
    return (.number expiration, board)
  | .cancelAlarm place => do
    let (_, board) ← board.cancelAlarm place
    return (.done, board)
  | .allocateAlarm =>
    let allocated := board.alarms.allocate
    .ok (.place allocated.1, { board with alarms := allocated.2 })
  | .freeAlarm place => .ok (.done, board.freeAlarm place)
  | .setInterrupt button enabled => do
    let (_, board) ← board.setInterrupt button enabled
    return (.done, board)
  | .readButton button => do
    let pressed ← board.buttons.read button
    return (.truth pressed, board)
  | .perform gesture =>
    .ok (.done, { board with buttons := board.buttons.perform board.clock gesture })
  | .setLight light lit => do
    let (_, board) ← board.setLight light lit
    return (.done, board)
  | .print text => .ok (.done, board.print text)
  | .putValue key value =>
    match board.store.put key value with
    | .ok store => .ok (.stored (.ok ()), board.setStore store)
    | .error error => .ok (.stored (.error error), board)
  | .peekValue key => .ok (.value (board.store.get? key), board)
  | .setReadOnly readOnly => .ok (.done, board.setStore (board.store.setReadOnly readOnly))
  | .ask query => .ok (board.ask query, board)

end Board

end OtpToken
