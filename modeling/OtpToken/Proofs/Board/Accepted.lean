import OtpToken.Board.Command
import OtpToken.Proofs.Act

/-!
# Accepted commands

Each relation of this module says all that a kind of command can do to a board once its
driver has accepted it: which driver changes, in which field, and what must have held for
the command to be accepted. The functions of the board do nothing else
(`obeys_of_ok`), so that an invariant of the board is proved by cases on the relation.
-/

namespace OtpToken

/-- Only an idle keyed-hash unit accepts, and then answers as it does. -/
theorem MacUnit.whenIdle_eq_ok {unit : MacUnit} {α : Type} {answer : Except ReturnCode α}
    {value : α} (h : unit.whenIdle answer = .ok value) : unit.due = none ∧ answer = .ok value := by
  unfold whenIdle at h
  split at h
  next => cases h
  next idle => exact ⟨by simpa using idle, h⟩

/-- Only an idle key-value unit accepts, and then answers as it does. -/
theorem KeyValue.whenIdle_eq_ok {unit : KeyValue} {α : Type} {answer : Except ReturnCode α}
    {value : α} (h : unit.whenIdle answer = .ok value) :
    unit.pending = none ∧ answer = .ok value := by
  unfold whenIdle at h
  split at h
  next => cases h
  next idle => exact ⟨by simpa using idle, h⟩

namespace Board

/-- What is left when a driver has taken another subscriber. -/
inductive Subscribes (board : Board) (subscriber : Option Subscriber) : Channel Nat → Board → Prop
  | alarm {place : Nat} {timer : Timer} (here : board.alarms.timer? place = some timer) :
      Subscribes board subscriber (.alarm place) { board with
        alarms := board.alarms.setTimer place (some { timer with subscriber := subscriber }) }
  | buttons : Subscribes board subscriber .buttons
      { board with buttons := { board.buttons with subscriber := subscriber } }
  | console : Subscribes board subscriber .console
      { board with console := { board.console with subscriber := subscriber } }
  | macUnit : Subscribes board subscriber .macUnit
      { board with macUnit := { board.macUnit with subscriber := subscriber } }
  | keyboard {keyboard : Keyboard} (present : board.keyboard = some keyboard) :
      Subscribes board subscriber .keyboard
        { board with keyboard := some { keyboard with subscriber := subscriber } }
  | keyValue : Subscribes board subscriber .keyValue
      { board with keyValue := { board.keyValue with subscriber := subscriber } }

/-- What is left when an idle driver has taken another buffer. -/
inductive Shares (board : Board) (bytes : Bytes) : Buffer → Board → Prop
  | character (idle : board.console.reading = false) :
      Shares board bytes .character { board with console := { board.console with buffer := bytes } }
  | macKey (idle : board.macUnit.due = none) :
      Shares board bytes .macKey { board with macUnit := { board.macUnit with key := bytes } }
  | macData (idle : board.macUnit.due = none) :
      Shares board bytes .macData { board with macUnit := { board.macUnit with data := bytes } }
  | macDestination (idle : board.macUnit.due = none) :
      Shares board bytes .macDestination
        { board with macUnit := { board.macUnit with destination := bytes } }
  | text {keyboard : Keyboard} (present : board.keyboard = some keyboard)
      (idle : keyboard.due = none) :
      Shares board bytes .text { board with keyboard := some { keyboard with buffer := bytes } }
  | storedKey (idle : board.keyValue.pending = none) :
      Shares board bytes .storedKey { board with keyValue := { board.keyValue with key := bytes } }
  | storedValue (idle : board.keyValue.pending = none) :
      Shares board bytes .storedValue
        { board with keyValue := { board.keyValue with value := bytes } }
  | storedDestination (idle : board.keyValue.pending = none) :
      Shares board bytes .storedDestination
        { board with keyValue := { board.keyValue with destination := bytes } }

/-- What is left when an idle driver has taken on an operation, which it has the buffers for. -/
inductive Undertakes (board : Board) : Operation → Board → Prop
  | readCharacter (idle : board.console.reading = false) (buffered : board.console.buffer ≠ []) :
      Undertakes board .readCharacter
        { board with console := { board.console with reading := true } }
  | runMac (idle : board.macUnit.due = none) (keyed : board.macUnit.key ≠ [])
      (short : board.macUnit.key.length ≤ MacUnit.maxKeyLength)
      (fits : Sha256.digestSize ≤ board.macUnit.destination.length) :
      Undertakes board .runMac { board with macUnit := { board.macUnit with
        runs := board.macUnit.runs + 1
        due := some (board.clock + ticksOfMilliseconds MacUnit.milliseconds) } }
  | typeText {keyboard : Keyboard} (present : board.keyboard = some keyboard)
      (idle : keyboard.due = none) (nonempty : keyboard.buffer ≠ [])
      (printable : keyboard.buffer.all Keyboard.isPrintable = true) :
      Undertakes board .typeText { board with keyboard := some { keyboard with
        due := some (board.clock +
          ticksOfMilliseconds (Keyboard.milliseconds * keyboard.buffer.length)) } }
  | getValue (idle : board.keyValue.pending = none) (keyed : board.keyValue.key ≠ []) :
      Undertakes board .getValue { board with keyValue := { board.keyValue with
        pending := some (board.clock + ticksOfMilliseconds Access.get.milliseconds, .get) } }
  | setValue (idle : board.keyValue.pending = none) (keyed : board.keyValue.key ≠ []) :
      Undertakes board .setValue { board with keyValue := { board.keyValue with
        pending := some (board.clock + ticksOfMilliseconds Access.set.milliseconds, .set) } }

/-- What is left when a command has been carried out. -/
inductive Obeys (board : Board) : Command Subscriber Nat → Board → Prop
  | subscribe {channel : Channel Nat} {subscriber : Option Subscriber} {after : Board}
      (subscribes : board.Subscribes subscriber channel after) :
      Obeys board (.subscribe channel subscriber) after
  | share {buffer : Buffer} {bytes : Bytes} {after : Board}
      (shares : board.Shares bytes buffer after) : Obeys board (.share buffer bytes) after
  | start {operation : Operation} {after : Board}
      (undertakes : board.Undertakes operation after) : Obeys board (.start operation) after
  | abortRead (reading : board.console.reading = true) :
      Obeys board .abortRead
        { board with console := { board.console with reading := false, received := none } }
  | chooseAlgorithm {algorithm : Nat} (idle : board.macUnit.due = none) :
      Obeys board (.chooseAlgorithm algorithm)
        { board with macUnit := { board.macUnit with chosen := true } }
  | armAlarm {place : Nat} {ticks : UInt32} {timer : Timer}
      (here : board.alarms.timer? place = some timer) :
      Obeys board (.armAlarm place ticks) { board with
        alarms := board.alarms.setTimer place
          (some { timer with expiration := some (board.clock + ticks.toNat) }) }
  | cancelAlarm {place : Nat} {timer : Timer} (here : board.alarms.timer? place = some timer) :
      Obeys board (.cancelAlarm place) { board with
        alarms := board.alarms.setTimer place (some { timer with expiration := none }) }
  | allocateAlarm : Obeys board .allocateAlarm { board with alarms := board.alarms.allocate.2 }
  | keepAlarm : Obeys board (.freeAlarm Alarms.defaultPlace) board
  | freeAlarm {place : Nat} (apart : place ≠ Alarms.defaultPlace) :
      Obeys board (.freeAlarm place) { board with alarms := board.alarms.setTimer place none }
  | setInterrupt {button : Nat} {enabled : Bool} {interrupts : Row}
      (set : board.buttons.interrupts.set? button enabled = some interrupts) :
      Obeys board (.setInterrupt button enabled)
        { board with buttons := { board.buttons with interrupts := interrupts } }
  | readButton {button : Nat} : Obeys board (.readButton button) board
  | perform {gesture : Gesture} : Obeys board (.perform gesture)
      { board with buttons := board.buttons.perform board.clock gesture }
  | setLight {light : Nat} {lit : Bool} {lights : Lights}
      (set : board.lights.set light lit = .ok lights) :
      Obeys board (.setLight light lit) { board with lights := lights }
  | print {text : String} : Obeys board (.print text) (board.print text)
  | putValue {key value : Bytes} {store : Store} (put : board.store.put key value = .ok store) :
      Obeys board (.putValue key value) (board.setStore store)
  | refuseValue {key value : Bytes} : Obeys board (.putValue key value) board
  | peekValue {key : Bytes} : Obeys board (.peekValue key) board
  | setReadOnly {readOnly : Bool} :
      Obeys board (.setReadOnly readOnly) (board.setStore (board.store.setReadOnly readOnly))
  | ask {query : Query} : Obeys board (.ask query) board

variable {board after : Board}

/-- A subscription that is accepted leaves what `Subscribes` says. -/
theorem subscribes_of_ok {channel : Channel Nat} {subscriber previous : Option Subscriber}
    (h : board.subscribe channel subscriber = .ok (previous, after)) :
    board.Subscribes subscriber channel after := by
  cases channel with
  | alarm place =>
    obtain ⟨⟨_, alarms⟩, accepted, h⟩ := bind_eq_ok h
    cases h
    unfold Alarms.subscribe at accepted
    split at accepted <;> cases accepted
    next timer here => exact .alarm here
  | buttons => cases h; exact .buttons
  | console => cases h; exact .console
  | macUnit => cases h; exact .macUnit
  | keyboard =>
    unfold Board.subscribe at h
    dsimp only at h
    split at h <;> cases h
    next keyboard present => exact .keyboard present
  | keyValue => cases h; exact .keyValue

/-- A buffer that is accepted leaves what `Shares` says. -/
theorem shares_of_ok {buffer : Buffer} {bytes previous : Bytes}
    (h : board.share buffer bytes = .ok (previous, after)) : board.Shares bytes buffer after := by
  cases buffer with
  | character =>
    obtain ⟨⟨_, console⟩, accepted, h⟩ := bind_eq_ok h
    cases h
    unfold Console.share at accepted
    split at accepted <;> cases accepted
    next idle => exact .character (by simpa using idle)
  | macKey =>
    obtain ⟨⟨_, unit⟩, accepted, h⟩ := bind_eq_ok h
    cases h
    obtain ⟨idle, ⟨⟩⟩ := MacUnit.whenIdle_eq_ok accepted
    exact .macKey idle
  | macData =>
    obtain ⟨⟨_, unit⟩, accepted, h⟩ := bind_eq_ok h
    cases h
    obtain ⟨idle, ⟨⟩⟩ := MacUnit.whenIdle_eq_ok accepted
    exact .macData idle
  | macDestination =>
    obtain ⟨⟨_, unit⟩, accepted, h⟩ := bind_eq_ok h
    cases h
    obtain ⟨idle, ⟨⟩⟩ := MacUnit.whenIdle_eq_ok accepted
    exact .macDestination idle
  | text =>
    unfold Board.share at h
    dsimp only at h
    split at h
    next keyboard present =>
      obtain ⟨⟨_, shared⟩, accepted, h⟩ := bind_eq_ok h
      cases h
      unfold Keyboard.share at accepted
      split at accepted <;> cases accepted
      next idle => exact .text present (by simpa using idle)
    next => cases h
  | storedKey =>
    obtain ⟨⟨_, unit⟩, accepted, h⟩ := bind_eq_ok h
    cases h
    obtain ⟨idle, ⟨⟩⟩ := KeyValue.whenIdle_eq_ok accepted
    exact .storedKey idle
  | storedValue =>
    obtain ⟨⟨_, unit⟩, accepted, h⟩ := bind_eq_ok h
    cases h
    obtain ⟨idle, ⟨⟩⟩ := KeyValue.whenIdle_eq_ok accepted
    exact .storedValue idle
  | storedDestination =>
    obtain ⟨⟨_, unit⟩, accepted, h⟩ := bind_eq_ok h
    cases h
    obtain ⟨idle, ⟨⟩⟩ := KeyValue.whenIdle_eq_ok accepted
    exact .storedDestination idle

/-- An access is started only in an idle unit, which has a key. -/
theorem KeyValue.start_eq_ok {unit started : KeyValue} {now : Nat} {access : Access}
    (h : unit.start now access = .ok started) : unit.pending = none ∧ unit.key ≠ [] ∧
      started = { unit with
        pending := some (now + ticksOfMilliseconds access.milliseconds, access) } := by
  obtain ⟨idle, accepted⟩ := KeyValue.whenIdle_eq_ok h
  split at accepted <;> cases accepted
  next keyed => exact ⟨idle, keyed, rfl⟩

/-- An operation that is accepted leaves what `Undertakes` says. -/
theorem undertakes_of_ok {operation : Operation}
    (h : board.start operation = .ok ((), after)) : board.Undertakes operation after := by
  cases operation with
  | readCharacter =>
    obtain ⟨console, accepted, h⟩ := bind_eq_ok h
    cases h
    unfold Console.read at accepted
    split at accepted
    next => cases accepted
    next idle =>
      split at accepted <;> cases accepted
      next buffered => exact .readCharacter (by simpa using idle) buffered
  | runMac =>
    obtain ⟨unit, accepted, h⟩ := bind_eq_ok h
    cases h
    obtain ⟨idle, accepted⟩ := MacUnit.whenIdle_eq_ok accepted
    split at accepted
    next => cases accepted
    next =>
      split at accepted
      next => cases accepted
      next keyed =>
        split at accepted <;> cases accepted
        next lengths =>
          simp only [not_or, Nat.not_lt] at lengths
          exact .runMac idle keyed lengths.1 lengths.2
  | typeText =>
    unfold Board.start at h
    dsimp only at h
    split at h
    next keyboard present =>
      obtain ⟨sent, accepted, h⟩ := bind_eq_ok h
      cases h
      unfold Keyboard.send at accepted
      split at accepted
      next => cases accepted
      next idle =>
        split at accepted
        next => cases accepted
        next nonempty =>
          split at accepted <;> cases accepted
          next printable =>
            exact .typeText present (by simpa using idle) nonempty (by simpa using printable)
    next => cases h
  | getValue =>
    obtain ⟨unit, accepted, h⟩ := bind_eq_ok h
    cases h
    obtain ⟨idle, keyed, rfl⟩ := KeyValue.start_eq_ok accepted
    exact .getValue idle keyed
  | setValue =>
    obtain ⟨unit, accepted, h⟩ := bind_eq_ok h
    cases h
    obtain ⟨idle, keyed, rfl⟩ := KeyValue.start_eq_ok accepted
    exact .setValue idle keyed

/-- A command that is accepted does one of the things that there are to do. -/
theorem obeys_of_ok {command : Command Subscriber Nat} {answer : Answer}
    (h : board.obey command = .ok (answer, after)) : board.Obeys command after := by
  cases command with
  | subscribe channel subscriber =>
    obtain ⟨⟨_, _⟩, accepted, h⟩ := bind_eq_ok h
    cases h
    exact .subscribe (subscribes_of_ok accepted)
  | share buffer bytes =>
    obtain ⟨⟨_, _⟩, accepted, h⟩ := bind_eq_ok h
    cases h
    exact .share (shares_of_ok accepted)
  | start operation =>
    obtain ⟨⟨_, _⟩, accepted, h⟩ := bind_eq_ok h
    cases h
    exact .start (undertakes_of_ok accepted)
  | abortRead =>
    obtain ⟨⟨_, _⟩, accepted, h⟩ := bind_eq_ok h
    cases h
    obtain ⟨console, aborted, h⟩ := bind_eq_ok accepted
    cases h
    unfold Console.abort at aborted
    split at aborted <;> cases aborted
    next reading => exact .abortRead reading
  | chooseAlgorithm algorithm =>
    obtain ⟨⟨_, _⟩, accepted, h⟩ := bind_eq_ok h
    cases h
    obtain ⟨unit, chosen, h⟩ := bind_eq_ok accepted
    cases h
    obtain ⟨idle, chosen⟩ := MacUnit.whenIdle_eq_ok chosen
    split at chosen <;> cases chosen
    exact .chooseAlgorithm idle
  | armAlarm place ticks =>
    obtain ⟨⟨_, _⟩, accepted, h⟩ := bind_eq_ok h
    cases h
    obtain ⟨alarms, armed, h⟩ := bind_eq_ok accepted
    cases h
    unfold Alarms.arm at armed
    split at armed <;> cases armed
    next timer here => exact .armAlarm here
  | cancelAlarm place =>
    obtain ⟨⟨_, _⟩, accepted, h⟩ := bind_eq_ok h
    cases h
    obtain ⟨alarms, cancelled, h⟩ := bind_eq_ok accepted
    cases h
    unfold Alarms.cancel at cancelled
    split at cancelled
    next timer here =>
      split at cancelled <;> cases cancelled
      exact .cancelAlarm here
    next => cases cancelled
  | allocateAlarm => cases h; exact .allocateAlarm
  | freeAlarm place =>
    cases h
    by_cases fixed : place = Alarms.defaultPlace
    · subst fixed
      exact .keepAlarm
    · rw [freeAlarm, Alarms.free, if_neg fixed]
      exact .freeAlarm fixed
  | setInterrupt button enabled =>
    obtain ⟨⟨_, _⟩, accepted, h⟩ := bind_eq_ok h
    cases h
    obtain ⟨buttons, set, h⟩ := bind_eq_ok accepted
    cases h
    unfold Buttons.setInterrupt at set
    split at set <;> cases set
    next interrupts set => exact .setInterrupt set
  | readButton button =>
    obtain ⟨_, _, h⟩ := bind_eq_ok h
    cases h
    exact .readButton
  | perform gesture => cases h; exact .perform
  | setLight light lit =>
    obtain ⟨⟨_, _⟩, accepted, h⟩ := bind_eq_ok h
    cases h
    obtain ⟨lights, set, h⟩ := bind_eq_ok accepted
    cases h
    exact .setLight set
  | print text => cases h; exact .print
  | putValue key value =>
    unfold Board.obey at h
    dsimp only at h
    split at h <;> cases h
    next store put => exact .putValue put
    next => exact .refuseValue
  | peekValue key => cases h; exact .peekValue
  | setReadOnly readOnly => cases h; exact .setReadOnly
  | ask query => cases h; exact .ask

end Board

end OtpToken
