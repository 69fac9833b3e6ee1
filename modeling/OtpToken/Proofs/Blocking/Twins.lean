import OtpToken.Delivery
import OtpToken.Proofs.Board.Twins

/-!
# Acts on twin boards

Two runs of an act match if they end in the same way, with values of which one stands for the
other, and leave states of which one stands for the other (`Matches`). Whatever a program does
with twin boards matches: the blocking calls wait for the same ticks and are told the same, and
only what is read from the store may differ, as values that are alike (`matches_getValue`).
-/

namespace OtpToken

open Act Board

namespace Act

variable {σ α β : Type} {states : σ → σ → Prop} {values : α → α → Prop} {results : β → β → Prop}

/-- Two outcomes match: the same failure, or values that stand for each other, in states that do. -/
inductive Matched (states : σ → σ → Prop) (values : α → α → Prop) :
    EStateM.Result Failure σ α → EStateM.Result Failure σ α → Prop
  | ok {value other : α} {after left : σ} (same : values value other)
      (twins : states after left) : Matched states values (.ok value after) (.ok other left)
  | error {failure : Failure} {after left : σ} (twins : states after left) :
      Matched states values (.error failure after) (.error failure left)

/-- From states that stand for each other, what two acts come to matches. -/
def Matches (states : σ → σ → Prop) (values : α → α → Prop) (act other : Act σ α) : Prop :=
  ∀ state twin, states state twin → Matched states values (act state) (other twin)

namespace Matches

/-- Handing out values of which one stands for the other matches. -/
theorem pure {value other : α} (same : values value other) :
    Matches states values (Pure.pure value) (Pure.pure other) :=
  fun _ _ twins => .ok same twins

/-- Failing with the same fault matches. -/
theorem fail (fault : Fault) : Matches states values (Act.fail fault) (Act.fail fault) :=
  fun _ _ twins => .error twins

/-- Answers that match are handed on by acts that match. -/
theorem ofExcept {answer other : Except Fault α} (same : Answers values answer other) :
    Matches states values (Act.ofExcept answer) (Act.ofExcept other) := by
  cases same with
  | ok same => exact .pure same
  | error fault => exact .fail fault

/-- Answers that match are handed on alike if they may be traps. -/
theorem ofTrapped {answer other : Except Trap α} (same : Answers values answer other) :
    Matches states values (Act.ofTrapped answer) (Act.ofTrapped other) := by
  cases same with
  | ok same => exact .pure same
  | error trap => exact fun _ _ twins => .error twins

/-- Acts that match may be followed by acts that match on whatever the first ones hand out. -/
theorem bind {act other : Act σ α} {next later : α → Act σ β}
    (first : Matches states values act other)
    (second : ∀ value found, values value found → Matches states results (next value) (later found)) :
    Matches states results (act >>= next) (other >>= later) := by
  intro state twin twins
  have ended := first _ _ twins
  generalize ran : act state = one, run : other twin = two at ended
  cases ended with
  | ok same twins =>
    rw [bind_of_ok ran, bind_of_ok run]
    exact second _ _ same _ _ twins
  | error twins =>
    rw [bind_of_error ran, bind_of_error run]
    exact .error twins

/-- When one of two runs succeeds, the other succeeds with the same value. -/
theorem eq_ok {act other : Act σ α} {state twin after : σ} {value : α}
    (same : Matches states Eq act other) (twins : states state twin)
    (ran : act state = .ok value after) :
    ∃ left, other twin = .ok value left ∧ states after left := by
  have ended := same _ _ twins
  generalize run : other twin = outcome at ended
  rw [ran] at ended
  cases ended with
  | ok same twins => exact ⟨_, by rw [← same], twins⟩

/-- When one of two runs fails, the other fails in the same way. -/
theorem eq_error {act other : Act σ α} {state twin after : σ} {failure : Failure}
    (same : Matches states values act other) (twins : states state twin)
    (ran : act state = .error failure after) :
    ∃ left, other twin = .error failure left ∧ states after left := by
  have ended := same _ _ twins
  generalize run : other twin = outcome at ended
  rw [ran] at ended
  cases ended with
  | error twins => exact ⟨_, rfl, twins⟩

/-- However they end, two runs that match leave states of which one stands for the other. -/
theorem ending {act other : Act σ α} {state twin : σ} (same : Matches states values act other)
    (twins : states state twin) : states (Act.ending (act state)) (Act.ending (other twin)) := by
  have ended := same _ _ twins
  generalize act state = first, other twin = second at ended
  cases ended with
  | ok _ twins => exact twins
  | error twins => exact twins

/-- What is handed out alike on both sides is one value. -/
theorem bind_eq {act other : Act σ α} {next later : α → Act σ β}
    (first : Matches states Eq act other)
    (second : ∀ value, Matches states results (next value) (later value)) :
    Matches states results (act >>= next) (other >>= later) := by
  refine first.bind fun value found same => ?_
  subst same
  exact second value

/-- Runs over the same items match if their steps do. -/
theorem foldlM {ι : Type} {step later : α → ι → Act σ α}
    (steps : ∀ value found item, values value found →
      Matches states values (step value item) (later found item))
    (items : List ι) {value found : α} (same : values value found) :
    Matches states values (items.foldlM step value) (items.foldlM later found) := by
  induction items generalizing value found with
  | nil => exact .pure same
  | cons item rest ih => exact (steps value found item same).bind fun _ _ next => ih next

/-- If two acts match, so do the attempts at them. -/
theorem attempt {act other : Act σ α} (same : Matches states values act other) :
    Matches states (Answers values) (Act.attempt act) (Act.attempt other) := by
  intro state twin twins
  have ended := same _ _ twins
  generalize ran : act state = one, run : other twin = two at ended
  cases ended with
  | ok same twins =>
    rw [attempt_of_ok ran, attempt_of_ok run]
    exact .ok (.ok same) twins
  | @error failure after left twins =>
    cases failure with
    | fault fault =>
      rw [attempt_of_fault ran, attempt_of_fault run]
      exact .ok (.error fault) twins
    | trap trap =>
      rw [attempt_of_trap ran, attempt_of_trap run]
      exact .error twins

/-- Turning the faults of two acts into others in the same way keeps them matching. -/
theorem mapFault {act other : Act σ α} (change : Fault → Fault)
    (same : Matches states values act other) :
    Matches states values (Act.mapFault change act) (Act.mapFault change other) := by
  intro state twin twins
  have ended := same _ _ twins
  generalize ran : act state = one, run : other twin = two at ended
  cases ended with
  | ok same twins =>
    rw [mapFault_of_ok ran, mapFault_of_ok run]
    exact .ok same twins
  | @error failure after left twins =>
    cases failure with
    | fault fault =>
      rw [mapFault_of_fault ran, mapFault_of_fault run]
      exact .error twins
    | trap trap =>
      rw [mapFault_of_trap ran, mapFault_of_trap run]
      exact .error twins

/-- Acts that match still do with clean-ups that keep states standing for each other. -/
theorem releasing {act other : Act σ α} {release : σ → σ}
    (same : Matches states values act other)
    (releases : ∀ {state twin}, states state twin → states (release state) (release twin)) :
    Matches states values (Act.releasing release act) (Act.releasing release other) := by
  intro state twin twins
  have ended := same _ _ twins
  generalize ran : act state = one, run : other twin = two at ended
  cases ended with
  | ok same twins =>
    rw [releasing_of_ok ran, releasing_of_ok run]
    exact .ok same (releases twins)
  | error twins =>
    rw [releasing_of_error ran, releasing_of_error run]
    exact .error (releases twins)

end Matches

end Act

namespace BoardAct

variable {α β : Type} {alike : Bytes → Bytes → Prop} {board other : Board} {values : α → α → Prop}
  {results : β → β → Prop}

/-- An act cannot tell twins apart. -/
abbrev Blind (alike : Bytes → Bytes → Prop) (act : BoardAct α) : Prop :=
  Matches (Board.Twins alike) Eq act act

/-- A command that neither sees nor touches the key-value unit. -/
def Elsewhere (change : Board → Except ReturnCode (α × Board)) : Prop :=
  ∀ board unit, change (board.withKeyValue unit) =
    (change board).map fun (value, after) => (value, after.withKeyValue unit)

/-- A command that is carried out elsewhere leaves the key-value unit as it is. -/
theorem Elsewhere.keyValue {change : Board → Except ReturnCode (α × Board)}
    (elsewhere : Elsewhere change) {value : α} {after : Board}
    (accepted : change board = .ok (value, after)) : after.keyValue = board.keyValue := by
  have same := elsewhere board board.keyValue
  rw [withKeyValue_self, accepted] at same
  have left : after = after.withKeyValue board.keyValue := congrArg Prod.snd (Except.ok.inj same)
  rw [left]
  rfl

/-- Such a command is answered alike by twins. -/
theorem Elsewhere.answers {change : Board → Except ReturnCode (α × Board)}
    (elsewhere : Elsewhere change) (twins : Board.Twins alike board other) :
    Answers (fun one two => one.1 = two.1 ∧ Board.Twins alike one.2 two.2) (change board)
      (change other) := by
  rw [twins.rest, elsewhere]
  cases accepted : change board with
  | error code => exact .error code
  | ok answer => exact .ok ⟨rfl, twins.of_unit (elsewhere.keyValue accepted)⟩

/-- A command that twins answer alike. -/
theorem matches_command {change : Board → Except ReturnCode (α × Board)}
    {changed : Board → Except ReturnCode (α × Board)}
    (answers : ∀ {board other}, Board.Twins alike board other →
      Answers (fun one two => values one.1 two.1 ∧ Board.Twins alike one.2 two.2) (change board)
        (changed other)) :
    Matches (Board.Twins alike) values (command change) (command changed) := by
  intro board other twins
  have answered := answers twins
  unfold command
  generalize change board = one, changed other = two at answered
  cases answered with
  | ok same => exact .ok same.1 same.2
  | error code => exact .error twins

/-- Boards that are twins still are when a command that cannot tell them apart is settled. -/
theorem settle_twins {change : Board → Except ReturnCode (α × Board)}
    (same : Matches (Board.Twins alike) values (command change) (command change))
    (twins : Board.Twins alike board other) :
    Board.Twins alike (board.settle (change board)) (other.settle (change other)) := by
  have settled : ∀ board : Board, board.settle (change board) = ending (command change board) := by
    intro board
    unfold command settle
    cases change board <;> rfl
  rw [settled, settled]
  exact same.ending twins

/-- Subscriptions to any other driver are carried out elsewhere. -/
theorem elsewhere_subscribe (channel : Channel Nat) (subscriber : Option Subscriber)
    (apart : channel ≠ .keyValue) : Elsewhere (·.subscribe channel subscriber) := by
  intro board unit
  cases channel with
  | alarm place =>
    simp only [Board.subscribe, withKeyValue]
    cases board.alarms.subscribe place subscriber <;> rfl
  | keyboard =>
    simp only [Board.subscribe, withKeyValue]
    cases board.keyboard <;> rfl
  | keyValue => exact absurd rfl apart
  | buttons | console | macUnit => rfl

/-- The buffers that hold what is stored or read. -/
def holdsValue : Buffer → Bool
  | .storedKey | .storedValue | .storedDestination => true
  | _ => false

/-- Buffers that hold neither a key nor a value of the store are shared elsewhere. -/
theorem elsewhere_share (buffer : Buffer) (bytes : Bytes) (apart : holdsValue buffer = false) :
    Elsewhere (·.share buffer bytes) := by
  intro board unit
  cases buffer with
  | storedKey | storedValue | storedDestination => cases apart
  | character =>
    simp only [Board.share, withKeyValue]
    cases board.console.share bytes <;> rfl
  | macKey =>
    simp only [Board.share, withKeyValue]
    cases board.macUnit.shareKey bytes <;> rfl
  | macData =>
    simp only [Board.share, withKeyValue]
    cases board.macUnit.shareData bytes <;> rfl
  | macDestination =>
    simp only [Board.share, withKeyValue]
    cases board.macUnit.shareDestination bytes <;> rfl
  | text =>
    simp only [Board.share, withKeyValue]
    cases board.keyboard with
    | none => rfl
    | some keyboard => dsimp only; cases keyboard.share bytes <;> rfl

/-- Reads are aborted elsewhere. -/
theorem elsewhere_abortRead : Elsewhere Board.abortRead := by
  intro board unit
  simp only [Board.abortRead, withKeyValue]
  cases board.console.abort <;> rfl

/-- The algorithm of the keyed-hash unit is chosen elsewhere. -/
theorem elsewhere_chooseAlgorithm (algorithm : Nat) : Elsewhere (·.chooseAlgorithm algorithm) := by
  intro board unit
  simp only [Board.chooseAlgorithm, withKeyValue]
  cases board.macUnit.choose algorithm <;> rfl

/-- Alarms are armed elsewhere. -/
theorem elsewhere_armAlarm (place ticks : Nat) : Elsewhere (·.armAlarm place ticks) := by
  intro board unit
  simp only [Board.armAlarm, withKeyValue]
  cases board.alarms.arm place (board.clock + ticks) <;> rfl

/-- Alarms are cancelled elsewhere. -/
theorem elsewhere_cancelAlarm (place : Nat) : Elsewhere (·.cancelAlarm place) := by
  intro board unit
  simp only [Board.cancelAlarm, withKeyValue]
  cases board.alarms.cancel place <;> rfl

/-- Lights are turned on and off elsewhere. -/
theorem elsewhere_setLight (light : Nat) (lit : Bool) : Elsewhere (·.setLight light lit) := by
  intro board unit
  simp only [Board.setLight, withKeyValue]
  cases board.lights.set light lit <;> rfl

/-- Buttons are looked at elsewhere. -/
theorem elsewhere_readButton (button : Nat) :
    Elsewhere fun board : Board => return (← board.buttons.read button, board) := by
  intro board unit
  simp only [withKeyValue]
  cases board.buttons.read button <;> rfl

namespace Blind

/-- Giving a command that is carried out elsewhere cannot tell twins apart. -/
theorem command {change : Board → Except ReturnCode (α × Board)} (elsewhere : Elsewhere change) :
    Blind alike (command change) :=
  matches_command elsewhere.answers

/-- What is changed or handed out apart from the key-value unit. -/
theorem alter (value : Board → α) (change : Board → Board)
    (same : ∀ board unit, value (board.withKeyValue unit) = value board)
    (blind : ∀ board unit, change (board.withKeyValue unit) = (change board).withKeyValue unit) :
    Blind alike fun board => .ok (value board) (change board) := by
  intro board other twins
  have unit : (change board).keyValue = board.keyValue := by
    have same := blind board board.keyValue
    rw [withKeyValue_self] at same
    rw [same]
    rfl
  rw [twins.rest]
  dsimp only
  rw [same, blind]
  exact .ok rfl (twins.of_unit unit)

/-- A look at anything but the key-value unit cannot tell twins apart. -/
theorem look {view : Board → α}
    (same : ∀ board unit, view (board.withKeyValue unit) = view board) :
    Blind alike (BoardAct.look view) :=
  alter view id same fun _ _ => rfl

/-- A change of anything but the key-value unit cannot tell twins apart. -/
theorem change {change : Board → Board}
    (blind : ∀ board unit, change (board.withKeyValue unit) = (change board).withKeyValue unit) :
    Blind alike (BoardAct.change change) :=
  alter (fun _ => ()) change (fun _ _ => rfl) blind

/-- Printing a text cannot tell twins apart. -/
theorem print (text : String) : Blind alike (BoardAct.print text) := change fun _ _ => rfl

/-- Printing a line cannot tell twins apart. -/
theorem printLine (line : String) : Blind alike (BoardAct.printLine line) := change fun _ _ => rfl

/-- Twins have drawn equally many tickets, so that the next one is the same. -/
theorem drawTicket : Blind alike BoardAct.drawTicket :=
  alter (·.drawTicket.1) (·.drawTicket.2) (fun _ _ => rfl) fun _ _ => rfl

/-- Twins have the same subscribers, those of their key-value units included. -/
theorem subscribing (channel : Channel Nat) (subscriber : Option Subscriber) :
    Blind alike (BoardAct.command (·.subscribe channel subscriber)) := by
  by_cases own : channel = .keyValue
  · subst own
    refine matches_command fun {board other} twins => ?_
    refine .ok ⟨twins.unit.subscriber.symm, ?_, { twins.unit with subscriber := rfl }⟩
    rw [twins.rest]
    rfl
  · exact command (elsewhere_subscribe channel subscriber own)

/-- To subscribe to a driver cannot tell twins apart. -/
theorem subscribe (channel : Channel Nat) (subscriber : Option Subscriber) :
    Blind alike (BoardAct.subscribe channel subscriber) :=
  .bind_eq (subscribing channel subscriber) fun _ => .pure rfl

/-- To share a buffer that holds neither a key nor a value cannot tell twins apart. -/
theorem share (buffer : Buffer) (bytes : Bytes) (apart : holdsValue buffer = false) :
    Blind alike (BoardAct.share buffer bytes) :=
  command (elsewhere_share buffer bytes apart)

/-- Twins are asked for the same keys, so that sharing one cannot tell them apart. -/
theorem shareKey (key : Bytes) : Blind alike (BoardAct.share .storedKey key) := by
  refine matches_command fun {board other} twins => ?_
  rw [twins.rest]
  simp only [Board.share, withKeyValue, KeyValue.shareKey, KeyValue.whenIdle, twins.unit.pending]
  split
  · exact .error _
  · exact .ok ⟨twins.unit.key.symm, rfl, { twins.unit with key := rfl, pending := rfl }⟩

/-- To start an access to the store cannot tell twins apart, since their units are busy alike. -/
theorem startAccess (access : Access) {operation : Operation}
    (starts : ∀ board : Board, board.start operation = do
      let keyValue ← board.keyValue.start board.clock access
      return ((), { board with keyValue := keyValue })) :
    Blind alike (BoardAct.start operation) := by
  refine matches_command fun {board other} twins => ?_
  rw [starts, starts, twins.rest]
  simp only [withKeyValue, KeyValue.start, KeyValue.whenIdle, twins.unit.pending, twins.unit.key]
  split
  · exact .error _
  · split
    · exact .error _
    · exact .ok ⟨trivial, rfl, { twins.unit with key := rfl, pending := rfl }⟩

/-- To start an operation cannot tell twins apart. -/
theorem start (operation : Operation) : Blind alike (BoardAct.start operation) := by
  cases operation with
  | getValue => exact startAccess .get fun _ => rfl
  | setValue => exact startAccess .set fun _ => rfl
  | readCharacter =>
    refine command fun board unit => ?_
    simp only [Board.start, withKeyValue]
    cases board.console.read <;> rfl
  | runMac =>
    refine command fun board unit => ?_
    simp only [Board.start, withKeyValue]
    cases board.macUnit.run board.clock <;> rfl
  | typeText =>
    refine command fun board unit => ?_
    simp only [Board.start, withKeyValue]
    cases board.keyboard with
    | none => rfl
    | some keyboard => dsimp only; cases keyboard.send board.clock <;> rfl

end Blind

/-- Alike values are shared in place of alike values. -/
theorem matches_shareValue {value changed : Bytes} (like : alike value changed) :
    Matches (Board.Twins alike) alike (share .storedValue value) (share .storedValue changed) := by
  refine matches_command fun {board other} twins => ?_
  rw [twins.rest]
  simp only [Board.share, withKeyValue, KeyValue.shareValue, KeyValue.whenIdle, twins.unit.pending]
  split
  · exact .error _
  · exact .ok ⟨twins.unit.value, rfl, { twins.unit with value := like, pending := rfl }⟩

/-- Destinations that are shared with twins bring back buffers that are alike. -/
theorem matches_shareDestination {destination : Bytes} (like : alike destination destination) :
    Matches (Board.Twins alike) alike (share .storedDestination destination)
      (share .storedDestination destination) := by
  refine matches_command fun {board other} twins => ?_
  rw [twins.rest]
  simp only [Board.share, withKeyValue, KeyValue.shareDestination, KeyValue.whenIdle,
    twins.unit.pending]
  split
  · exact .error _
  · exact .ok ⟨twins.unit.destination, rfl, { twins.unit with destination := like, pending := rfl }⟩

/-- Twins stay twins when nobody is subscribed to a driver any more. -/
theorem twins_unsubscribe (channel : Channel Nat) (twins : Board.Twins alike board other) :
    Board.Twins alike (board.settle (board.subscribe channel none))
      (other.settle (other.subscribe channel none)) :=
  settle_twins (Blind.subscribing channel none) twins

/-- Twins stay twins when the default alarm is released. -/
theorem twins_releaseAlarm (twins : Board.Twins alike board other) :
    Board.Twins alike board.releaseAlarm other.releaseAlarm :=
  twins_unsubscribe (.alarm _) (settle_twins (Blind.command (elsewhere_cancelAlarm _)) twins)

/-- Twins stay twins when the console is released. -/
theorem twins_releaseConsole (twins : Board.Twins alike board other) :
    Board.Twins alike board.releaseConsole other.releaseConsole :=
  twins_unsubscribe .console (settle_twins (Blind.share .character [] rfl)
    (settle_twins (Blind.command elsewhere_abortRead) twins))

/-- Twins stay twins when the keyboard is released. -/
theorem twins_releaseKeyboard (twins : Board.Twins alike board other) :
    Board.Twins alike board.releaseKeyboard other.releaseKeyboard :=
  twins_unsubscribe .keyboard (settle_twins (Blind.share .text [] rfl) twins)

/-- Twins stay twins when the keyed-hash unit is released. -/
theorem twins_releaseMacUnit (twins : Board.Twins alike board other) :
    Board.Twins alike board.releaseMacUnit other.releaseMacUnit :=
  twins_unsubscribe .macUnit (settle_twins (Blind.share .macKey [] rfl)
    (settle_twins (Blind.share .macDestination [] rfl)
      (settle_twins (Blind.share .macData [] rfl) twins)))

/-- Twins stay twins when the key-value unit is released. -/
theorem twins_releaseKeyValue (likeness : Likeness alike) (twins : Board.Twins alike board other) :
    Board.Twins alike board.releaseKeyValue other.releaseKeyValue :=
  twins_unsubscribe .keyValue (settle_twins (Blind.shareKey [])
    (settle_twins (matches_shareValue likeness.empty)
      (settle_twins (matches_shareDestination likeness.empty) twins)))

/-- However long somebody waits, twins go through the same and stay twins. -/
theorem twins_watch (likeness : Likeness alike) (condition : Condition) (polls : Nat)
    (twins : Board.Twins alike board other) :
    (other.watch condition (fun _ => false) polls).result =
        (board.watch condition (fun _ => false) polls).result ∧
      Board.Twins alike (board.watch condition (fun _ => false) polls).board
        (other.watch condition (fun _ => false) polls).board := by
  fun_induction Board.watch condition (fun _ => false) polls board generalizing other with
  | case1 polls board holds =>
    rw [watch_of_holds (twins.calls ▸ holds)]
    exact ⟨rfl, twins⟩
  | case2 polls board _ up => cases up
  | case3 polls board unmet _ served yielded ih =>
    obtain ⟨same, left⟩ := twins.yield likeness
    have unmet := Bool.eq_false_iff.mpr unmet
    rw [yielded] at same left
    have yields : other.yield = (.serviced, other.yield.2) := Prod.ext same rfl
    rw [watch_of_serviced (twins.calls ▸ unmet) rfl yields]
    exact ih left
  | case4 polls board unmet _ after yielded =>
    obtain ⟨same, left⟩ := twins.yield likeness
    have unmet := Bool.eq_false_iff.mpr unmet
    rw [yielded] at same left
    have yields : other.yield = (.idle, other.yield.2) := Prod.ext same rfl
    rw [watch_of_idle (twins.calls ▸ unmet) rfl yields]
    exact ⟨rfl, left⟩
  | case5 polls board unmet _ trap after yielded =>
    obtain ⟨same, left⟩ := twins.yield likeness
    have unmet := Bool.eq_false_iff.mpr unmet
    rw [yielded] at same left
    have yields : other.yield = (.stopped trap, other.yield.2) := Prod.ext same rfl
    rw [watch_of_stopped (twins.calls ▸ unmet) rfl yields]
    exact ⟨rfl, left⟩

/-- A wait asks its condition equally often on twins, and ends with the same answer. -/
theorem blind_waitUntil (likeness : Likeness alike) (condition : Condition) :
    Blind alike (wait (·.waitUntil condition)) := by
  intro board other twins
  obtain ⟨same, left⟩ := twins_watch likeness condition 0 twins
  unfold wait waitUntil
  rw [same]
  cases (board.watch condition (fun _ => false) 0).result with
  | ok _ => exact .ok rfl left
  | error failure => exact .error left

/-- Operations that register alike on twins are awaited alike. -/
theorem blind_awaitUpcall (likeness : Likeness alike) {register changed : Ticket → BoardAct Unit}
    (same : ∀ ticket, Matches (Board.Twins alike) Eq (register ticket) (changed ticket)) :
    Matches (Board.Twins alike) Eq (awaitUpcall register) (awaitUpcall changed) := by
  rw [awaitUpcall_eq, awaitUpcall_eq]
  exact .bind_eq Blind.drawTicket fun ticket => .bind_eq (same ticket) fun _ =>
    .bind_eq (blind_waitUntil likeness _) fun _ => .pure rfl

/-- The status of an operation that has completed is the same on twins. -/
theorem blind_completed (ticket : Ticket) (fault : ReturnCode → Fault) :
    Blind alike (completed ticket fault) := by
  refine .bind_eq (Blind.look fun _ _ => rfl) fun arguments => ?_
  cases arguments.completion with
  | ok length => exact .pure rfl
  | error code => exact .fail _

section Calls

variable (likeness : Likeness alike)
include likeness

/-- A delay cannot tell twins apart. -/
theorem blind_delay (milliseconds : Nat) : Blind alike (delay milliseconds) := by
  refine .bind_eq (.ofExcept (.refl _)) fun ticks => .releasing ?_ twins_releaseAlarm
  refine .bind_eq (blind_awaitUpcall likeness fun ticket => ?_) fun _ => .pure rfl
  exact .bind_eq (Blind.subscribe _ _) fun _ =>
    .bind_eq (Blind.command (elsewhere_armAlarm _ _)) fun _ => .pure rfl

/-- Twins read the same characters. -/
theorem blind_readCharacter : Blind alike readCharacter := by
  refine .releasing (.bind_eq (blind_awaitUpcall likeness fun ticket => ?_) fun _ => ?_)
    twins_releaseConsole
  · exact .bind_eq (Blind.subscribe _ _) fun _ => .bind_eq (Blind.share _ _ rfl) fun _ => Blind.start _
  · refine .bind_eq (Blind.share _ _ rfl) fun buffer => ?_
    cases buffer with
    | nil => exact .fail _
    | cons byte rest => exact .pure rfl

/-- Typing a text cannot tell twins apart. -/
theorem blind_typeText (text : String) : Blind alike (typeText text) := by
  refine .releasing (.bind_eq (blind_awaitUpcall likeness fun ticket => ?_) fun ticket => ?_)
    twins_releaseKeyboard
  · exact .bind_eq (Blind.subscribe _ _) fun _ => .bind_eq (Blind.share _ _ rfl) fun _ => Blind.start _
  · exact .bind_eq (blind_completed ticket _) fun _ => .pure rfl

/-- Twins compute the same keyed hash, and take equally long. -/
theorem blind_computeMac (key message : Bytes) : Blind alike (computeMac key message) := by
  refine .releasing (.bind_eq (blind_awaitUpcall likeness fun ticket => ?_) fun ticket => ?_)
    twins_releaseMacUnit
  · exact .bind_eq (Blind.subscribe _ _) fun _ => .bind_eq (Blind.share _ _ rfl) fun _ =>
      .bind_eq (Blind.share _ _ rfl) fun _ => .bind_eq (Blind.share _ _ rfl) fun _ =>
        .bind_eq (Blind.command (elsewhere_chooseAlgorithm _)) fun _ => Blind.start _
  · refine .bind_eq (Blind.share _ _ rfl) fun destination =>
      .bind_eq (blind_completed ticket _) fun length => ?_
    split
    · exact .pure rfl
    · exact .fail _

/-- Twins derive the same code. -/
theorem blind_generateCode (secret : Bytes) (counter : UInt64) (digits : Nat) :
    Blind alike (generateCode secret counter digits) :=
  .bind_eq (.ofExcept (.refl _)) fun _ => .bind_eq (blind_computeMac likeness _ _) fun _ =>
    .ofExcept (.refl _)

/-- What is read is the front of alike values, up to the same length. -/
def FrontsAlike (alike : Bytes → Bytes → Prop) (read found : Bytes × Nat) : Prop :=
  ∃ value other, alike value other ∧ read = (value.take read.2, read.2) ∧
    found = (other.take read.2, read.2)

/-- What twins read from the store is alike, of the same length, and missing on both or on neither.
-/
theorem matches_getValue (key : Bytes) {size : Nat}
    (blank : alike (List.replicate size 0) (List.replicate size 0)) :
    Matches (Board.Twins alike) (FrontsAlike alike) (getValue key size) (getValue key size) := by
  refine .releasing (.bind_eq (.mapFault _ (blind_awaitUpcall likeness fun ticket => ?_))
    fun ticket => ?_) (twins_releaseKeyValue likeness)
  · exact .bind_eq (Blind.subscribe _ _) fun _ => .bind_eq (Blind.shareKey _) fun _ =>
      .bind (matches_shareDestination blank) fun _ _ _ => Blind.start _
  · refine .bind (.mapFault _ (matches_shareDestination likeness.empty)) fun value other like => ?_
    exact .bind_eq (blind_completed ticket _) fun length => .pure ⟨value, other, like, rfl, rfl⟩

/-- Values that are alike are stored by twins alike. -/
theorem matches_setValue (key : Bytes) {value changed : Bytes} (like : alike value changed) :
    Matches (Board.Twins alike) Eq (setValue key value) (setValue key changed) := by
  refine .releasing (.bind_eq (.mapFault _ (blind_awaitUpcall likeness fun ticket => ?_))
    fun ticket => ?_) (twins_releaseKeyValue likeness)
  · exact .bind_eq (Blind.subscribe _ _) fun _ => .bind_eq (Blind.shareKey _) fun _ =>
      .bind (matches_shareValue like) fun _ _ _ => Blind.start _
  · exact .bind_eq (blind_completed ticket _) fun _ => .pure rfl

/-- Twins deliver a code by the same way. -/
theorem blind_deliver (code : Code) (counter : UInt64) :
    Blind alike (Delivery.deliver code counter) := by
  refine .bind_eq (Blind.look fun _ _ => rfl) fun without => ?_
  cases without with
  | true => exact .bind_eq (Blind.printLine _) fun _ => .pure rfl
  | false =>
    exact .bind_eq (blind_typeText likeness _) fun _ => .bind_eq (Blind.printLine _) fun _ => .pure rfl

/-- Twins read on in a line of a secret alike. -/
theorem blind_readOn (line : String) : Blind alike (readOn line) := by
  intro board other twins
  unfold readOn
  have reads := blind_readCharacter likeness
  fun_induction SecretEntry.readRest line board generalizing other with
  | case1 line board short failure after read =>
    obtain ⟨left, run, twins⟩ := reads.eq_error twins read
    rw [SecretEntry.readRest_of_error short run]
    exact .error twins
  | case2 line board short byte after read ends =>
    obtain ⟨left, run, twins⟩ := reads.eq_ok twins read
    rw [SecretEntry.readRest_of_ok short run, if_pos ends]
    exact .ok rfl twins
  | case3 line board short byte after read goes kept ih =>
    obtain ⟨left, run, twins⟩ := reads.eq_ok twins read
    obtain ⟨_, printed, twins⟩ := (Blind.print (SecretEntry.echo byte)).eq_ok twins rfl
    cases printed
    rw [SecretEntry.readRest_of_ok short run, if_neg goes, if_pos kept]
    exact ih _ twins
  | case4 line board short byte after read goes dropped ih =>
    obtain ⟨left, run, twins⟩ := reads.eq_ok twins read
    rw [SecretEntry.readRest_of_ok short run, if_neg goes, if_neg dropped]
    exact ih _ twins
  | case5 line board full =>
    rw [SecretEntry.readRest, if_neg full]
    exact .ok rfl twins

/-- Twins read the same line of a secret. -/
theorem blind_readLine : Blind alike SecretEntry.readLine :=
  .bind_eq (blind_readOn likeness "") fun _ => .bind_eq (Blind.print _) fun _ => .pure rfl

/-- Twins classify the next press in the same way. -/
theorem blind_nextEvent (watch : ButtonWatch) : Blind alike watch.nextEvent := by
  refine .bind_eq (.bind_eq (Blind.look fun _ _ => rfl) fun count => ?_) fun button => ?_
  · exact .bind_eq (blind_waitUntil likeness _) fun _ => Blind.look fun _ _ => rfl
  · exact .bind_eq (blind_delay likeness _) fun _ =>
      .bind_eq (Blind.command (elsewhere_readButton button)) fun _ => .pure rfl

omit likeness in

/-- A watch over the buttons begins on twins alike. -/
theorem blind_begin : Blind alike ButtonWatch.begin :=
  .bind_eq Blind.drawTicket fun _ => .bind_eq (Blind.subscribe _ _) fun _ =>
    .bind_eq (Blind.change fun _ _ => rfl) fun _ => .pure rfl

end Calls

end BoardAct

end OtpToken
