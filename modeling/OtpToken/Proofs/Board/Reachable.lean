import OtpToken.Proofs.Blocking.Calls
import OtpToken.Proofs.Board.Rest

/-!
# Reachable boards

A program reaches a board by giving commands, enabling the interrupts of all buttons and
yielding control, in any order and number, from the moment the board is switched on:
drivers may be at work, alarms armed, transitions queued, and anybody may be subscribed
to anything. Every reachable board is sound, its supply does not fail, and no subscriber
holds a ticket that is still to be drawn (`Reachable.invariant`).
-/

namespace OtpToken

/-- Who a command subscribes. -/
def Command.subscriber? : Command Subscriber Nat → Option Subscriber
  | .subscribe _ subscriber => subscriber
  | _ => none

namespace Board

/-- The boards that a program can bring about. Who is subscribed is a listener, or holds a ticket
that has been drawn. -/
inductive Reachable : Board → Prop
  | initial (store : Store) (input : Bytes) (buttons : Nat) (hasKeyboard : Bool) :
      Reachable (.initial store input buttons hasKeyboard)
  | obeyed {board after : Board} {command : Command Subscriber Nat} {answer : Answer}
      (reachable : Reachable board)
      (known : ∀ subscriber, command.subscriber? = some subscriber →
        subscriber.IsAmong board.tickets)
      (accepted : board.obey command = .ok (answer, after)) : Reachable after
  | yielded {board : Board} (reachable : Reachable board) : Reachable board.yield.2
  | drawn {board : Board} (reachable : Reachable board) : Reachable board.drawTicket.2
  | enabled {board : Board} (reachable : Reachable board) : Reachable board.enableInterrupts

variable {board after : Board}

/-- On the initial board nobody is subscribed under a ticket that has not been drawn. -/
theorem Fresh.initial (store : Store) (input : Bytes) (buttons : Nat) (hasKeyboard : Bool) :
    (Board.initial store input buttons hasKeyboard).Fresh :=
  (Ready.initial store input buttons hasKeyboard).fresh

/-- Whoever hears of a task after a command has heard of it before, or has just been subscribed. -/
theorem Obeys.hearer? {command : Command Subscriber Nat} (obeys : board.Obeys command after)
    {task : Task} {subscriber : Subscriber} (heard : after.hearer? task = some subscriber) :
    command.subscriber? = some subscriber ∨ board.hearer? task = some subscriber := by
  cases obeys with
  | subscribe subscribes =>
    cases subscribes with
    | alarm here =>
      cases task with
      | ring place => exact (hearer?_setTimer heard).imp_left id
      | turn | receive | digest | typing | access => exact .inr heard
    | keyboard present =>
      cases task with
      | typing => exact .inl heard
      | ring | turn | receive | digest | access => exact .inr heard
    | buttons | console | macUnit | keyValue =>
      cases task <;> first | exact .inl heard | exact .inr heard
  | share shares =>
    cases shares with
    | text present idle =>
      cases task with
      | typing => exact .inr (by rw [← heard, Board.hearer?, Board.hearer?, present]; rfl)
      | ring | turn | receive | digest | access => exact .inr heard
    | character | macKey | macData | macDestination | storedKey | storedValue
    | storedDestination => exact .inr (by cases task <;> exact heard)
  | start undertakes =>
    cases undertakes with
    | typeText present idle nonempty printable =>
      cases task with
      | typing => exact .inr (by rw [← heard, Board.hearer?, Board.hearer?, present]; rfl)
      | ring | turn | receive | digest | access => exact .inr heard
    | readCharacter | runMac | getValue | setValue =>
      exact .inr (by cases task <;> exact heard)
  | armAlarm here | cancelAlarm here =>
    cases task with
    | ring place =>
      rw [Board.hearer?, Alarms.timer?_setTimer] at heard
      split at heard
      next same => exact .inr (by rw [Board.hearer?, ← same.1, here]; exact heard)
      next => exact .inr heard
    | turn | receive | digest | typing | access => exact .inr heard
  | freeAlarm apart =>
    cases task with
    | ring place => exact (hearer?_setTimer heard).elim (by simp) .inr
    | turn | receive | digest | typing | access => exact .inr heard
  | allocateAlarm =>
    cases task with
    | ring place =>
      obtain ⟨timer, here, hearing⟩ := Option.bind_eq_some_iff.mp heard
      rcases Alarms.timer?_allocate here with rfl | old
      · cases hearing
      · exact .inr (by rw [Board.hearer?, old]; exact hearing)
    | turn | receive | digest | typing | access => exact .inr heard
  | abortRead | chooseAlgorithm | keepAlarm | setInterrupt | readButton | perform | setLight | print
  | putValue | refuseValue | peekValue | setReadOnly | ask =>
    exact .inr (by cases task <;> exact heard)

/-- A look for a stimulus changes nobody's subscription. -/
theorem hearer?_stimulated (board : Board) (task : Task) :
    board.stimulated.hearer? task = board.hearer? task := by
  by_cases idle : board.jobs = []
  · rw [stimulated, if_pos idle]
    have stimulates := stimulates_stimulate idle
    generalize board.stimulate.1 = found, board.stimulate.2 = after at stimulates
    cases stimulates <;> cases task <;> rfl
  · rw [stimulated_of_jobs idle]

/-- What a yield leaves is sound and fresh again. -/
theorem Sound.fresh_yield (sound : board.Sound) (fresh : board.Fresh)
    (supplied : board.charge = none) :
    board.yield.2.Sound ∧ board.yield.2.Fresh ∧ board.yield.2.charge = none := by
  have steady := steady_stimulated board
  have freshStimulated : board.stimulated.Fresh := by
    intro task subscriber heard
    rw [hearer?_stimulated] at heard
    rw [steady.tickets]
    exact fresh task subscriber heard
  rcases sound.yield (by simp [supplied]) with
    ⟨job, served, yielded, serves, _, soundServed⟩ | ⟨yielded, _, _, soundAfter⟩
  · rw [yielded]
    refine ⟨soundServed, serves.abides.fresh freshStimulated, ?_⟩
    rw [serves.charge_eq, steady.charge, supplied]
    rfl
  · rw [yielded]
    exact ⟨soundAfter, freshStimulated, steady.charge.trans supplied⟩

/-- A yield leaves a live board. -/
theorem Live.yield (live : board.Live) : board.yield.2.Live := by
  obtain ⟨sound, fresh, supplied⟩ := live.sound.fresh_yield live.fresh live.supplied
  exact ⟨sound, fresh, supplied⟩

/-- A yield changes nobody's subscription. -/
theorem Live.hearer?_yield (live : board.Live) (task : Task) :
    board.yield.2.hearer? task = board.hearer? task := by
  rcases live.sound.yield (by simp [live.supplied]) with
    ⟨job, served, yielded, serves, _⟩ | ⟨yielded, _⟩
  · rw [yielded, serves.abides.hearer?, hearer?_stimulated]
  · rw [yielded, hearer?_stimulated]

/-- A command that is accepted leaves a live board if it subscribes nobody with a ticket that has
not been drawn. -/
theorem Live.obeyed (live : board.Live) {command : Command Subscriber Nat} {answer : Answer}
    (known : ∀ subscriber, command.subscriber? = some subscriber →
      subscriber.IsAmong board.tickets)
    (accepted : board.obey command = .ok (answer, after)) : after.Live := by
  have obeys := obeys_of_ok accepted
  have steady := obeys.steady
  refine ⟨obeys.sound live.sound, ?_, steady.charge.trans live.supplied⟩
  intro task subscriber heard
  rw [steady.tickets]
  exact (obeys.hearer? heard).elim (known subscriber) (live.fresh task subscriber)

/-- Drawing a ticket leaves a live board. -/
theorem Live.drawn (live : board.Live) : board.drawTicket.2.Live := by
  refine ⟨{ live.sound with }, ?_, live.supplied⟩
  intro task subscriber heard
  exact (live.fresh task subscriber (by cases task <;> exact heard)).mono (Nat.le_succ _)

/-- To enable the interrupts of all buttons changes nobody's subscription. -/
theorem hearer?_enableInterrupts (board : Board) (task : Task) :
    board.enableInterrupts.hearer? task = board.hearer? task := by
  cases task <;> rfl

/-- Enabling the interrupts of all buttons leaves a live board. -/
theorem Live.enabled (live : board.Live) : board.enableInterrupts.Live := by
  have enabled := live.sound.buttons.enableAll
  refine ⟨{ live.sound with buttons := ⟨enabled.ordered, enabled.punctual, enabled.paired⟩ }, ?_,
    live.supplied⟩
  intro task subscriber heard
  rw [hearer?_enableInterrupts] at heard
  exact live.fresh task subscriber heard

/-- What holds of every reachable board: it is sound, the tickets of its subscribers have been drawn,
and its supply does not fail. -/
theorem Reachable.invariant (reachable : board.Reachable) :
    board.Sound ∧ board.Fresh ∧ board.charge = none := by
  suffices live : board.Live from ⟨live.sound, live.fresh, live.supplied⟩
  induction reachable with
  | initial store input buttons hasKeyboard =>
    exact ⟨.initial store input buttons hasKeyboard, .initial store input buttons hasKeyboard, rfl⟩
  | obeyed _ known accepted ih => exact ih.obeyed known accepted
  | yielded _ ih => exact ih.yield
  | drawn _ ih => exact ih.drawn
  | enabled _ ih => exact ih.enabled

/-- A reachable board is sound. -/
theorem Reachable.sound (reachable : board.Reachable) : board.Sound := reachable.invariant.1

/-- On a reachable board only tickets that have been drawn are subscribed. -/
theorem Reachable.fresh (reachable : board.Reachable) : board.Fresh := reachable.invariant.2.1

/-- The supply of a reachable board does not fail. -/
theorem Reachable.supplied (reachable : board.Reachable) : board.charge = none :=
  reachable.invariant.2.2

/-- A reachable board is live. -/
theorem Reachable.live (reachable : board.Reachable) : board.Live :=
  ⟨reachable.sound, reachable.fresh, reachable.supplied⟩

/-- The board after commands, each of which may be refused. -/
def obeyAll (board : Board) (commands : List (Command Subscriber Nat)) : Board :=
  commands.foldl (fun board command => board.settle (board.obey command)) board

/-- Commands that subscribe listeners only lead to a reachable board. -/
theorem Reachable.obeyAll (reachable : board.Reachable) {commands : List (Command Subscriber Nat)}
    (listeners : ∀ command ∈ commands, ∀ subscriber, command.subscriber? = some subscriber →
      ∃ id, subscriber = .listener id) : (board.obeyAll commands).Reachable := by
  induction commands generalizing board with
  | nil => exact reachable
  | cons command commands ih =>
    refine ih ?_ fun other member => listeners other (List.mem_cons_of_mem _ member)
    refine settle_cases reachable fun answer after accepted => .obeyed reachable ?_ accepted
    intro subscriber subscribed
    obtain ⟨id, rfl⟩ := listeners command List.mem_cons_self subscriber subscribed
    trivial

/-- A board in the middle of things: an alarm is armed for the tick at which a run of the keyed-hash
unit would end now, a button is about to go down, a read is pending and a text is being typed. -/
def crowded : Board :=
  (initial .inMemory [0x70, 0x0a] 1 true).obeyAll [
    .subscribe (.alarm Alarms.defaultPlace) (some (.listener 1)),
    .armAlarm Alarms.defaultPlace 65,
    .setInterrupt 0 true,
    .subscribe .buttons (some (.listener 2)),
    .perform (.press 0),
    .share .character [0],
    .start .readCharacter,
    .share .text [0x31],
    .start .typeText]

/-- The commands that are given in its definition lead to that board. -/
theorem reachable_crowded : crowded.Reachable :=
  Reachable.obeyAll (.initial ..) (by simp [Command.subscriber?])

end Board

end OtpToken
