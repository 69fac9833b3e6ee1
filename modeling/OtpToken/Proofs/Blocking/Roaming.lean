import OtpToken.Act.Contract
import OtpToken.Proofs.Board.Reachable

/-!
# Calls stay among reachable boards

Waits and blocking calls are made of commands, tickets and yields, so whichever way they
end, they leave a reachable board reachable. A call registers under a ticket that it has
drawn itself, so `Roams` asks how many tickets have been drawn when it begins.
-/

namespace OtpToken

open Act

namespace Board

variable {board mid after : Board} {α : Type}

/-- A reachable board has moved on to another one. -/
structure Reaches (board after : Board) : Prop where
  reachable : after.Reachable
  tickets : board.tickets ≤ after.tickets

/-- A reachable board may stay where it is. -/
theorem Reaches.refl (reachable : board.Reachable) : board.Reaches board :=
  ⟨reachable, Nat.le_refl _⟩

/-- A board may move on twice. -/
theorem Reaches.trans (first : board.Reaches mid) (second : mid.Reaches after) :
    board.Reaches after :=
  ⟨second.reachable, Nat.le_trans first.tickets second.tickets⟩

/-- What a command does to a board leads to a reachable one, whether it is accepted or refused. -/
theorem Reachable.settle (reachable : board.Reachable) (command : Command Subscriber Nat)
    (known : ∀ subscriber, command.subscriber? = some subscriber →
      subscriber.IsAmong board.tickets) {change : Except ReturnCode (α × Board)}
    (answer : α → Answer)
    (carried : board.obey command = do
      let (value, after) ← change
      return (answer value, after)) : board.Reaches (board.settle change) := by
  refine settle_cases (.refl reachable) fun value after accepted => ?_
  have obeyed : board.obey command = .ok (answer value, after) :=
    carried.trans (by rw [accepted]; rfl)
  exact ⟨.obeyed reachable known obeyed, Nat.le_of_eq (obeys_of_ok obeyed).steady.tickets.symm⟩

/-- A buffer that is shared, or refused, leaves a reachable board reachable. -/
theorem Reachable.share (reachable : board.Reachable) (buffer : Buffer) (bytes : Bytes) :
    board.Reaches (board.settle (board.share buffer bytes)) :=
  reachable.settle (.share buffer bytes) (by simp [Command.subscriber?]) .buffer rfl

/-- A subscription that is taken back leaves a reachable board reachable. -/
theorem Reachable.unsubscribe (reachable : board.Reachable) (channel : Channel Nat) :
    board.Reaches (board.settle (board.subscribe channel none)) :=
  reachable.settle (.subscribe channel none) (by simp [Command.subscriber?])
    (fun previous => .truth previous.isSome) rfl

/-- The default alarm is released by commands that leave a reachable board reachable. -/
theorem Reachable.releaseAlarm (reachable : board.Reachable) : board.Reaches board.releaseAlarm :=
  have first : board.Reaches (board.settle (board.cancelAlarm Alarms.defaultPlace)) :=
    reachable.settle (.cancelAlarm Alarms.defaultPlace) (by simp [Command.subscriber?])
      (fun _ => .done) rfl
  first.trans (first.reachable.unsubscribe (.alarm Alarms.defaultPlace))

/-- Releasing the console leads from a reachable board to a reachable one. -/
theorem Reachable.releaseConsole (reachable : board.Reachable) :
    board.Reaches board.releaseConsole :=
  have first : board.Reaches (board.settle board.abortRead) :=
    reachable.settle .abortRead (by simp [Command.subscriber?]) (fun _ => .done) rfl
  have second := first.trans (first.reachable.share .character [])
  second.trans (second.reachable.unsubscribe .console)

/-- Releasing the keyboard leads from a reachable board to a reachable one. -/
theorem Reachable.releaseKeyboard (reachable : board.Reachable) :
    board.Reaches board.releaseKeyboard :=
  have first := reachable.share .text []
  first.trans (first.reachable.unsubscribe .keyboard)

/-- Releasing the key-value unit leads from a reachable board to a reachable one. -/
theorem Reachable.releaseKeyValue (reachable : board.Reachable) :
    board.Reaches board.releaseKeyValue :=
  have first := reachable.share .storedDestination []
  have second := first.trans (first.reachable.share .storedValue [])
  have third := second.trans (second.reachable.share .storedKey [])
  third.trans (third.reachable.unsubscribe .keyValue)

/-- Releasing the keyed-hash unit leads from a reachable board to a reachable one. -/
theorem Reachable.releaseMacUnit (reachable : board.Reachable) :
    board.Reaches board.releaseMacUnit :=
  have first := reachable.share .macData []
  have second := first.trans (first.reachable.share .macDestination [])
  have third := second.trans (second.reachable.share .macKey [])
  third.trans (third.reachable.unsubscribe .macUnit)

/-- Yielding draws no ticket. -/
theorem Reachable.yield (reachable : board.Reachable) : board.Reaches board.yield.2 := by
  refine ⟨.yielded reachable, Nat.le_of_eq ?_⟩
  have steady := steady_stimulated board
  rcases reachable.sound.yield (by simp [reachable.supplied]) with
    ⟨job, served, yielded, serves, _⟩ | ⟨yielded, _⟩
  · rw [yielded]
    exact (serves.abides.tickets.trans steady.tickets).symm
  · rw [yielded]
    exact steady.tickets.symm

/-- However long somebody waits, the board stays reachable. -/
theorem Reachable.watch (reachable : board.Reachable) (condition : Condition)
    (isUp : History → Bool) (polls : Nat) :
    board.Reaches (board.watch condition isUp polls).board := by
  fun_induction Board.watch condition isUp polls board with
  | case1 | case2 => exact .refl reachable
  | case3 polls board _ _ served yielded ih =>
    have moves := reachable.yield
    rw [yielded] at moves
    exact moves.trans (ih moves.reachable)
  | case4 polls board _ _ after yielded | case5 polls board _ _ trap after yielded =>
    have moves := reachable.yield
    rw [yielded] at moves
    exact moves

/-- To arm an alarm of one's own takes three commands. -/
theorem Reachable.armTimeout (reachable : board.Reachable) {ticket : Ticket}
    (drawn : ticket.number < board.tickets) {ticks : Nat} (bound : ticks < UInt32.size) :
    (board.armTimeout ticket ticks).2.Reachable := by
  let place := board.alarms.allocate.1
  let allocated : Board := { board with alarms := board.alarms.allocate.2 }
  let subscribed : Board := { board with
    alarms := allocated.alarms.setTimer place (some ⟨some (.flag ticket), none⟩) }
  have fresh : allocated.alarms.timer? place = some .disarmed := board.alarms.timer?_allocate_self
  have placed : board.obey .allocateAlarm = .ok (.place place, allocated) := rfl
  have one : allocated.Reachable := .obeyed reachable (by simp [Command.subscriber?]) placed
  have heard : allocated.obey (.subscribe (.alarm place) (some (.flag ticket))) =
      .ok (.truth false, subscribed) := by
    simp [obey, Board.subscribe, Alarms.subscribe, fresh, Timer.disarmed, subscribed, allocated,
      bind, Except.bind, pure, Except.pure]
  have two : subscribed.Reachable := by
    refine .obeyed one ?_ heard
    rintro _ ⟨rfl⟩
    exact drawn
  suffices armed : subscribed.obey (.armAlarm place (UInt32.ofNat ticks)) =
      .ok (.number (board.clock + ticks), (board.armTimeout ticket ticks).2) from
    .obeyed two (by simp [Command.subscriber?]) armed
  have here : subscribed.alarms.timer? place = some ⟨some (.flag ticket), none⟩ := by
    rw [Alarms.timer?_setTimer, if_pos ⟨rfl, Alarms.lt_length_of_timer? fresh⟩]
  have whole : (UInt32.ofNat ticks).toNat = ticks := UInt32.toNat_ofNat_of_lt bound
  simp only [obey, whole, Board.armAlarm, Alarms.arm, here, bind, Except.bind, pure, Except.pure]
  simp [Board.armTimeout, Alarms.setTimer, subscribed, allocated, place]

/-- An alarm that is freed, or missing, leaves a reachable board reachable. -/
theorem Reachable.freeAlarm (reachable : board.Reachable) (place : Nat) :
    board.Reaches (board.freeAlarm place) :=
  have freed : board.obey (.freeAlarm place) = .ok (.done, board.freeAlarm place) := rfl
  ⟨.obeyed reachable (by simp [Command.subscriber?]) freed, Nat.le_refl _⟩

/-- However a wait is limited, the board stays reachable. -/
theorem Reachable.waitWithin (reachable : board.Reachable) (limit : Option Nat)
    (condition : Condition) : board.Reaches (board.waitWithin limit condition).board := by
  cases limit with
  | none => exact reachable.watch ..
  | some microseconds =>
    change board.Reaches (board.waitAtMost microseconds condition).board
    by_cases fits : ticksOfMilliseconds (microseconds / 1000) < UInt32.size
    · rw [waitAtMost_of_fits condition fits]
      have own : board.drawTicket.1.number < board.drawTicket.2.tickets := Nat.lt_succ_self _
      have armed := reachable.drawn.armTimeout own fits
      have watched := armed.watch condition board.drawTicket.1.isRaised 0
      exact ⟨(watched.reachable.freeAlarm _).reachable,
        Nat.le_trans (Nat.le_succ _) watched.tickets⟩
    · rw [waitAtMost_of_unfit condition fits]
      exact .refl reachable

end Board

/-- What an act comes to that hands out a value once a wait is over. -/
def Watched.outcome {α : Type} (watched : Watched) (value : α) : EStateM.Result Failure Board α :=
  match watched.result with
  | .ok () => .ok value watched.board
  | .error failure => .error failure watched.board

/-- Whatever a wait comes to, it ends where the wait has ended. -/
theorem Watched.ending_outcome {α : Type} (watched : Watched) (value : α) :
    ending (watched.outcome value) = watched.board := by
  unfold outcome
  split <;> rfl

namespace BoardAct

open Board

variable {α β : Type} {count : Nat}

/-- Once an operation has been registered, its call waits for the upcall or the condition. -/
theorem awaitCondition_of_registered {register : Ticket → BoardAct Unit} {begun board : Board}
    (predicate : Condition) (limit : Option Nat)
    (registered : register board.drawTicket.1 board.drawTicket.2 = .ok () begun) :
    awaitCondition register predicate limit board =
      (begun.waitWithin limit fun polls calls =>
        board.drawTicket.1.isRaised calls || predicate polls calls).outcome board.drawTicket.1 := by
  have drew : BoardAct.drawTicket board = .ok board.drawTicket.1 board.drawTicket.2 := rfl
  unfold awaitCondition
  rw [bind_of_ok drew, bind_of_ok registered]
  simp only [wait, Watched.outcome, bind, EStateM.bind]
  cases (begun.waitWithin limit _).result <;> rfl

/-- A call whose operation cannot be registered fails as the registration does. -/
theorem awaitCondition_of_refused {register : Ticket → BoardAct Unit} {begun board : Board}
    {failure : Failure} (predicate : Condition) (limit : Option Nat)
    (refused : register board.drawTicket.1 board.drawTicket.2 = .error failure begun) :
    awaitCondition register predicate limit board = .error failure begun := by
  have drew : BoardAct.drawTicket board = .ok board.drawTicket.1 board.drawTicket.2 := rfl
  unfold awaitCondition
  rw [bind_of_ok drew, bind_of_error refused]

/-- From a reachable board on which so many tickets have been drawn, the way leads to one. -/
def roaming (count : Nat) : Contract Board := fun before _ after =>
  before.Reachable → count ≤ before.tickets → before.Reaches after

instance {count : Nat} : (roaming count).IsClosed where
  refl _ reachable _ := .refl reachable
  trans first second reachable drawn :=
    have moves := first reachable drawn
    moves.trans (second moves.reachable (Nat.le_trans drawn moves.tickets))
  fault _ := Iff.rfl

/-- Once so many tickets have been drawn, an act leaves a reachable board reachable, however it
ends. -/
abbrev Roams (count : Nat) (act : BoardAct α) : Prop := Follows (roaming count) act

/-- The flag of a ticket, and its recorder, may be subscribed once the ticket has been drawn. -/
theorem isAmong_of_raises {ticket : Ticket} {subscriber : Subscriber}
    (raises : subscriber.Raises ticket) :
    ∀ one, some subscriber = some one → one.IsAmong (ticket.number + 1) := by
  rintro _ ⟨rfl⟩
  rcases raises with rfl | rfl <;> exact Nat.lt_succ_self _

namespace Roams

/-- What is handed out may be relied on. -/
theorem bind_ofExcept {answer : Except Fault α} {next : α → BoardAct β}
    (roams : ∀ value, answer = .ok value → Roams count (next value)) :
    Roams count (Act.ofExcept answer >>= next) := by
  cases answer with
  | ok value => exact roams value rfl
  | error fault => exact .fail fault

/-- To look at a board leads nowhere. -/
theorem look (view : Board → α) : Roams count (BoardAct.look view) :=
  fun _ reachable _ => .refl reachable

/-- A clean-up may lead on from wherever an act has come to. -/
theorem releasing {act : BoardAct α} {release : Board → Board} (roams : Roams count act)
    (releases : ∀ {board : Board}, board.Reachable → board.Reaches (release board)) :
    Roams count (Act.releasing release act) :=
  Follows.releasing roams fun done reachable drawn =>
    have moves := done reachable drawn
    moves.trans (releases moves.reachable)

/-- An act that gives a command. -/
theorem command {change : Board → Except ReturnCode (α × Board)} (command : Command Subscriber Nat)
    (known : ∀ subscriber, command.subscriber? = some subscriber → subscriber.IsAmong count)
    (answer : α → Answer)
    (carried : ∀ board, board.obey command = do
      let (value, after) ← change board
      return (answer value, after)) : Roams count (BoardAct.command change) := by
  intro board reachable drawn
  have moves := reachable.settle command (fun subscriber named => (known subscriber named).mono drawn)
    answer (carried board)
  unfold BoardAct.command
  cases accepted : change board with
  | error code => exact .refl reachable
  | ok answered =>
    rw [accepted] at moves
    exact moves

/-- Whoever subscribes only those whose tickets have been drawn stays among reachable boards. -/
theorem subscribe (channel : Channel Nat) {subscriber : Option Subscriber}
    (known : ∀ one, subscriber = some one → one.IsAmong count) :
    Roams count (BoardAct.subscribe channel subscriber) :=
  .bind (command (.subscribe channel subscriber) known (fun previous => .truth previous.isSome)
    fun _ => rfl) fun _ => .pure ()

/-- Sharing a buffer stays among reachable boards. -/
theorem share (buffer : Buffer) (bytes : Bytes) : Roams count (BoardAct.share buffer bytes) :=
  command (.share buffer bytes) (by simp [Command.subscriber?]) .buffer fun _ => rfl

/-- Starting an operation stays among reachable boards. -/
theorem start (operation : Operation) : Roams count (BoardAct.start operation) :=
  command (.start operation) (by simp [Command.subscriber?]) (fun _ => .done) fun _ => rfl

/-- A call may register whatever it wants under its own ticket. -/
theorem awaitCondition {register : Ticket → BoardAct Unit}
    (roams : ∀ ticket, Roams (ticket.number + 1) (register ticket)) (predicate : Condition)
    (limit : Option Nat) : Roams count (BoardAct.awaitCondition register predicate limit) := by
  intro board reachable _
  have moves := roams board.drawTicket.1 board.drawTicket.2 reachable.drawn (Nat.le_refl _)
  have draws : board.Reaches board.drawTicket.2 := ⟨reachable.drawn, Nat.le_succ _⟩
  cases ran : register board.drawTicket.1 board.drawTicket.2 with
  | error failure begun =>
    rw [ran] at moves
    rw [awaitCondition_of_refused predicate limit ran]
    exact draws.trans moves
  | ok value begun =>
    rw [ran] at moves
    have registered : board.Reaches begun := draws.trans moves
    rw [awaitCondition_of_registered predicate limit ran, Watched.ending_outcome]
    exact registered.trans (registered.reachable.waitWithin limit _)

/-- Awaiting what is registered under its own ticket stays among reachable boards. -/
theorem awaitUpcall {register : Ticket → BoardAct Unit}
    (roams : ∀ ticket, Roams (ticket.number + 1) (register ticket)) :
    Roams count (BoardAct.awaitUpcall register) :=
  awaitCondition roams _ _

/-- Looking at how an operation has ended stays among reachable boards. -/
theorem completed (ticket : Ticket) (fault : ReturnCode → Fault) :
    Roams count (BoardAct.completed ticket fault) := by
  refine .bind (look _) fun arguments => ?_
  split
  · exact .pure _
  · exact .fail _

/-- A delay stays among reachable boards, however it ends. -/
theorem delay (milliseconds : Nat) : Roams count (BoardAct.delay milliseconds) := by
  refine bind_ofExcept fun ticks fits => releasing
    (.bind (awaitUpcall fun ticket => ?_) fun _ => .pure _) Reachable.releaseAlarm
  have whole : (UInt32.ofNat ticks).toNat = ticks :=
    UInt32.toNat_ofNat_of_lt (lt_of_ticksFor_eq_ok fits)
  refine .bind (subscribe _ (isAmong_of_raises (.inl rfl))) fun _ => .bind ?_ fun _ => .pure _
  refine command (.armAlarm Alarms.defaultPlace (UInt32.ofNat ticks)) (by simp [Command.subscriber?])
    .number fun board => ?_
  simp only [obey, whole]

/-- Reading a character stays among reachable boards. -/
theorem readCharacter : Roams count BoardAct.readCharacter := by
  refine releasing (.bind (awaitUpcall fun ticket => ?_) fun _ => .bind (share _ _) fun buffer => ?_)
    Reachable.releaseConsole
  · exact .bind (subscribe _ (isAmong_of_raises (.inl rfl))) fun _ => .bind (share _ _) fun _ =>
      start _
  · cases buffer with
    | nil => exact .fail _
    | cons byte rest => exact .pure byte

/-- Typing a text stays among reachable boards. -/
theorem typeText (text : String) : Roams count (BoardAct.typeText text) := by
  refine releasing (.bind (awaitUpcall fun ticket => ?_) fun ticket =>
    .bind (completed _ _) fun _ => .pure _) Reachable.releaseKeyboard
  exact .bind (subscribe _ (isAmong_of_raises (.inr rfl))) fun _ => .bind (share _ _) fun _ =>
    start _

/-- Reading a value from the store stays among reachable boards. -/
theorem getValue (key : Bytes) (size : Nat) : Roams count (BoardAct.getValue key size) := by
  refine releasing (.bind (.mapFault _ (awaitUpcall fun ticket => ?_)) fun ticket =>
    .bind (.mapFault _ (share _ _)) fun _ => .bind (completed _ _) fun _ => .pure _)
    Reachable.releaseKeyValue
  exact .bind (subscribe _ (isAmong_of_raises (.inr rfl))) fun _ => .bind (share _ _) fun _ =>
    .bind (share _ _) fun _ => start _

/-- Writing a value to the store stays among reachable boards. -/
theorem setValue (key value : Bytes) : Roams count (BoardAct.setValue key value) := by
  refine releasing (.bind (.mapFault _ (awaitUpcall fun ticket => ?_)) fun ticket =>
    .bind (completed _ _) fun _ => .pure _) Reachable.releaseKeyValue
  exact .bind (subscribe _ (isAmong_of_raises (.inr rfl))) fun _ => .bind (share _ _) fun _ =>
    .bind (share _ _) fun _ => start _

/-- Computing a keyed hash stays among reachable boards. -/
theorem computeMac (key message : Bytes) : Roams count (BoardAct.computeMac key message) := by
  refine releasing (.bind (awaitUpcall fun ticket => ?_) fun ticket =>
    .bind (share _ _) fun _ => .bind (completed _ _) fun _ => ?_) Reachable.releaseMacUnit
  · exact .bind (subscribe _ (isAmong_of_raises (.inr rfl))) fun _ => .bind (share _ _) fun _ =>
      .bind (share _ _) fun _ => .bind (share _ _) fun _ =>
        .bind (command (.chooseAlgorithm 0) (by simp [Command.subscriber?]) (fun _ => .done)
          fun _ => rfl) fun _ => start _
  · split
    · exact .pure _
    · exact .fail _

end Roams

end BoardAct

end OtpToken
