import OtpToken.Proofs.Blocking.Refusal

/-!
# Waits and calls end

Every yield that a wait makes uses up some of the work that a board has left, which is bounded by
the operations that are outstanding and the bytes of the input. So a wait asks its condition at most
once more than there is work, and ends: its condition holds, its time is up, or the board has been
found idle (`Waited`, `Expires`). No call is stopped either. Each of them returns, from whatever
reachable board it is made (`Reachable.callsEnd`).
-/

namespace OtpToken

open Act

/-- To allocate an alarm arms none. -/
theorem Alarms.armedCount_allocate (alarms : Alarms) :
    alarms.allocate.2.armedCount = alarms.armedCount := by
  unfold allocate
  dsimp only
  split
  next inside =>
    have free : alarms.places[alarms.freePlace].isNone = true := List.findIdx_getElem
    have none : Timer.isArmed alarms.places[alarms.freePlace] = false := by
      rw [Option.isNone_iff_eq_none.mp free]
      rfl
    have fresh : Timer.isArmed (some .disarmed) = false := rfl
    simp [setTimer, armedCount, List.countP_set inside, none, fresh]
  next => simp [armedCount, Timer.isArmed, Timer.disarmed]

namespace Board

variable {board after : Board} {condition : Condition}

/-- A wait asks its condition at most once more than there is work. -/
theorem watch_polls_le (condition : Condition) (isUp : History → Bool) (polls : Nat)
    (board : Board) : (board.watch condition isUp polls).polls ≤ polls + board.workload + 1 := by
  -- Every further poll comes after a yield that has used up some work.
  fun_induction watch condition isUp polls board with
  | case1 | case2 | case4 | case5 => dsimp only; omega
  | case3 polls board _ _ served yielded ih =>
    have less := yield_workload_lt yielded
    omega

/-- The alarm of a bounded wait is one operation more. -/
theorem workload_timeout (board : Board) (ticks : Nat) :
    (board.timeout ticks).2.workload = board.workload + 1 := by
  have counted := Alarms.armedCount_setTimer
    (some ⟨some (.flag board.drawTicket.1), some (board.clock + ticks)⟩)
    board.alarms.timer?_allocate_self
  have disarmed : Timer.isArmed (some .disarmed) = false := rfl
  have armed : Timer.isArmed
      (some ⟨some (.flag board.drawTicket.1), some (board.clock + ticks)⟩) = true := rfl
  rw [disarmed, armed, Alarms.armedCount_allocate] at counted
  simp only [timeout, armTimeout, drawTicket, workload, outstanding] at counted ⊢
  simp only [Bool.toNat_false, Bool.toNat_true] at counted
  omega

/-- A reachable board is not stopped by a yield. -/
theorem Reachable.yield_cases (reachable : board.Reachable) :
    board.yield.1 = .serviced ∨ board.yield.1 = .idle ∧ board.yield.2.jobs = [] := by
  rcases reachable.sound.yield (by simp [reachable.supplied]) with
    ⟨_, _, yielded, _⟩ | ⟨yielded, _, still, _⟩
  · exact .inl (by rw [yielded])
  · exact .inr (by rw [yielded]; exact ⟨rfl, still⟩)

/-- How a wait without a limit goes whose condition has been asked `polls` times before: it fails
`count` times, after each of which an operation is served, and then it holds, or it fails once more
and the board is idle. -/
structure Waited (condition : Condition) (polls : Nat) (board : Board) (count : Nat)
    (watched : Watched) : Prop where
  asked : watched.polls = polls + count + 1
  waits : ∀ earlier < count, condition (polls + earlier) (board.yields earlier).calls = false ∧
    (board.yields earlier).yield.1 = .serviced
  ends : if condition (polls + count) (board.yields count).calls
    then watched.result = .ok () ∧ watched.board = board.yields count
    else watched.result = .error (.fault .halted) ∧
      (board.yields count).yield = (.idle, watched.board) ∧ watched.board.jobs = []

/-- A wait on a reachable board goes so. -/
theorem Reachable.waited (reachable : board.Reachable) (condition : Condition) (polls : Nat) :
    ∃ count, Waited condition polls board count
      (board.watch condition (fun _ => false) polls) := by
  -- Along the yields, as they are made.
  fun_induction Board.watch condition (fun _ => false) polls board with
  | case1 polls board holds =>
    refine ⟨0, rfl, by simp, ?_⟩
    rw [if_pos (by simpa [yields] using holds)]
    exact ⟨rfl, rfl⟩
  | case2 _ _ _ up => cases up
  | case3 polls board unmet _ served yielded ih =>
    have moves := reachable.yielded
    rw [yielded] at moves
    obtain ⟨count, asked, waits, ends⟩ := ih moves
    have next : ∀ count, board.yields (count + 1) = served.yields count := by
      intro count
      rw [yields, yielded]
    have later : ∀ count, polls + 1 + count = polls + (count + 1) := by omega
    refine ⟨count + 1, by rw [asked, later], ?_, ?_⟩
    · intro earlier below
      cases earlier with
      | zero => exact ⟨Bool.eq_false_iff.mpr unmet, by rw [yields, yielded]⟩
      | succ earlier =>
        rw [next, ← later]
        exact waits earlier (Nat.lt_of_succ_lt_succ below)
    · rw [next, ← later]
      exact ends
  | case4 polls board unmet _ after yielded =>
    refine ⟨0, rfl, by simp, ?_⟩
    rw [if_neg (by simpa [yields] using unmet)]
    rcases reachable.yield_cases with serviced | ⟨_, still⟩
    · rw [yielded] at serviced
      cases serviced
    · rw [yielded] at still
      exact ⟨rfl, yielded, still⟩
  | case5 polls board _ _ trap after yielded =>
    rcases reachable.yield_cases with same | ⟨same, _⟩ <;> (rw [yielded] at same; cases same)

/-- A wait with a limit asks its condition once more, for its own alarm. -/
theorem waitAtMost_polls_le (microseconds : Nat) (condition : Condition) (board : Board) :
    (board.waitAtMost microseconds condition).polls ≤ board.workload + 2 := by
  by_cases fits : ticksOfMilliseconds (microseconds / 1000) < UInt32.size
  · rw [waitAtMost_of_fits condition fits]
    have polls := watch_polls_le condition board.drawTicket.1.isRaised 0
      (board.timeout (ticksOfMilliseconds (microseconds / 1000))).2
    rw [workload_timeout] at polls
    dsimp only
    omega
  · rw [waitAtMost_of_unfit condition fits]
    exact Nat.zero_le _

/-- However it is limited, a wait on a reachable board is not stopped. -/
theorem Reachable.waitWithin_result (reachable : board.Reachable) (limit : Option Nat)
    (condition : Condition) :
    (board.waitWithin limit condition).result = .ok () ∨
      ∃ fault, (board.waitWithin limit condition).result = .error (.fault fault) := by
  cases limit with
  | none =>
    obtain ⟨count, _, _, ends⟩ := reachable.waited condition 0
    split at ends
    · exact .inl ends.1
    · exact .inr ⟨_, ends.1⟩
  | some microseconds =>
    have exact := waitsAtMost_waitAtMost reachable.sound reachable.fresh reachable.supplied
      microseconds condition
    unfold WaitsAtMost at exact
    split at exact
    · obtain ⟨served, ⟨⟨last, bounded, _⟩, _⟩⟩ := exact
      have ends := bounded.ends
      split at ends
      · exact .inl ends
      · exact .inr ⟨_, ends.1⟩
    · exact .inr ⟨_, congrArg Watched.result exact⟩

end Board

namespace BoardAct

open Board

variable {α β : Type} {count : Nat}

/-- An act returns if it is not stopped, and what it leaves is what it ends with. -/
theorem returns_iff {left : Board → Prop} {result : EStateM.Result Failure Board α} :
    Returns left result ↔ (∀ trap, failure? result ≠ some (.trap trap)) ∧ left (ending result) := by
  constructor
  · intro returned
    cases returned with
    | ok holds | fault holds => exact ⟨nofun, holds⟩
  · rintro ⟨running, holds⟩
    cases result with
    | ok value after => exact .ok holds
    | error failure after =>
      cases failure with
      | fault fault => exact .fault holds
      | trap trap => exact absurd rfl (running trap)

/-- From a reachable board on which so many tickets have been drawn, the way leads to one, and the
program is not stopped. -/
def concluding (count : Nat) : Contract Board := fun before failure after =>
  before.Reachable → count ≤ before.tickets →
    (∀ trap, failure ≠ some (.trap trap)) ∧ before.Reaches after

instance : (concluding count).IsClosed where
  refl _ reachable _ := ⟨nofun, .refl reachable⟩
  trans first second reachable drawn :=
    have moves := (first reachable drawn).2
    (second moves.reachable (Nat.le_trans drawn moves.tickets)).imp_right moves.trans
  fault _ := ⟨fun done reachable drawn => ⟨nofun, (done reachable drawn).2⟩,
    fun done reachable drawn => ⟨nofun, (done reachable drawn).2⟩⟩

/-- Once so many tickets have been drawn, an act returns with a value or a fault, and leaves a
reachable board reachable. -/
abbrev Concludes (count : Nat) (act : BoardAct α) : Prop := Follows (concluding count) act

/-- In other words, it returns to boards that can be reached. -/
theorem concludes_iff {act : BoardAct α} : Concludes count act ↔
    ∀ board, board.Reachable → count ≤ board.tickets → Returns board.Reaches (act board) :=
  forall₃_congr fun _ _ _ => returns_iff.symm

namespace Concludes

/-- What an act that concludes returns to. -/
theorem returns {act : BoardAct α} {board : Board} (concludes : Concludes count act)
    (reachable : board.Reachable) (drawn : count ≤ board.tickets) :
    Returns board.Reaches (act board) := concludes_iff.mp concludes board reachable drawn

/-- An act that stays among reachable boards concludes if it returns. -/
theorem of_returns {act : BoardAct α} (roams : Roams count act)
    (returns : ∀ board : Board, board.Reachable → ∃ left, Returns left (act board)) :
    Concludes count act := by
  intro board reachable drawn
  obtain ⟨left, returned⟩ := returns board reachable
  exact ⟨(returns_iff.mp returned).1, roams board reachable drawn⟩

/-- To look at a board ends at once. -/
theorem look (view : Board → α) : Concludes count (BoardAct.look view) :=
  fun _ reachable _ => ⟨nofun, .refl reachable⟩

/-- A command is accepted or refused. -/
theorem command {change : Board → Except ReturnCode (α × Board)}
    (roams : Roams count (BoardAct.command change)) :
    Concludes count (BoardAct.command change) := by
  refine .of_returns roams fun board _ => ⟨fun _ => True, ?_⟩
  unfold BoardAct.command
  cases change board with
  | ok answered => exact .ok trivial
  | error code => exact .fault trivial

/-- Every wait on a reachable board comes to an end. -/
theorem waitUntil (condition : Condition) :
    Concludes count (BoardAct.wait (·.waitUntil condition)) := by
  refine concludes_iff.mpr fun board reachable _ => ?_
  have moves := reachable.watch condition (fun _ => false) 0
  unfold BoardAct.wait
  rcases reachable.waitWithin_result none condition with ended | ⟨fault, ended⟩
  · rw [show (board.waitUntil condition).result = .ok () from ended]
    exact .ok moves
  · rw [show (board.waitUntil condition).result = .error (.fault fault) from ended]
    exact .fault moves

/-- A call that waits for what it has registered returns if it returns from registering. -/
theorem awaitCondition {register : Ticket → BoardAct Unit}
    (registers : ∀ ticket, Concludes (ticket.number + 1) (register ticket)) (predicate : Condition)
    (limit : Option Nat) : Concludes count (BoardAct.awaitCondition register predicate limit) := by
  refine concludes_iff.mpr fun board reachable _ => ?_
  have draws : board.Reaches board.drawTicket.2 := ⟨reachable.drawn, Nat.le_succ _⟩
  have registered := (registers board.drawTicket.1).returns reachable.drawn (Nat.le_refl _)
  cases ran : register board.drawTicket.1 board.drawTicket.2 with
  | error failure begun =>
    rw [ran] at registered
    rw [awaitCondition_of_refused predicate limit ran]
    cases registered with
    | fault moves => exact .fault (draws.trans moves)
  | ok value begun =>
    rw [ran] at registered
    obtain ⟨begins⟩ := registered
    have moves := draws.trans begins
    let condition : Condition := fun polls calls =>
      board.drawTicket.1.isRaised calls || predicate polls calls
    have waits := moves.trans (moves.reachable.waitWithin limit condition)
    rw [awaitCondition_of_registered predicate limit ran]
    unfold Watched.outcome
    rcases moves.reachable.waitWithin_result limit condition with ended | ⟨fault, ended⟩
    · rw [ended]
      exact .ok waits
    · rw [ended]
      exact .fault waits

/-- To print ends at once. -/
theorem print (text : String) : Concludes count (BoardAct.print text) := by
  intro board reachable _
  have printed : board.obey (.print text) = .ok (.done, board.print text) := rfl
  exact ⟨nofun, .obeyed reachable (by simp [Command.subscriber?]) printed, Nat.le_refl _⟩

/-- A delay returns. -/
theorem delay (milliseconds : Nat) : Concludes count (BoardAct.delay milliseconds) := by
  refine .of_returns (Roams.delay milliseconds) fun board reachable => ?_
  cases whole : ticksFor tickFrequency milliseconds with
  | ok ticks => exact ⟨_, returns_delay reachable.live whole⟩
  | error fault =>
    rw [delay_of_unfit board whole]
    exact ⟨fun _ => True, .fault trivial⟩

/-- A read of a character returns, with a fault if no byte can come. -/
theorem readCharacter : Concludes count BoardAct.readCharacter := by
  refine .of_returns Roams.readCharacter fun board reachable => ?_
  cases reading : board.console.reading with
  | false => exact ⟨_, returns_readCharacter reachable.live reading⟩
  | true =>
    rw [readCharacter_of_reading reading]
    exact ⟨fun _ => True, .fault trivial⟩

/-- Typing a text returns. -/
theorem typeText (text : String) : Concludes count (BoardAct.typeText text) := by
  refine .of_returns (Roams.typeText text) fun board reachable => ?_
  by_cases busy : ∃ keyboard, board.keyboard = some keyboard ∧ keyboard.due.isSome
  · obtain ⟨keyboard, present, busy⟩ := busy
    rw [typeText_of_busy present busy]
    exact ⟨fun _ => True, .fault trivial⟩
  · refine ⟨_, returns_typeText reachable.live (fun keyboard present => ?_) text⟩
    cases due : keyboard.due with
    | none => rfl
    | some tick => exact absurd ⟨keyboard, present, by rw [due]; rfl⟩ busy

/-- A read from the store returns. -/
theorem getValue (key : Bytes) (size : Nat) : Concludes count (BoardAct.getValue key size) := by
  refine .of_returns (Roams.getValue key size) fun board reachable => ?_
  cases pending : board.keyValue.pending with
  | none => exact ⟨_, returns_getValue reachable.live pending key size⟩
  | some access =>
    rw [getValue_of_busy (by rw [pending]; rfl)]
    exact ⟨fun _ => True, .fault trivial⟩

/-- A write to the store returns. -/
theorem setValue (key value : Bytes) : Concludes count (BoardAct.setValue key value) := by
  refine .of_returns (Roams.setValue key value) fun board reachable => ?_
  cases pending : board.keyValue.pending with
  | none => exact ⟨_, returns_setValue reachable.live pending key value⟩
  | some access =>
    rw [setValue_of_busy (by rw [pending]; rfl)]
    exact ⟨fun _ => True, .fault trivial⟩

/-- A run of the keyed-hash unit returns. -/
theorem computeMac (key message : Bytes) : Concludes count (BoardAct.computeMac key message) := by
  refine .of_returns (Roams.computeMac key message) fun board reachable => ?_
  cases due : board.macUnit.due with
  | none => exact ⟨_, returns_computeMac reachable.live due key message⟩
  | some tick =>
    rw [computeMac_of_busy (by rw [due]; rfl)]
    exact ⟨fun _ => True, .fault trivial⟩

/-- The derivation of a code returns. -/
theorem generateCode (secret : Bytes) (counter : UInt64) (digits : Nat) :
    Concludes count (BoardAct.generateCode secret counter digits) :=
  .bind (.ofExcept _) fun _ => .bind (computeMac _ _) fun _ => .ofExcept _

/-- Reading a secret returns, also if the input breaks off. -/
theorem readLine : Concludes count SecretEntry.readLine :=
  .bind (SecretEntry.follows_readRest readCharacter print "") fun line =>
    .bind (print _) fun _ => .pure line

/-- Waiting for a press returns, also if none can come. -/
theorem nextEvent (watch : ButtonWatch) : Concludes count watch.nextEvent := by
  refine .bind (.bind (look _) fun _ => .bind (waitUntil _) fun _ => look _) fun button => ?_
  refine .bind (delay _) fun _ => .bind ?_ fun isDown => .pure _
  refine command ?_
  refine .command (.readButton button) (by simp [Command.subscriber?]) .truth fun board => ?_
  simp only [obey, bind_pure_comp, Functor.map_map]

end Concludes

/-- The calls that block, with all their arguments. -/
inductive Blocks : (α : Type) → BoardAct α → Prop
  | delay (milliseconds : Nat) : Blocks Unit (BoardAct.delay milliseconds)
  | readCharacter : Blocks UInt8 BoardAct.readCharacter
  | typeText (text : String) : Blocks Unit (BoardAct.typeText text)
  | getValue (key : Bytes) (size : Nat) : Blocks (Bytes × Nat) (BoardAct.getValue key size)
  | setValue (key value : Bytes) : Blocks Unit (BoardAct.setValue key value)
  | computeMac (key message : Bytes) : Blocks Digest (BoardAct.computeMac key message)
  | generateCode (secret : Bytes) (counter : UInt64) (digits : Nat) :
      Blocks Code (BoardAct.generateCode secret counter digits)
  | readLine : Blocks String SecretEntry.readLine
  | nextEvent (watch : ButtonWatch) : Blocks ButtonEvent watch.nextEvent

/-- Every call that blocks returns. -/
theorem Blocks.concludes {act : BoardAct α} (blocks : Blocks α act) : Concludes count act := by
  cases blocks with
  | delay milliseconds => exact .delay milliseconds
  | readCharacter => exact .readCharacter
  | typeText text => exact .typeText text
  | getValue key size => exact .getValue key size
  | setValue key value => exact .setValue key value
  | computeMac key message => exact .computeMac key message
  | generateCode secret counter digits => exact .generateCode secret counter digits
  | readLine => exact .readLine
  | nextEvent watch => exact .nextEvent watch

/-- A wait leaves no more to do than it found. -/
theorem settles_waitUntil (condition : Condition) :
    Settles (BoardAct.wait (·.waitUntil condition)) := by
  intro board
  have waited := watch_workload condition (fun _ => false) 0 board
  unfold BoardAct.wait
  simp only [Board.waitUntil]
  cases ended : (board.watch condition (fun _ => false) 0).result with
  | ok _ =>
    rw [ended] at waited
    exact Nat.le_trans (Nat.le_add_right _ _) waited
  | error failure => rw [ended] at waited; cases failure <;> exact waited

/-- Waiting for a press and classifying it leaves no more to do than it found. -/
theorem settles_nextEvent (watch : ButtonWatch) : Settles watch.nextEvent := by
  refine .bind ?_ fun button => ?_
  · exact .bind (Settles.look _) fun _ =>
      .bind (settles_waitUntil _) fun _ => Settles.look _
  · exact .bind (settles_delay _) fun _ =>
      .bind (ButtonWatch.settles_readButton button) fun _ => .pure _

/-- Every call that blocks leaves no more to do than it found. -/
theorem Blocks.settles {act : BoardAct α} (blocks : Blocks α act) : Settles act := by
  cases blocks with
  | delay milliseconds => exact settles_delay milliseconds
  | readCharacter => exact settles_readCharacter.weaken
  | typeText text => exact settles_typeText text
  | getValue key size => exact settles_getValue key size
  | setValue key value => exact settles_setValue key value
  | computeMac key message => exact settles_computeMac key message
  | generateCode secret counter digits => exact settles_generateCode secret counter digits
  | readLine => exact SecretEntry.settles_readLine
  | nextEvent watch => exact settles_nextEvent watch

end BoardAct

namespace Board

open BoardAct

variable {board : Board}

/-- Waits and calls end on a board. -/
structure CallsEnd (board : Board) : Prop where
  /-- A wait goes on while its condition fails and operations are served, at most as often as there
  is work. -/
  waits : ∀ condition, ∃ count ≤ board.workload,
    Waited condition 0 board count (board.waitUntil condition)
  /-- A wait with a limit ends at the latest then, and its own alarm is one operation more. -/
  bounded : ∀ microseconds condition,
    board.WaitsAtMost condition (microseconds / 1000) (board.waitAtMost microseconds condition) ∧
      (board.waitAtMost microseconds condition).polls ≤ board.workload + 2
  /-- Whatever a call registers and waits for, it returns, with or without a limit. -/
  awaits : ∀ register : Ticket → BoardAct Unit,
    (∀ ticket, Concludes (ticket.number + 1) (register ticket)) → ∀ predicate limit,
    Returns board.Reaches (awaitCondition register predicate limit board)
  /-- Every call that blocks returns, and leaves no more to do than there was. -/
  calls : ∀ (α : Type) (act : BoardAct α), Blocks α act →
    Returns (fun after => board.Reaches after ∧ after.workload ≤ board.workload) (act board)

/-- On every reachable board waits and calls end. -/
theorem Reachable.callsEnd (reachable : board.Reachable) : board.CallsEnd where
  waits := by
    intro condition
    obtain ⟨count, waited⟩ := reachable.waited condition 0
    have polls := board.watch_polls_le condition (fun _ => false) 0
    rw [waited.asked] at polls
    exact ⟨count, by omega, waited⟩
  bounded := fun microseconds condition =>
    ⟨waitsAtMost_waitAtMost reachable.sound reachable.fresh reachable.supplied microseconds
      condition, waitAtMost_polls_le microseconds condition board⟩
  awaits := fun register registers predicate limit =>
    (Concludes.awaitCondition registers predicate limit).returns reachable (Nat.zero_le _)
  calls := by
    intro α act blocks
    have returned := (@Blocks.concludes α 0 act blocks).returns reachable (Nat.zero_le _)
    have settled := blocks.settles board
    generalize act board = result at returned settled
    cases returned with
    | ok moves => exact .ok ⟨moves, settled⟩
    | fault moves => exact .fault ⟨moves, settled⟩

end Board

end OtpToken
