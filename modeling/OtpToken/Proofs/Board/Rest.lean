import OtpToken.Proofs.Board.Ready

/-!
# Boards at rest

A board at rest is ready, its supply does not fail, and no read is pending. Then only
alarms and buttons have anything to do. The board stays at rest and its store stays as
it is when control is yielded to it, however long somebody waits, and when it is given
a command that has to do with alarms, buttons, lights or printing alone (`IsAside`).
-/

namespace OtpToken

/-- A command to the alarms, the buttons or the lights, or one that prints or asks; those who
subscribe hold no ticket. -/
def Command.IsAside : Command Subscriber Nat → Prop
  | .subscribe (.alarm _) subscriber | .subscribe .buttons subscriber =>
    ∀ ticketed, subscriber = some ticketed → ∃ id, ticketed = .listener id
  | .armAlarm .. | .cancelAlarm _ | .allocateAlarm | .freeAlarm _ => True
  | .setInterrupt .. | .readButton _ | .perform _ => True
  | .setLight .. | .print _ | .peekValue _ | .ask _ => True
  | _ => False

namespace Board

variable {board after : Board}

/-- A ready board with a reliable supply and no pending read. -/
structure AtRest (board : Board) : Prop where
  ready : board.Ready
  supplied : board.charge = none
  unread : board.console.reading = false

/-- A board at rest is live. -/
theorem AtRest.live (rest : board.AtRest) : board.Live :=
  ⟨rest.ready.sound, rest.ready.fresh, rest.supplied⟩

/-- An initial board is at rest. -/
theorem AtRest.initial (store : Store) (input : Bytes) (buttons : Nat) (hasKeyboard : Bool) :
    (Board.initial store input buttons hasKeyboard).AtRest :=
  ⟨.initial store input buttons hasKeyboard, rfl, rfl⟩

/-- A call leaves a board at rest. -/
theorem AtRest.continues (rest : board.AtRest) (continues : board.Continues after) : after.AtRest :=
  ⟨continues.ready, continues.supplied rest.supplied, continues.reading.trans rest.unread⟩

/-- A board stays at rest if nothing changes but its alarms, its buttons and what is printed. -/
theorem AtRest.of_aside (rest : board.AtRest) (sound : after.Sound)
    (macUnit : after.macUnit = board.macUnit) (keyboard : after.keyboard = board.keyboard)
    (keyValue : after.keyValue = board.keyValue) (charge : after.charge = board.charge)
    (received : after.console.received = board.console.received)
    (reading : after.console.reading = board.console.reading)
    (hearing : after.console.subscriber = board.console.subscriber)
    (tickets : board.tickets ≤ after.tickets)
    (rings : ∀ place subscriber, after.hearer? (.ring place) = some subscriber →
      subscriber.IsAmong after.tickets)
    (turns : ∀ subscriber, after.buttons.subscriber = some subscriber →
      subscriber.IsAmong after.tickets) : after.AtRest ∧ after.store = board.store := by
  refine ⟨⟨⟨sound, ?_, ?_⟩, charge.trans rest.supplied, reading.trans rest.unread⟩, ?_⟩
  · intro task subscriber heard
    have same : ∀ task, board.hearer? task = some subscriber → subscriber.IsAmong after.tickets :=
      fun task known => (rest.ready.fresh task subscriber known).mono tickets
    cases task with
    | ring place => exact rings place subscriber heard
    | turn _ _ => exact turns subscriber heard
    | receive => exact same .receive (by rw [← heard, hearer?, hearer?, hearing])
    | digest => exact same .digest (by rw [← heard, hearer?, hearer?, macUnit])
    | typing => exact same .typing (by rw [← heard, hearer?, hearer?, keyboard])
    | access access => exact same (.access access) (by rw [← heard, hearer?, hearer?, keyValue])
  · intro source notAlarms notButtons
    have none := rest.ready.idle source notAlarms notButtons
    cases source with
    | alarms => exact absurd rfl notAlarms
    | buttons => exact absurd rfl notButtons
    | console => rw [← none, jobsOf, jobsOf, Console.jobs, Console.jobs, received]
    | macUnit => rw [← none, jobsOf, jobsOf, macUnit]
    | keyboard => rw [← none, jobsOf, jobsOf, keyboard]
    | keyValue => rw [← none, jobsOf, jobsOf, keyValue]
  · rw [store, keyValue, store]

/-- A look for a stimulus can only bring a gesture. -/
theorem AtRest.stimulated (rest : board.AtRest) :
    board.stimulated.AtRest ∧ board.stimulated.store = board.store := by
  have rings := fun place subscriber => rest.ready.fresh (.ring place) subscriber
  have turns := fun subscriber => rest.ready.fresh (.turn 0 true) subscriber
  by_cases idle : board.jobs = []
  · have stimulates := stimulates_stimulate idle
    have sound := stimulates.sound rest.ready.sound
    rw [Board.stimulated, if_pos idle]
    generalize board.stimulate.1 = found, board.stimulate.2 = after at stimulates sound
    cases stimulates with
    | feed reading _ => rw [rest.unread] at reading; cases reading
    | starve => exact ⟨rest, rfl⟩
    | gesture _ _ =>
      exact rest.of_aside sound rfl rfl rfl rfl rfl rfl rfl (Nat.le_refl _) rings turns
    | rest _ _ =>
      exact rest.of_aside sound rfl rfl rfl rfl rfl rfl rfl (Nat.le_refl _) rings turns
  · rw [stimulated_of_jobs idle]
    exact ⟨rest, rfl⟩

/-- On a board at rest there is only an alarm or a button to serve. -/
theorem AtRest.serves (rest : board.AtRest) {job : Job} (serves : board.Serves job after)
    (member : job ∈ board.jobs) (sound : after.Sound) :
    after.AtRest ∧ after.store = board.store := by
  have aside : job.task.source = .alarms ∨ job.task.source = .buttons := by
    have own := mem_jobsOf_source member
    by_contra apart
    rw [not_or] at apart
    rw [rest.ready.idle _ apart.1 apart.2] at own
    cases own
  have same : ∀ source, source ≠ .alarms → source ≠ .buttons → board.SameAt after source := by
    intro source notAlarms notButtons
    refine serves.sameAt ?_
    rcases aside with own | own <;> rw [own]
    · exact notAlarms.symm
    · exact notButtons.symm
  have console : after.console = board.console := same .console (by decide) (by decide)
  have charge : after.charge = board.charge := by
    rw [serves.charge_eq, rest.supplied]
    rfl
  have fresh := serves.abides.fresh rest.ready.fresh
  exact rest.of_aside sound (same .macUnit (by decide) (by decide)) (same .keyboard (by decide) (by decide))
    (same .keyValue (by decide) (by decide)) charge (by rw [console]) (by rw [console]) (by rw [console])
    (Nat.le_of_eq serves.abides.tickets.symm) (fun place => fresh (.ring place))
    (fresh (.turn 0 true))

/-- A board at rest that control is yielded to serves an alarm or a button, or is idle. -/
theorem AtRest.yield (rest : board.AtRest) :
    ∃ yielded after, board.yield = (yielded, after) ∧ (∀ trap, yielded ≠ .stopped trap) ∧
      after.AtRest ∧ after.store = board.store := by
  have stimulated := rest.stimulated
  rcases rest.ready.sound.yield (by simp [rest.supplied]) with
    ⟨job, after, yielded, serves, taken, sound⟩ | ⟨yielded, _⟩
  · have kept := stimulated.1.serves serves taken.mem sound
    exact ⟨.serviced, after, yielded, (by simp), kept.1, kept.2.trans stimulated.2⟩
  · exact ⟨.idle, _, yielded, (by simp), stimulated⟩

/-- However long somebody waits, a board at rest stays at rest. -/
theorem AtRest.watch (rest : board.AtRest) (condition : Condition) (isUp : History → Bool)
    (polls : Nat) :
    (board.watch condition isUp polls).board.AtRest ∧
      (board.watch condition isUp polls).board.store = board.store := by
  fun_induction Board.watch condition isUp polls board with
  | case1 | case2 => exact ⟨rest, rfl⟩
  | case3 polls board _ _ served yielded ih =>
    obtain ⟨_, _, yielded', _, restServed, store⟩ := rest.yield
    rw [yielded] at yielded'
    cases yielded'
    have kept := ih restServed
    exact ⟨kept.1, kept.2.trans store⟩
  | case4 polls board _ _ after yielded =>
    obtain ⟨_, _, yielded', _, restAfter, store⟩ := rest.yield
    rw [yielded] at yielded'
    cases yielded'
    exact ⟨restAfter, store⟩
  | case5 polls board _ _ trap after yielded =>
    obtain ⟨_, _, yielded', running, _⟩ := rest.yield
    rw [yielded] at yielded'
    cases yielded'
    exact absurd rfl (running trap)

/-- Who hears of an alarm that is set differently. -/
theorem hearer?_setTimer {place : Nat} {timer : Option Timer} {subscriber : Subscriber}
    {other : Nat} (heard : ((board.alarms.setTimer place timer).timer? other).bind Timer.subscriber =
      some subscriber) :
    timer.bind Timer.subscriber = some subscriber ∨ board.hearer? (.ring other) = some subscriber := by
  rw [Alarms.timer?_setTimer] at heard
  split at heard
  · exact .inl heard
  · exact .inr heard

/-- A command aside leaves a board at rest. -/
theorem AtRest.obey (rest : board.AtRest) {command : Command Subscriber Nat}
    (aside : command.IsAside) (obeys : board.Obeys command after) :
    after.AtRest ∧ after.store = board.store := by
  have sound := obeys.sound rest.ready.sound
  have rings := fun place subscriber => rest.ready.fresh (.ring place) subscriber
  have turns := fun subscriber => rest.ready.fresh (.turn 0 true) subscriber
  -- Where an alarm is set, its subscriber is an old one, none, or a listener.
  have alarm : ∀ {place timer}, after = { board with alarms := board.alarms.setTimer place timer } →
      (∀ subscriber, timer.bind Timer.subscriber = some subscriber →
        subscriber.IsAmong board.tickets) → after.AtRest ∧ after.store = board.store := by
    rintro place timer rfl known
    refine rest.of_aside sound rfl rfl rfl rfl rfl rfl rfl (Nat.le_refl _) ?_ turns
    intro other subscriber heard
    rcases hearer?_setTimer heard with new | old
    · exact known subscriber new
    · exact rings other subscriber old
  cases obeys with
  | subscribe subscribes =>
    cases subscribes with
    | alarm here =>
      refine alarm rfl fun ticketed new => ?_
      obtain ⟨id, rfl⟩ := aside ticketed new
      trivial
    | buttons =>
      refine rest.of_aside sound rfl rfl rfl rfl rfl rfl rfl (Nat.le_refl _) rings ?_
      intro ticketed new
      obtain ⟨id, rfl⟩ := aside ticketed new
      trivial
    | console | macUnit | keyboard | keyValue => exact aside.elim
  | armAlarm here | cancelAlarm here =>
    exact alarm rfl fun subscriber old => rings _ subscriber (by rw [hearer?, here]; exact old)
  | allocateAlarm =>
    refine rest.of_aside sound rfl rfl rfl rfl rfl rfl rfl (Nat.le_refl _) ?_ turns
    intro place subscriber heard
    obtain ⟨timer, here, hearing⟩ := Option.bind_eq_some_iff.mp heard
    rcases Alarms.timer?_allocate here with rfl | old
    · cases hearing
    · exact rings place subscriber (by rw [hearer?, old]; exact hearing)
  | freeAlarm apart => exact alarm rfl (by simp)
  | setInterrupt | perform | setLight | print =>
    exact rest.of_aside sound rfl rfl rfl rfl rfl rfl rfl (Nat.le_refl _) rings turns
  | keepAlarm | readButton | peekValue | ask => exact ⟨rest, rfl⟩
  | share | start | abortRead | chooseAlgorithm | putValue | refuseValue | setReadOnly =>
    exact aside.elim

end Board

end OtpToken
