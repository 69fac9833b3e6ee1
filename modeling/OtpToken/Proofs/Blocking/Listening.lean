import OtpToken.Proofs.Blocking.Presses
import OtpToken.Proofs.Blocking.Refusal
import OtpToken.Proofs.Board.Turning

/-!
# Listening to the buttons

A watch listens to the buttons of a board (`Listens`) from the moment it begins, as long as it is
subscribed, all interrupts are enabled and no read is pending (`Entrusted.listens`). It goes on
listening whatever the board serves, hears of every press of a button that exists and of nothing
else (`Listens.heard`, `Listens.unheard`), and it does so through a delay as well, in which the
transitions that are due before its end have been served and no others (`Listens.delay`).
-/

namespace OtpToken

open Board Act

/-- A transition is the press of one of so many buttons. -/
def Transition.IsPress (count : Nat) (transition : Transition) : Prop :=
  transition.pressed = true ∧ transition.button < count

instance (count : Nat) (transition : Transition) : Decidable (transition.IsPress count) :=
  inferInstanceAs (Decidable (_ ∧ _))

variable {watch : ButtonWatch} {board after : Board} {before : Nat}

/-- The press of a button that exists is heard, and nothing else is taken for one: the watch is
subscribed to the buttons, all of which interrupt, and to nothing else, and no read is pending that
would take the script. -/
structure Listens (watch : ButtonWatch) (board : Board) : Prop where
  live : board.Live
  hears : board.buttons.subscriber = some (.presses watch.ticket)
  alone : ∀ task, board.hearer? task = some (.presses watch.ticket) → task.source = .buttons
  enabled : ∀ button, button < board.buttons.count →
    board.buttons.interrupts.get? button = some true
  unread : board.console.reading = false

/-- What serving a job comes to for a watch that has heard of no press: a queued press is heard of, or
the buttons turn otherwise, or they stay as they are. -/
inductive Overhears (watch : ButtonWatch) (before : Nat) (board after : Board) : Prop
  | press {first : Transition} {rest : List Transition}
      (queue : board.buttons.queue = first :: rest) (press : first.IsPress board.buttons.count)
      (heard : watch.ticket.pressed? before after.calls = some (first.button % UInt32.size))
      (clock : after.clock = first.due)
      (turned : after.buttons = { board.buttons with
        pressed := board.buttons.pressed.turn first, queue := rest })
  | other {first : Transition} {rest : List Transition}
      (queue : board.buttons.queue = first :: rest) (other : ¬first.IsPress board.buttons.count)
      (silent : Silent watch before after)
      (turned : after.buttons = { board.buttons with
        pressed := board.buttons.pressed.turn first, queue := rest })
  | apart (silent : Silent watch before after) (same : after.buttons = board.buttons)

namespace Listens

/-- The watch listens on when a job has been served, and there are as many buttons. -/
theorem serves (listens : Listens watch board) {job : Job} (serves : board.Serves job after)
    (sound : after.Sound) : Listens watch after ∧ after.buttons.count = board.buttons.count := by
  have abides := serves.abides
  have count : after.buttons.count = board.buttons.count := by
    rcases serves.turned with ⟨transition, rest, _, _, moved⟩ | ⟨_, same⟩
    · rw [moved]
      exact Row.size_turn _ _
    · rw [same]
  have hears : after.buttons.subscriber = some (.presses watch.ticket) :=
    (abides.hearer? (.turn 0 true)).trans listens.hears
  have unread : after.console.reading = false := by
    have unread := listens.unread
    cases serves <;> first | exact unread | rfl
  refine ⟨⟨listens.live.serves serves sound, hears, fun task heard => ?_, fun button inside => ?_,
    unread⟩, count⟩
  · rw [abides.hearer?] at heard
    exact listens.alone task heard
  · rw [abides.interrupts]
    exact listens.enabled button (count ▸ inside)

/-- The press of a button that exists is heard. -/
theorem heard (listens : Listens watch board) (old : before ≤ board.calls.length)
    {first : Transition} (press : first.IsPress board.buttons.count)
    (serves : board.Serves first.job after) :
    watch.ticket.pressed? before after.calls = some (first.button % UInt32.size) := by
  obtain ⟨due, button, pressed⟩ := first
  obtain ⟨rfl, inside⟩ := press
  rw [calls_of_turn serves, if_pos (listens.enabled button inside), listens.hears,
    Subscriber.call?, Option.map_some, Option.toList_some, List.singleton_append,
    Ticket.pressed?_cons old, if_pos ⟨rfl, rfl⟩]
  rfl

/-- Nothing else is taken for a press. -/
theorem unheard (listens : Listens watch board) (silent : Silent watch before board) {job : Job}
    (serves : board.Serves job after)
    (other : ∀ transition : Transition, job = transition.job →
      ¬transition.IsPress board.buttons.count) : Silent watch before after := by
  obtain ⟨old, none⟩ := silent
  have elsewhere : job.task.source ≠ .buttons → Silent watch before after := by
    intro apart
    obtain ⟨call, recorded, ⟨first, second, rfl⟩ | ⟨_, own⟩⟩ := serves.calls_eq
    · rw [Silent, recorded]
      cases heard : board.hearer? job.task with
      | none => exact ⟨old, none⟩
      | some subscriber =>
        have stranger : subscriber ≠ .presses watch.ticket := by
          rintro rfl
          exact apart (listens.alone job.task heard)
        refine ⟨Nat.le_succ_of_le old, ?_⟩
        rw [Subscriber.call?, Option.map_some, Option.toList_some, List.singleton_append,
          Ticket.pressed?_cons old, if_neg fun same => stranger same.1, none]
    · exact absurd own apart
  obtain ⟨due, task⟩ := job
  cases task with
  | turn button pressed =>
    cases pressed with
    | false => exact Silent.release ⟨old, none⟩ serves
    | true =>
      have outside : ¬button < board.buttons.count := fun inside =>
        other ⟨due, button, true⟩ rfl ⟨rfl, inside⟩
      have missing : board.buttons.interrupts.get? button = Option.none := by
        rw [Row.get?_eq_none_iff, listens.live.sound.buttons.paired]
        exact Nat.le_of_not_lt outside
      rw [Silent, calls_of_turn serves, missing, if_neg (by simp)]
      exact ⟨old, none⟩
  | ring | receive | digest | typing | access => exact elsewhere (by rintro ⟨⟩)

/-- While the watch is silent, it overhears every job that is served. -/
theorem overhears (listens : Listens watch board) (silent : Silent watch before board) {job : Job}
    (serves : board.Serves job after) : Overhears watch before board after := by
  rcases serves.turned with ⟨first, rest, rfl, queue, turned⟩ | ⟨apart, same⟩
  · by_cases press : first.IsPress board.buttons.count
    · exact .press queue press (listens.heard silent.1 press serves) serves.clock_eq turned
    · refine .other queue press (listens.unheard silent serves fun other same => ?_) turned
      rwa [← Transition.job_inj.mp same]
  · refine .apart (listens.unheard silent serves ?_) same
    rintro other rfl
    exact absurd rfl apart

/-- The watch listens on while jobs are served. -/
theorem runs (listens : Listens watch board) {jobs : List Job} (runs : Runs board jobs after) :
    Listens watch after := by
  induction runs with
  | nil => exact listens
  | cons serves _ sound _ ih => exact ih (listens.serves serves sound).1

/-- The watch listens on when a delay begins. -/
theorem beginDelay (listens : Listens watch board) (ticks : Nat) :
    Listens watch (board.beginDelay ticks) := by
  have sound := listens.live.sound
  have fresh : (board.beginDelay ticks).Fresh := by
    intro task subscriber heard
    by_cases own : task = .ring Alarms.defaultPlace
    · rw [own, hearer?, sound.timer?_beginDelay, if_pos rfl] at heard
      cases heard
      exact Nat.lt_succ_self _
    · rw [sound.hearer?_beginDelay own] at heard
      exact (listens.live.fresh task subscriber heard).mono (Nat.le_succ _)
  refine ⟨⟨sound.beginDelay ticks, fresh, listens.live.supplied⟩, listens.hears, ?_,
    listens.enabled, listens.unread⟩
  intro task heard
  by_cases own : task = .ring Alarms.defaultPlace
  · rw [own, hearer?, sound.timer?_beginDelay, if_pos rfl] at heard
    cases heard
  · rw [sound.hearer?_beginDelay own] at heard
    exact listens.alone task heard

/-- The default alarm may be taken back. -/
theorem silenced (listens : Listens watch board) {quiet : Timer}
    (found : board.alarms.timer? Alarms.defaultPlace = some quiet)
    (unarmed : quiet.expiration = none) : Listens watch (Delayed.silenced board quiet) := by
  have bound := Alarms.lt_length_of_timer? found
  have armed : ∀ due, (some { quiet with subscriber := none }).bind Timer.expiration = some due →
      board.clock ≤ due := by
    intro due expires
    rw [Option.bind_some, unarmed] at expires
    cases expires
  have heardOf : ∀ task subscriber,
      (Delayed.silenced board quiet).hearer? task = some subscriber →
        board.hearer? task = some subscriber := by
    intro task subscriber heard
    cases task with
    | ring place =>
      simp only [hearer?, Alarms.timer?_setTimer] at heard
      split at heard
      · cases heard
      · exact heard
    | turn | receive | digest | typing | access => exact heard
  exact ⟨⟨{ listens.live.sound with
      alarms := listens.live.sound.alarms.setTimer (fun _ => rfl) armed },
    fun task subscriber heard => listens.live.fresh task subscriber (heardOf task subscriber heard),
    listens.live.supplied⟩, listens.hears, fun task heard => listens.alone task (heardOf task _ heard),
    listens.enabled, listens.unread⟩

/-- In a delay the transitions that are due before its end are served, and no others. -/
theorem delay (listens : Listens watch board) {milliseconds ticks : Nat}
    (whole : ticksFor tickFrequency milliseconds = .ok ticks) :
    ∃ after, BoardAct.delay milliseconds board = .ok () after ∧ Listens watch after ∧
      after.clock = board.clock + ticks ∧ after.console.input = board.console.input ∧
      after.buttons.queue =
        board.buttons.queue.filter (fun transition => board.clock + ticks ≤ transition.due) ∧
      after.buttons.pressed = board.buttons.pressed.turnAll
        (board.buttons.queue.filter fun transition => transition.due < board.clock + ticks) := by
  obtain ⟨jobs, mid, served, quiet, delayed, found, unarmed, ran⟩ :=
    BoardAct.delay_of_live listens.live whole
  have listensServed := (((listens.beginDelay ticks).runs delayed.runs).serves delayed.serves
    delayed.sound).1
  obtain ⟨turned, queue, moved, inside⟩ := delayed.runs.turned
  have same : mid.SameAt (Delayed.silenced served quiet) .buttons :=
    delayed.sameAt quiet (by decide)
  have ranked : Source.alarms.rank < Source.buttons.rank := by decide
  -- The alarm of the delay comes before the buttons, so that it is not even overtaken at its tick.
  have early : ∀ transition ∈ turned, transition.due < board.clock + ticks := fun transition member =>
    delayed.runs.lt_due delayed.left (inside transition member) ranked
  have late : ∀ transition ∈ mid.buttons.queue, board.clock + ticks ≤ transition.due := by
    intro transition member
    refine (delayed.remains found unarmed transition.job (mem_jobs.mpr ⟨.buttons, ?_⟩)).2
    rw [SameAt] at same
    rw [jobsOf, same]
    exact List.mem_map_of_mem member
  have split : board.buttons.queue = turned ++ mid.buttons.queue := queue
  obtain ⟨served, left⟩ := Transition.filter_append early late
  refine ⟨_, ran, listensServed.silenced found unarmed, delayed.serves.clock_eq, ?_, ?_, ?_⟩
  · exact delayed.serves.abides.input.trans delayed.runs.abides.input
  · rw [split, left]
    exact congrArg Buttons.queue same
  · rw [split, served]
    exact (congrArg Buttons.pressed same).trans (congrArg Buttons.pressed moved)

end Listens

/-- A board once a watch over its buttons has begun. -/
def Board.attended (board : Board) : Board :=
  { board with
    tickets := board.tickets + 1
    buttons := { board.buttons.enableAll with subscriber := some (.presses board.drawTicket.1) } }

/-- To begin a watch draws a ticket and leaves the board attended. -/
theorem ButtonWatch.begin_attended (board : Board) :
    ButtonWatch.begin board = .ok ⟨board.drawTicket.1⟩ board.attended := rfl

/-- Nobody but the buttons tells the subscriber of a watch that has just begun. -/
theorem Board.Live.attended (live : board.Live) :
    board.attended.Live ∧
      ∀ task, board.attended.hearer? task = some (.presses board.drawTicket.1) →
        task.source = .buttons := by
  have enabled := live.sound.buttons.enableAll
  have sound : board.attended.Sound := { live.sound with
    buttons := ⟨enabled.ordered, enabled.punctual, enabled.paired⟩ }
  have heardOf : ∀ task subscriber, board.attended.hearer? task = some subscriber →
      task.source = .buttons ∧ subscriber = .presses board.drawTicket.1 ∨
        board.hearer? task = some subscriber := by
    intro task subscriber heard
    cases task with
    | turn =>
      cases heard
      exact .inl ⟨rfl, rfl⟩
    | ring | receive | digest | typing | access => exact .inr heard
  refine ⟨⟨sound, fun task subscriber heard => ?_, live.supplied⟩, fun task heard => ?_⟩
  · rcases heardOf task subscriber heard with ⟨_, rfl⟩ | old
    · exact Nat.lt_succ_self _
    · exact (live.fresh task subscriber old).mono (Nat.le_succ _)
  · rcases heardOf task _ heard with ⟨own, _⟩ | old
    · exact own
    · exact absurd (live.fresh task _ old) (Nat.lt_irrefl _)

/-- A reachable board is still reachable when a watch has begun. -/
theorem Board.Reachable.attended (reachable : board.Reachable) : board.attended.Reachable := by
  have subscribed : board.drawTicket.2.obey
      (.subscribe .buttons (some (.presses board.drawTicket.1))) =
        .ok (.truth board.buttons.subscriber.isSome, { board.drawTicket.2 with
          buttons := { board.buttons with subscriber := some (.presses board.drawTicket.1) } }) :=
    rfl
  refine .enabled (.obeyed reachable.drawn ?_ subscribed)
  rintro _ ⟨rfl⟩
  exact Nat.lt_succ_self _

/-- A watch listens from the moment it begins. -/
theorem Board.Live.listens (live : board.Live) (unread : board.console.reading = false) :
    Listens ⟨board.drawTicket.1⟩ board.attended := by
  obtain ⟨liveThen, alone⟩ := live.attended
  refine ⟨liveThen, rfl, alone, fun button inside => ?_, unread⟩
  have paired : board.buttons.interrupts.size = board.buttons.pressed.size :=
    live.sound.buttons.paired
  exact (Row.get?_all ..).trans (if_pos (paired ▸ inside))

/-- The boards that a program can bring about once a watch has begun, as long as it does not hand
the watch's subscriber out again. -/
inductive Entrusted (watch : ButtonWatch) : Board → Prop
  | begun {board : Board} (reachable : board.Reachable) (own : watch = ⟨board.drawTicket.1⟩) :
      Entrusted watch board.attended
  | obeyed {board after : Board} {command : Command Subscriber Nat} {answer : Answer}
      (entrusted : Entrusted watch board)
      (known : ∀ subscriber, command.subscriber? = some subscriber →
        subscriber.IsAmong board.tickets)
      (foreign : command.subscriber? ≠ some (.presses watch.ticket))
      (accepted : board.obey command = .ok (answer, after)) : Entrusted watch after
  | yielded {board : Board} (entrusted : Entrusted watch board) : Entrusted watch board.yield.2
  | drawn {board : Board} (entrusted : Entrusted watch board) : Entrusted watch board.drawTicket.2
  | enabled {board : Board} (entrusted : Entrusted watch board) :
      Entrusted watch board.enableInterrupts

namespace Entrusted

/-- What holds of every reachable board holds while a watch listens to it. -/
theorem reachable (entrusted : Entrusted watch board) : board.Reachable := by
  induction entrusted with
  | begun reachable _ => exact reachable.attended
  | obeyed _ known _ accepted ih => exact .obeyed ih known accepted
  | yielded _ ih => exact .yielded ih
  | drawn _ ih => exact .drawn ih
  | enabled _ ih => exact .enabled ih

/-- Nobody but the buttons tells the subscriber of the watch. -/
theorem alone (entrusted : Entrusted watch board) :
    ∀ task, board.hearer? task = some (.presses watch.ticket) → task.source = .buttons := by
  induction entrusted with
  | begun reachable own =>
    subst own
    exact reachable.live.attended.2
  | obeyed _ _ foreign accepted ih =>
    intro task heard
    rcases (obeys_of_ok accepted).hearer? heard with subscribed | old
    · exact absurd subscribed foreign
    · exact ih task old
  | yielded entrusted ih =>
    intro task heard
    rw [entrusted.reachable.live.hearer?_yield] at heard
    exact ih task heard
  | drawn _ ih => exact fun task heard => ih task (by cases task <;> exact heard)
  | enabled _ ih =>
    intro task heard
    rw [hearer?_enableInterrupts] at heard
    exact ih task heard

/-- On such a board a watch listens as long as it is subscribed, all interrupts are enabled and no
read is pending. -/
theorem listens (entrusted : Entrusted watch board)
    (hears : board.buttons.subscriber = some (.presses watch.ticket))
    (enabled : ∀ button, button < board.buttons.count →
      board.buttons.interrupts.get? button = some true)
    (unread : board.console.reading = false) : Listens watch board :=
  ⟨entrusted.reachable.live, hears, entrusted.alone, enabled, unread⟩

end Entrusted

end OtpToken
