import OtpToken.Proofs.Blocking.Roaming

/-!
# Bounded waits

A bounded wait runs against an alarm of its own. While that is armed the board is never
idle, so the wait serves one operation after the other until its condition holds or its
alarm has fired; the alarm has not fired late then, and nothing else is lost when it is
freed (`waitAtMost_exact`).
-/

namespace OtpToken

/-- When the alarm at a place expires, if it is armed. -/
def Alarms.expiration? (alarms : Alarms) (place : Nat) : Option Nat :=
  (alarms.timer? place).bind Timer.expiration

namespace Board

variable {board mid after : Board} {condition : Condition}

/-- The board after a number of yields. -/
def yields (board : Board) : Nat → Board
  | 0 => board
  | count + 1 => board.yield.2.yields count

/-- How a wait goes that is bounded by the alarm at a place, which expires at a deadline: `served` is
served, and the condition is asked before and after each of these. -/
structure Bounded (condition : Condition) (place deadline polls : Nat) (board : Board)
    (served : List Job) (watched : Watched) : Prop where
  asked : watched.polls = polls + served.length + 1
  runs : Runs board served watched.board
  left : watched.board = board.yields served.length
  /-- As long as the condition fails and the alarm is armed, one more operation is served. -/
  waits : ∀ count < served.length,
    condition (polls + count) (board.yields count).calls = false ∧
      (board.yields count).alarms.expiration? place = some deadline ∧
      (board.yields count).yield.1 = .serviced
  ends : if condition (polls + served.length) watched.board.calls then watched.result = .ok ()
    else watched.result = .error (.fault .timedOut) ∧
      watched.board.alarms.expiration? place = none ∧ watched.board.clock = deadline
  clock : watched.board.clock ≤ deadline

/-- A wait whose condition holds at once serves nothing. -/
theorem Bounded.of_holds {place deadline polls : Nat} {isUp : History → Bool}
    (holds : condition polls board.calls = true) (clock : board.clock ≤ deadline) :
    Bounded condition place deadline polls board [] (board.watch condition isUp polls) := by
  rw [watch_of_holds holds]
  refine ⟨rfl, .nil, rfl, by simp, ?_, clock⟩
  rw [if_pos (by simpa using holds)]

/-- A wait whose alarm has fired is over. -/
theorem Bounded.of_fired {place deadline polls : Nat} {isUp : History → Bool}
    (unmet : condition polls board.calls = false) (up : isUp board.calls = true)
    (fired : board.alarms.expiration? place = none) (clock : board.clock = deadline) :
    Bounded condition place deadline polls board [] (board.watch condition isUp polls) := by
  rw [watch, if_neg (by simp [unmet]), if_pos up]
  refine ⟨rfl, .nil, rfl, by simp, ?_, Nat.le_of_eq clock⟩
  rw [if_neg (by simpa using unmet)]
  exact ⟨rfl, fired, clock⟩

/-- A wait goes on after an operation has been served. -/
theorem Bounded.cons {place deadline polls : Nat} {job : Job} {served : List Job}
    {watched : Watched} (unmet : condition polls board.calls = false)
    (armed : board.alarms.expiration? place = some deadline)
    (yielded : board.yield = (.serviced, mid)) (serves : board.Serves job mid)
    (taken : JobTaken job board.jobs mid.jobs) (sound : mid.Sound)
    (rest : Bounded condition place deadline (polls + 1) mid served watched) :
    Bounded condition place deadline polls board (job :: served) watched := by
  have next : ∀ count, board.yields (count + 1) = mid.yields count := by
    intro count
    rw [yields, yielded]
  have later : ∀ count, polls + 1 + count = polls + (count + 1) := by omega
  refine ⟨?_, .cons serves taken sound rest.runs, ?_, ?_, ?_, rest.clock⟩
  · rw [rest.asked, List.length_cons, later]
  · rw [List.length_cons, next, ← rest.left]
  · intro count below
    cases count with
    | zero => exact ⟨unmet, armed, by rw [yields, yielded]⟩
    | succ count =>
      rw [next, ← later]
      exact rest.waits count (Nat.lt_of_succ_lt_succ below)
  · rw [List.length_cons, ← later]
    exact rest.ends

/-- A wait that an armed alarm bounds goes as it should, if nobody else raises the flag of that
alarm. -/
theorem bounded_watch (condition : Condition) {place deadline : Nat} {ticket : Ticket}
    {calls later : History} (polls : Nat) (sound : board.Sound) (supplied : board.charge = none)
    (armed : board.alarms.timer? place = some ⟨some (.flag ticket), some deadline⟩)
    (since : ticket.since = calls.length) (history : board.calls = later ++ calls)
    (silent : ∀ call ∈ later, ¬call.subscriber.Raises ticket)
    (others : ∀ task, task ≠ .ring place → ∀ subscriber,
      board.hearer? task = some subscriber → ¬subscriber.Raises ticket) :
    ∃ served, Bounded condition place deadline polls board served
      (board.watch condition ticket.isRaised polls) := by
  generalize count : board.jobs.length = length
  induction length generalizing board later polls with
  | zero =>
    have own : Job.mk deadline (.ring place) ∈ board.alarms.jobs :=
      Alarms.mem_jobs.mpr ⟨place, rfl, by rw [armed]; rfl⟩
    have none := jobs_eq_nil_iff.mp (List.length_eq_zero_iff.mp count) .alarms
    rw [show board.alarms.jobs = [] from none] at own
    cases own
  | succ length ih =>
    have own : Job.mk deadline (.ring place) ∈ board.jobs :=
      mem_jobs.mpr ⟨.alarms, Alarms.mem_jobs.mpr ⟨place, rfl, by rw [armed]; rfl⟩⟩
    have busy : board.jobs ≠ [] := List.ne_nil_of_mem own
    have expires : board.alarms.expiration? place = some deadline := by
      rw [Alarms.expiration?, armed]
      rfl
    have down : ticket.isRaised board.calls = false := by
      rw [history, Bool.eq_false_iff, ne_eq, Ticket.isRaised_append since]
      rintro ⟨call, recent, raises⟩
      exact silent call recent raises
    by_cases holds : condition polls board.calls = true
    · exact ⟨[], .of_holds holds (sound.clock_le own)⟩
    have unmet : condition polls board.calls = false := by simpa using holds
    rcases sound.yield (by simp [supplied]) with
      ⟨job, served, yielded, serves, taken, soundServed⟩ | ⟨_, none, _⟩
    · rw [stimulated_of_jobs busy] at serves taken
      rw [watch_of_serviced unmet down yielded]
      have fewer := taken.length
      have still : served.charge = none := by rw [serves.charge_eq, supplied]; rfl
      obtain ⟨call, recorded, heard⟩ := serves.calls_eq
      have history : served.calls = (call.toList ++ later) ++ calls := by
        rw [recorded, history, List.append_assoc]
      suffices ∃ jobs, Bounded condition place deadline (polls + 1) served jobs
          (served.watch condition ticket.isRaised (polls + 1)) by
        obtain ⟨jobs, rest⟩ := this
        exact ⟨job :: jobs, .cons unmet expires yielded serves taken soundServed rest⟩
      by_cases mine : job.task = .ring place
      · -- The alarm fires, so the flag is up at the next poll.
        obtain ⟨due, task⟩ := job
        cases mine
        have soon : due = deadline := by
          obtain ⟨_, same, found⟩ := Alarms.mem_jobs.mp (mem_jobsOf_source taken.mem)
          cases same
          rw [armed] at found
          exact (Option.some.inj found).symm
        subst soon
        have clock : served.clock = due := serves.clock_eq
        by_cases holds : condition (polls + 1) served.calls = true
        · exact ⟨[], .of_holds holds (Nat.le_of_eq clock)⟩
        · refine ⟨[], .of_fired (by simpa using holds) ?_ ?_ clock⟩
          · rcases heard with ⟨first, second, rfl⟩ | ⟨_, button⟩
            · rw [history, Ticket.isRaised_append since, Board.hearer?, armed]
              exact ⟨_, List.mem_append_left _ List.mem_cons_self, .inl rfl⟩
            · cases button
          · obtain ⟨timer, here, unarmed⟩ := serves.of_ring
            rw [Alarms.expiration?, here]
            exact unarmed
      · refine ih (polls + 1) soundServed still ?_ history ?_ ?_ (by omega)
        · rw [serves.timer?_eq mine, armed]
        · intro one member
          rcases List.mem_append.mp member with new | old
          · rcases heard with ⟨_, _, rfl⟩ | ⟨rfl, _⟩
            · obtain ⟨subscriber, here, rfl⟩ := Option.map_eq_some_iff.mp (Option.mem_toList.mp new)
              exact others job.task mine subscriber here
            · cases new
          · exact silent one old
        · intro task apart subscriber here
          rw [serves.abides.hearer?] at here
          exact others task apart subscriber here
    · exact absurd none busy

/-- What a wait comes to that is given a number of ticks: `served` is served while it lasts. -/
structure Timed (condition : Condition) (ticks : Nat) (board : Board) (served : List Job)
    (watched : Watched) : Prop where
  /-- The wait is bounded by an alarm of its own, which is freed whichever way it ends. -/
  course : ∃ last, Bounded condition (board.timeout ticks).1 (board.clock + ticks) 0
      (board.timeout ticks).2 served ⟨watched.result, watched.polls, last⟩ ∧
    watched.board = last.freeAlarm (board.timeout ticks).1
  input : watched.board.console.input = board.console.input
  /-- Every other alarm that has not fired is as it was before. -/
  alarms : ∀ place, (place ≠ (board.timeout ticks).1 → ∀ job ∈ served, job.task ≠ .ring place) →
    watched.board.alarms.timer? place = board.alarms.timer? place
  freed : watched.board.alarms.timer? (board.timeout ticks).1 = none

/-- What a wait of at most a number of milliseconds comes to. -/
def WaitsAtMost (condition : Condition) (milliseconds : Nat) (board : Board) (watched : Watched) :
    Prop :=
  if ticksOfMilliseconds milliseconds < UInt32.size then
    ∃ served, Timed condition (ticksOfMilliseconds milliseconds) board served watched
  else watched = ⟨.error (.fault (.rejected .size)), 0, board⟩

section timeout

variable (board) (ticks : Nat)

/-- The alarm of a limit is armed for its end, under a fresh ticket. -/
theorem timer?_timeout_self : (board.timeout ticks).2.alarms.timer? (board.timeout ticks).1 =
    some ⟨some (.flag board.drawTicket.1), some (board.clock + ticks)⟩ := by
  have bound := Alarms.lt_length_of_timer? board.alarms.timer?_allocate_self
  exact (Alarms.timer?_setTimer ..).trans (if_pos ⟨rfl, bound⟩)

/-- Setting a limit leaves every other alarm. -/
theorem timer?_timeout_other {place : Nat} (apart : place ≠ (board.timeout ticks).1) :
    (board.timeout ticks).2.alarms.timer? place = board.alarms.timer? place := by
  have kept : (board.timeout ticks).2.alarms.timer? place =
      board.alarms.allocate.2.timer? place :=
    (Alarms.timer?_setTimer ..).trans (if_neg fun same => apart same.1.symm)
  rw [kept, Alarms.timer?_allocate_other board.alarms apart]

/-- Nobody but the alarm of a bounded wait raises the flag of its ticket. -/
theorem Fresh.timeout (fresh : board.Fresh) {task : Task}
    (apart : task ≠ .ring (board.timeout ticks).1) {subscriber : Subscriber}
    (heard : (board.timeout ticks).2.hearer? task = some subscriber) :
    ¬subscriber.Raises board.drawTicket.1 := by
  have known : board.hearer? task = some subscriber := by
    cases task with
    | ring place =>
      have other : place ≠ (board.timeout ticks).1 := fun same => apart (by rw [same])
      rw [Board.hearer?, timer?_timeout_other board ticks other] at heard
      exact heard
    | turn | receive | digest | typing | access => exact heard
  exact (fresh task subscriber known).not_raises

end timeout

/-- An alarm of one's own is the last thing to be armed, so the board stays sound. -/
theorem Sound.timeout (sound : board.Sound) (ticks : Nat) : (board.timeout ticks).2.Sound := by
  refine { sound with alarms := sound.alarms.allocate.setTimer (fun _ => rfl) ?_ }
  rintro _ ⟨rfl⟩
  exact Nat.le_add_right _ _

/-- A place that can be freed holds no alarm afterwards, and the others keep theirs. -/
theorem timer?_freeAlarm {place : Nat} (apart : place ≠ Alarms.defaultPlace) (board : Board)
    (other : Nat) : (board.freeAlarm place).alarms.timer? other =
      if other = place then none else board.alarms.timer? other := by
  have freed : (board.freeAlarm place).alarms = board.alarms.setTimer place none := if_neg apart
  rw [freed, Alarms.timer?_setTimer]
  by_cases same : other = place
  · subst same
    by_cases bound : other < board.alarms.places.length
    · rw [if_pos ⟨rfl, bound⟩, if_pos rfl]
    · rw [if_neg (fun h => bound h.2), if_pos rfl, Alarms.timer?,
        List.getElem?_eq_none (Nat.le_of_not_lt bound)]
      rfl
  · rw [if_neg (fun h => same h.1.symm), if_neg same]

/-- A wait that its own alarm bounds leaves no trace of that alarm. -/
theorem Bounded.timed {ticks : Nat} {served : List Job} {watched : Watched} (sound : board.Sound)
    (bounded : Bounded condition (board.timeout ticks).1 (board.clock + ticks) 0
      (board.timeout ticks).2 served watched) :
    Timed condition ticks board served
      { watched with board := watched.board.freeAlarm (board.timeout ticks).1 } := by
  have apart : (board.timeout ticks).1 ≠ Alarms.defaultPlace := sound.alarms.freePlace_ne
  have freed := timer?_freeAlarm apart watched.board
  refine ⟨⟨_, bounded, rfl⟩, bounded.runs.abides.input, ?_, ?_⟩
  · intro place unfired
    rw [freed]
    by_cases own : place = (board.timeout ticks).1
    · rw [if_pos own, own]
      exact board.alarms.timer?_freePlace.symm
    · rw [if_neg own, bounded.runs.timer?_eq (unfired own), timer?_timeout_other board ticks own]
  · rw [freed, if_pos rfl]

/-- A bounded wait is exact: it ends when its condition holds, and at the latest when its time is
up, and leaves the input and the alarms as if it had not been there. -/
theorem waitsAtMost_waitAtMost (sound : board.Sound) (fresh : board.Fresh)
    (supplied : board.charge = none) (microseconds : Nat) (condition : Condition) :
    board.WaitsAtMost condition (microseconds / 1000) (board.waitAtMost microseconds condition) := by
  unfold WaitsAtMost
  split
  next fits =>
    rw [waitAtMost_of_fits condition fits]
    generalize ticksOfMilliseconds (microseconds / 1000) = ticks
    have armed := timer?_timeout_self board ticks
    have history : (board.timeout ticks).2.calls = [] ++ board.calls := rfl
    obtain ⟨served, bounded⟩ := bounded_watch condition 0 (sound.timeout ticks)
      supplied armed rfl history (by simp)
      fun task apart subscriber heard => fresh.timeout board ticks apart heard
    exact ⟨served, bounded.timed sound⟩
  next unfit => exact waitAtMost_of_unfit condition unfit

/-- From every reachable board a bounded wait is exact, and so is that of a call which waits for
what it has registered. -/
theorem waitAtMost_exact (reachable : board.Reachable) (microseconds : Nat) :
    (∀ condition, board.WaitsAtMost condition (microseconds / 1000)
      (board.waitAtMost microseconds condition)) ∧
    ∀ register : Ticket → BoardAct Unit,
      (∀ ticket, BoardAct.Roams (ticket.number + 1) (register ticket)) →
      ∀ begun predicate, register board.drawTicket.1 board.drawTicket.2 = .ok () begun →
      ∃ watched, begun.WaitsAtMost
          (fun polls calls => board.drawTicket.1.isRaised calls || predicate polls calls)
          (microseconds / 1000) watched ∧
        BoardAct.awaitCondition register predicate (some microseconds) board =
          watched.outcome board.drawTicket.1 := by
  have exact : ∀ {board : Board}, board.Reachable → ∀ condition, board.WaitsAtMost condition
      (microseconds / 1000) (board.waitAtMost microseconds condition) := fun reachable =>
    waitsAtMost_waitAtMost reachable.sound reachable.fresh reachable.supplied microseconds
  refine ⟨exact reachable, fun register roams begun predicate registered => ⟨_, exact ?_ _,
    BoardAct.awaitCondition_of_registered predicate (some microseconds) registered⟩⟩
  have moves := roams board.drawTicket.1 board.drawTicket.2 reachable.drawn (Nat.le_refl _)
  rw [registered] at moves
  exact moves.reachable

/-- In the middle of things, a wait of two milliseconds and a half, and a call that waits as long for
the alarm that is armed already. -/
theorem waitAtMost_exact_crowded :
    let register (ticket : Ticket) : BoardAct Unit :=
      BoardAct.subscribe (.alarm Alarms.defaultPlace) (some (.flag ticket))
    (∀ condition, crowded.WaitsAtMost condition 2 (crowded.waitAtMost 2500 condition)) ∧
      ∃ begun, register crowded.drawTicket.1 crowded.drawTicket.2 = .ok () begun ∧
      ∃ watched, begun.WaitsAtMost
          (fun _ calls => crowded.drawTicket.1.isRaised calls || false) 2 watched ∧
        BoardAct.awaitCondition register (fun _ _ => false) (some 2500) crowded =
          watched.outcome crowded.drawTicket.1 := by
  intro register
  obtain ⟨waits, awaits⟩ := waitAtMost_exact reachable_crowded 2500
  refine ⟨waits, _, rfl, awaits register (fun ticket => ?_) _ (fun _ _ => false) rfl⟩
  exact .subscribe _ (BoardAct.isAmong_of_raises (.inl rfl))

end Board

end OtpToken
