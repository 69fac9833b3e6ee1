import OtpToken.Proofs.Blocking.Delay
import OtpToken.Proofs.Board.Precedence
import OtpToken.Proofs.Board.Reachable
import OtpToken.Proofs.Board.Schedule

/-!
# Delays on any board

Splitting off whole seconds loses nothing when milliseconds are converted to ticks
(`ticksFor_eq_floor`), and a delay takes exactly that many ticks on every board that a program can
bring about (`delay_exact`). The default alarm is the first thing that a board looks at, so what is
due before the end of the delay is served at its own tick, and what is due at the end or later is
left.
-/

namespace OtpToken

open Act Board

/-- No step of the conversion to ticks needs more than 64 bits. -/
theorem conversion_lt {frequency milliseconds : Nat} (slow : frequency < UInt32.size)
    (brief : milliseconds < UInt32.size) :
    milliseconds / 1000 * frequency < UInt64.size ∧ milliseconds % 1000 * frequency < UInt64.size ∧
      milliseconds / 1000 * frequency + milliseconds % 1000 * frequency / 1000 < UInt64.size := by
  have product : ∀ count ≤ milliseconds, count * frequency < UInt64.size := by
    intro count fewer
    calc count * frequency < UInt32.size * UInt32.size :=
          Nat.mul_lt_mul'' (Nat.lt_of_le_of_lt fewer brief) slow
      _ = UInt64.size := by decide
  refine ⟨product _ (Nat.div_le_self ..), product _ (Nat.mod_le ..), ?_⟩
  rw [seconds_apart]
  exact Nat.lt_of_le_of_lt (Nat.div_le_self ..) (product _ (Nat.le_refl _))

namespace Board

variable {board mid served : Board} {ticks : Nat} {jobs : List Job} {quiet : Timer}

/-- What is outstanding once the default alarm has been armed for the end of a delay: that alarm
first, in place of what it was armed for, and everything else as it was. -/
theorem Sound.jobs_beginDelay (sound : board.Sound) (ticks : Nat) :
    (board.beginDelay ticks).jobs = board.delayJob ticks ::
      board.jobs.filter fun job => job.task ≠ .ring Alarms.defaultPlace := by
  obtain ⟨timer, here⟩ := Option.isSome_iff_exists.mp sound.alarms.hasDefault
  obtain ⟨first, places, table⟩ :=
    List.exists_cons_of_ne_nil (List.ne_nil_of_length_pos (Alarms.lt_length_of_timer? here))
  let others := Alarms.jobsFrom 1 places ++
    [Source.buttons, .console, .macUnit, .keyboard, .keyValue].flatMap board.jobsOf
  have apart : ∀ job ∈ others, job.task ≠ .ring Alarms.defaultPlace := by
    intro job member own
    rcases List.mem_append.mp member with alarm | other
    · obtain ⟨place, task, behind, _⟩ := Alarms.place_of_mem_jobsFrom alarm
      rw [own, Task.ring.injEq] at task
      rw [← task] at behind
      cases behind
    · obtain ⟨source, among, inside⟩ := List.mem_flatMap.mp other
      have driver := source_of_mem_jobsOf inside
      rw [own] at driver
      subst driver
      simp [Task.source] at among
  have before : board.jobs = Alarms.jobOf Alarms.defaultPlace first ++ others := by
    rw [Board.jobs, Source.all, List.flatMap_cons, jobsOf, Alarms.jobs, table, Alarms.jobsFrom,
      List.append_assoc]
    rfl
  have begun : (board.beginDelay ticks).jobs = board.delayJob ticks :: others := by
    rw [Board.jobs, Source.all, List.flatMap_cons, jobsOf, Alarms.jobs, Board.beginDelay,
      Alarms.setTimer, table]
    rfl
  have own : (Alarms.jobOf Alarms.defaultPlace first).filter
      (fun job => job.task ≠ .ring Alarms.defaultPlace) = [] :=
    List.filter_eq_nil_iff.mpr fun job member => by simp [(Alarms.mem_jobOf.mp member).2]
  rw [begun, before, List.filter_append, own, List.nil_append,
    List.filter_eq_self.mpr fun job member => by simpa using apart job member]

/-- A delay of so many ticks is over, and `served` has been served meanwhile. -/
structure Elapsed (board : Board) (ticks : Nat) (served : List Job) (after : Board) : Prop where
  clock : after.clock = board.clock + ticks
  input : after.console.input = board.console.input
  /-- Each job is served in its turn, at the tick it is due, and in the end the default alarm is,
  which is then taken back. -/
  course : ∃ mid done quiet, Runs (board.beginDelay ticks) served mid ∧
    mid.Serves (board.delayJob ticks) done ∧
    done.alarms.timer? Alarms.defaultPlace = some quiet ∧ after = Delayed.silenced done quiet
  /-- What is served is everything that is due before the end, but for what the default alarm was
  armed for. -/
  early : served.Perm (board.jobs.filter fun job =>
    job.task ≠ .ring Alarms.defaultPlace ∧ job.due < board.clock + ticks)
  /-- Everything else is left. -/
  left : after.jobs = board.jobs.filter fun job =>
    job.task ≠ .ring Alarms.defaultPlace ∧ board.clock + ticks ≤ job.due
  /-- A driver of which nothing is served stays as it is, its pending read included. -/
  others : ∀ source, source ≠ .alarms → (∀ job ∈ served, job.task.source ≠ source) →
    board.SameAt after source
  alarms : ∀ place, place ≠ Alarms.defaultPlace → (∀ job ∈ served, job.task ≠ .ring place) →
    after.alarms.timer? place = board.alarms.timer? place
  default : after.alarms.timer? Alarms.defaultPlace = some .disarmed
  hearer? : ∀ task, task ≠ .ring Alarms.defaultPlace → after.hearer? task = board.hearer? task

namespace Delayed

/-- The default alarm stays the first job until everything has been served that is due before the
end of the delay. -/
theorem leads (delayed : Delayed board ticks jobs mid served) (sound : board.Sound) :
    (∀ job ∈ jobs, job.due < board.clock + ticks) ∧
      mid.jobs = board.delayJob ticks :: served.jobs ∧
        ∀ job ∈ served.jobs, board.clock + ticks ≤ job.due := by
  obtain ⟨early, rest, leads⟩ := delayed.runs.of_head (sound.jobs_beginDelay ticks) delayed.absent
  have taken := delayed.taken
  rw [leads] at taken
  rcases taken.cases_head with ⟨_, left, late⟩ | ⟨earlier, _⟩
  · rw [left]
    exact ⟨early, leads, late⟩
  · exact absurd earlier (Nat.lt_irrefl _)

/-- The jobs of others that there were are those that have been served and those that are left. -/
theorem perm_jobs (delayed : Delayed board ticks jobs mid served) (sound : board.Sound) :
    (board.jobs.filter fun job => job.task ≠ .ring Alarms.defaultPlace).Perm
      (jobs ++ served.jobs) := by
  have parts := delayed.runs.perm
  rw [sound.jobs_beginDelay, (delayed.leads sound).2.1] at parts
  exact (parts.trans List.perm_middle).cons_inv

/-- What a delay serves is what was due before its end, its own alarm apart. -/
theorem served_perm (delayed : Delayed board ticks jobs mid served) (sound : board.Sound) :
    jobs.Perm (board.jobs.filter fun job =>
      job.task ≠ .ring Alarms.defaultPlace ∧ job.due < board.clock + ticks) := by
  obtain ⟨early, _, late⟩ := delayed.leads sound
  have all : jobs.filter (fun job => job.due < board.clock + ticks) = jobs :=
    List.filter_eq_self.mpr fun job member => decide_eq_true (early job member)
  have none : served.jobs.filter (fun job => job.due < board.clock + ticks) = [] :=
    List.filter_eq_nil_iff.mpr fun job member => by simpa using late job member
  have parts := (delayed.perm_jobs sound).filter fun job => job.due < board.clock + ticks
  rw [List.filter_append, all, none, List.append_nil, List.filter_filter] at parts
  refine parts.symm.trans (.of_eq (List.filter_congr fun job _ => ?_))
  rw [Bool.decide_and, Bool.and_comm]

/-- What a delay leaves is what is due from its end on, its own alarm apart. -/
theorem jobs_left (delayed : Delayed board ticks jobs mid served) (sound : board.Sound) :
    served.jobs = board.jobs.filter fun job =>
      job.task ≠ .ring Alarms.defaultPlace ∧ board.clock + ticks ≤ job.due := by
  obtain ⟨early, leads, late⟩ := delayed.leads sound
  let kind (job : Job) : Bool :=
    job.task ≠ .ring Alarms.defaultPlace ∧ board.clock + ticks ≤ job.due
  have own : ¬kind (board.delayJob ticks) = true := by simp [kind, delayJob]
  have foreign : ∀ job ∈ served.jobs, job.task ≠ .ring Alarms.defaultPlace := by
    intro job member
    have inside := (delayed.perm_jobs sound).mem_iff.mpr (List.mem_append_right _ member)
    simpa using (List.mem_filter.mp inside).2
  calc served.jobs = served.jobs.filter kind :=
        (List.filter_eq_self.mpr fun job member =>
          decide_eq_true ⟨foreign job member, late job member⟩).symm
    _ = mid.jobs.filter kind := by rw [leads, List.filter_cons_of_neg own]
    _ = (board.beginDelay ticks).jobs.filter kind := delayed.runs.filter_eq fun job member =>
        decide_eq_false fun holds => absurd (early job member) (Nat.not_lt_of_le holds.2)
    _ = board.jobs.filter kind := by
        rw [sound.jobs_beginDelay, List.filter_cons_of_neg own, List.filter_filter]
        refine List.filter_congr fun job _ => ?_
        rw [← Bool.decide_coe (kind job), ← Bool.decide_and]
        exact decide_eq_decide.mpr (and_iff_left_of_imp fun holds => (of_decide_eq_true holds).1)

/-- What the default alarm has been taken back from is outstanding as before. -/
theorem jobs_silenced (found : served.alarms.timer? Alarms.defaultPlace = some quiet) :
    (silenced served quiet).jobs = served.jobs := by
  have alarms : (silenced served quiet).alarms.jobs = served.alarms.jobs :=
    Alarms.jobs_setTimer (by rw [found]; rfl)
  refine List.flatMap_congr fun source _ => ?_
  cases source with
  | alarms => exact alarms
  | buttons | console | macUnit | keyboard | keyValue => rfl

/-- The default alarm is served before anything that is due at the same tick, and after all that is
due earlier. -/
theorem elapsed (delayed : Delayed board ticks jobs mid served) (sound : board.Sound)
    (found : served.alarms.timer? Alarms.defaultPlace = some quiet)
    (unarmed : quiet.expiration = none) : board.Elapsed ticks jobs (silenced served quiet) where
  clock := delayed.serves.clock_eq
  input := (delayed.runs.abides.trans delayed.serves.abides).input
  course := ⟨mid, served, quiet, delayed.runs, delayed.serves, found, rfl⟩
  early := delayed.served_perm sound
  left := (jobs_silenced found).trans (delayed.jobs_left sound)
  others := fun _ apart unserved => ((beginDelay_sameAt ticks apart).trans
    (delayed.runs.sameAt _ unserved)).trans (delayed.sameAt quiet apart)
  alarms := by
    intro place apart unfired
    have elsewhere : ¬(Alarms.defaultPlace = place ∧
        Alarms.defaultPlace < served.alarms.places.length) := fun here => apart here.1.symm
    rw [Alarms.timer?_setTimer, if_neg elsewhere,
      delayed.serves.timer?_eq (by simpa [delayJob] using apart.symm),
      delayed.runs.timer?_eq unfired, sound.timer?_beginDelay, if_neg fun here => apart here.symm]
  default := by
    rw [Alarms.timer?_setTimer, if_pos ⟨rfl, Alarms.lt_length_of_timer? found⟩, Timer.disarmed,
      unarmed]
  hearer? := by
    intro task apart
    rw [hearer?_silenced quiet apart, delayed.serves.abides.hearer?, delayed.runs.abides.hearer?,
      sound.hearer?_beginDelay apart]

end Delayed

end Board

namespace BoardAct

/-- Milliseconds come to exactly as many whole ticks as they hold, or are refused if these do not
fit an alarm, and at the frequency of the board to as many as the drivers take for them. From every
reachable board a delay of so many ticks comes to its end. It takes no input, and serves what is due
before its end and nothing else; what the default alarm was armed for is lost. -/
theorem delay_exact :
    (∀ frequency milliseconds, frequency < UInt32.size → milliseconds < UInt32.size →
      milliseconds / 1000 * frequency < UInt64.size ∧
      milliseconds % 1000 * frequency < UInt64.size ∧
      milliseconds / 1000 * frequency + milliseconds % 1000 * frequency / 1000 < UInt64.size ∧
      ticksFor frequency milliseconds =
        if milliseconds * frequency / 1000 < UInt32.size then .ok (milliseconds * frequency / 1000)
        else .error (.rejected .size)) ∧
    (∀ milliseconds, ticksFor tickFrequency milliseconds =
      if ticksOfMilliseconds milliseconds < UInt32.size then .ok (ticksOfMilliseconds milliseconds)
      else .error (.rejected .size)) ∧
    ∀ board : Board, board.Reachable → ∀ milliseconds,
      match ticksFor tickFrequency milliseconds with
      | .ok ticks => ∃ served after,
          delay milliseconds board = .ok () after ∧ board.Elapsed ticks served after
      | .error fault => delay milliseconds board = .error (.fault fault) board := by
  refine ⟨fun frequency milliseconds slow brief => ?_, ticksFor_eq, ?_⟩
  · obtain ⟨seconds, leftover, whole⟩ := conversion_lt slow brief
    exact ⟨seconds, leftover, whole, ticksFor_eq_floor frequency milliseconds⟩
  · intro board reachable milliseconds
    cases converted : ticksFor tickFrequency milliseconds with
    | ok ticks =>
      obtain ⟨served, mid, done, quiet, delayed, found, unarmed, ran⟩ :=
        delay_of_live reachable.live converted
      exact ⟨served, _, ran, delayed.elapsed reachable.sound found unarmed⟩
    | error fault =>
      have first : (Act.ofExcept (ticksFor tickFrequency milliseconds) : BoardAct Nat) board =
          .error (.fault fault) board := by
        rw [converted]
        rfl
      exact bind_of_error first

/-- In the middle of things a delay of 8 milliseconds ends at the tick at which a text is to be
typed, and before that is done; the alarm that had been armed never fires. The longest delay that
can be asked for is refused. -/
theorem delay_exact_crowded :
    ticksFor 3 4294967295 = .ok 12884901 ∧
    crowded.jobs = [⟨65, .ring 0⟩, ⟨0, .turn 0 true⟩, ⟨3932, .turn 0 false⟩, ⟨262, .typing⟩] ∧
    (∃ after, delay 8 crowded = .ok () after ∧ after.clock = 262 ∧
      after.jobs = [⟨3932, .turn 0 false⟩, ⟨262, .typing⟩]) ∧
    delay 4294967295 crowded = .error (.fault (.rejected .size)) crowded := by
  obtain ⟨converts, _, delays⟩ := delay_exact
  have converted : ticksFor tickFrequency 8 = .ok 262 := by decide
  have unfit : ticksFor tickFrequency 4294967295 = .error (.rejected .size) := by decide
  have eight := delays crowded reachable_crowded 8
  have longest := delays crowded reachable_crowded 4294967295
  rw [converted] at eight
  rw [unfit] at longest
  obtain ⟨_, after, ran, elapsed⟩ := eight
  refine ⟨(converts 3 4294967295 (by decide) (by decide)).2.2.2.trans (by decide), by decide,
    ⟨after, ran, elapsed.clock, elapsed.left.trans (by decide)⟩, longest⟩

end BoardAct

end OtpToken
