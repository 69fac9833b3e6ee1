import OtpToken.Proofs.Blocking.Deliver
import OtpToken.Proofs.Board.Precedence
import OtpToken.Proofs.Board.Reachable

/-!
# The keyed-hash unit on any board

On a ready board only alarms and buttons can come in between a call at the keyed-hash
unit and its digest. On a reachable board every driver may have something to do, the
unit itself included. What a call answers is a function of its arguments, and of whether
the unit is at work already, all the same (`computeMac_generateCode_pure`): if it is
refused nothing has been served, and otherwise the unit has done one run, before which
those jobs were served that come before it in the schedule.
-/

namespace OtpToken

open Act Board

namespace Board

variable {board mid after begun : Board} {served : List Job}

/-- What a call for a digest answers. -/
def macAnswer (board : Board) (key message : Bytes) : Except Fault Digest :=
  if board.macUnit.due.isSome then .error (.rejected .busy)
  else if key = [] then .error (.rejected .reserve)
  else if MacUnit.maxKeyLength < key.length then .error (.rejected .size)
  else .ok (Hmac.mac key message)

/-- What a call for a code answers. -/
def codeAnswer (board : Board) (secret : Bytes) (counter : UInt64) (digits : Nat) :
    Except Fault Code := do
  Code.checkDigits digits
  let digest ← board.macAnswer secret (Code.movingFactor counter)
  Code.truncate digest digits

/-- A call at the keyed-hash unit has been refused: nothing has been served, no time has passed and
no run has been started. -/
structure Refused (board after : Board) : Prop where
  clock : after.clock = board.clock
  calls : after.calls = board.calls
  jobs : after.jobs = board.jobs
  runs : after.macUnit.runs = board.macUnit.runs
  others : ∀ source, source ≠ .macUnit → board.SameAt after source

/-- A call at the keyed-hash unit has waited for a run of its own, and `served` has been served
meanwhile. -/
structure Hashed (board : Board) (served : List Job) (after : Board) : Prop where
  clock : after.clock = board.clock + 65
  macUnit : after.macUnit = ⟨none, [], [], [], true, none, board.macUnit.runs + 1⟩
  input : after.console.input = board.console.input
  /-- Each job is served in its turn, at the tick it is due, and in the end the run is. -/
  course : ∃ begun mid done, board.Begun begun board.digestJob ∧ Runs begun served mid ∧
    mid.Serves board.digestJob done ∧ after = done.clearMacUnit
  precede : served.Perm (board.jobs.filter fun job => job.Precedes board.digestJob)
  left : after.jobs = board.jobs.filter fun job => ¬job.Precedes board.digestJob
  /-- A driver of which nothing is served stays as it is, its pending read included. -/
  others : ∀ source, source ≠ .macUnit → (∀ job ∈ served, job.task.source ≠ source) →
    board.SameAt after source
  alarms : ∀ place, (∀ job ∈ served, job.task ≠ .ring place) →
    after.alarms.timer? place = board.alarms.timer? place
  hearer? : ∀ task, task ≠ .digest → after.hearer? task = board.hearer? task

/-- How a call at the keyed-hash unit ends that has a certain answer. -/
inductive Answers {α : Type} (board : Board) :
    Except Fault α → EStateM.Result Failure Board α → Prop
  | refused {fault : Fault} {after : Board} (refused : board.Refused after) :
      Answers board (.error fault) (.error (.fault fault) after)
  | hashed {value : α} {served : List Job} {after : Board} (hashed : board.Hashed served after) :
      Answers board (.ok value) (.ok value after)

/-- A refused call may leave the board as it was. -/
theorem Refused.refl (board : Board) : board.Refused board :=
  ⟨rfl, rfl, rfl, rfl, fun source _ => by cases source <;> rfl⟩

/-- Only the keyed-hash unit and the tickets have changed, and no run has been started or ended. -/
theorem Refused.of_macUnit {unit : MacUnit} (tickets : Nat) (due : unit.due = board.macUnit.due)
    (runs : unit.runs = board.macUnit.runs) :
    board.Refused { board with tickets := tickets, macUnit := unit } where
  clock := rfl
  calls := rfl
  jobs := by
    refine List.flatMap_congr fun source _ => ?_
    cases source with
    | macUnit => simp only [jobsOf, MacUnit.jobs, due]
    | alarms | buttons | console | keyboard | keyValue => rfl
  runs := runs
  others := fun source apart => by cases source <;> first | rfl | exact absurd rfl apart

/-- Once its run has been served, a call takes the unit back and has waited for nothing else. -/
theorem Begun.hashed {key message : Bytes} (idle : board.macUnit.due = none)
    (begins : board.Begun (board.beginMac key message) board.digestJob)
    (runs : Runs (board.beginMac key message) served mid) (absent : board.digestJob ∉ served)
    (serves : mid.Serves board.digestJob after)
    (taken : JobTaken board.digestJob mid.jobs after.jobs) :
    board.Hashed served after.clearMacUnit := by
  have drained : after.macUnit.due = none := by rw [serves.of_digest.1]
  obtain ⟨precede, left⟩ := begins.overtakes
    (by simp [digestJob, Task.source, jobsOf, MacUnit.jobs, idle]) runs absent taken
    (by simp [digestJob, Task.source, jobsOf, MacUnit.jobs, drained])
  have unit : mid.macUnit = (board.beginMac key message).macUnit :=
    runs.sameAt_of_only begins.only absent
  have abides := runs.abides.trans serves.abides
  have elsewhere : ∀ source, source ≠ .macUnit → after.SameAt after.clearMacUnit source := by
    intro source apart
    cases source <;> first | rfl | exact absurd rfl apart
  have others : ∀ source, source ≠ .macUnit → (∀ job ∈ served, job.task.source ≠ source) →
      board.SameAt after.clearMacUnit source := by
    intro source apart unserved
    exact (((begins.others source apart).trans (runs.sameAt source unserved)).trans
      (serves.sameAt fun same => apart same.symm)).trans (elsewhere source apart)
  refine ⟨serves.clock_eq, ?_, abides.input, ⟨_, mid, after, begins, runs, serves, rfl⟩, precede,
    ?_, others, ?_, ?_⟩
  · simp only [serves.of_digest.1, unit, beginMac]
  · rw [← left]
    refine List.flatMap_congr fun source _ => ?_
    cases source <;> rfl
  · intro place unfired
    have alarms : (board.beginMac key message).alarms = board.alarms := rfl
    rw [show after.clearMacUnit.alarms = after.alarms from rfl,
      serves.timer?_eq (by simp [digestJob]), runs.timer?_eq unfired, alarms]
  · intro task apart
    have cleared : after.clearMacUnit.hearer? task = after.hearer? task := by
      cases task <;> first | rfl | exact absurd rfl apart
    have begun : (board.beginMac key message).hearer? task = board.hearer? task := by
      cases task <;> first | rfl | exact absurd rfl apart
    rw [cleared, abides.hearer?, begun]

end Board

namespace BoardAct

variable {board : Board}

/-- A unit that is at work refuses everything but another subscriber. -/
theorem computeMac_of_busy (busy : board.macUnit.due.isSome) (key message : Bytes) :
    computeMac key message board = .error (.fault (.rejected .busy))
      { board with
        tickets := board.tickets + 1
        macUnit := { board.macUnit with subscriber := none } } := by
  simp [computeMac, releasing, awaitUpcall_eq, BoardAct.drawTicket, subscribe, share, command, bind,
    EStateM.bind, Board.subscribe, Board.share, MacUnit.shareKey, MacUnit.shareData,
    MacUnit.shareDestination, MacUnit.whenIdle, Board.drawTicket, busy, Except.bind, pure,
    EStateM.pure, releaseMacUnit, settle]

/-- A call for the digest under a fit key waits for a run of its own. -/
theorem computeMac_of_fit (live : board.Live) (idle : board.macUnit.due = none) {key : Bytes}
    (message : Bytes) (keyed : key ≠ []) (short : key.length ≤ MacUnit.maxKeyLength) :
    ∃ served mid done, board.Begun (board.beginMac key message) board.digestJob ∧
      Runs (board.beginMac key message) served mid ∧ board.digestJob ∉ served ∧
      mid.Serves board.digestJob done ∧ JobTaken board.digestJob mid.jobs done.jobs ∧
      computeMac key message board = .ok (Hmac.mac key message) done.clearMacUnit := by
  have begins := live.sound.begun_beginMac message keyed short
  obtain ⟨served, mid, runs, absent, outcome⟩ :=
    begins.awaitTaken live.fresh (registerMac key message) (by simp [digestJob, Task.source])
      (registerMac_eq idle message keyed short)
  have unit : mid.macUnit = (board.beginMac key message).macUnit :=
    runs.sameAt_of_only begins.only absent
  rcases outcome with ⟨done, serves, taken, _, awaited⟩ | ⟨spent, _⟩
  · obtain ⟨left, heard⟩ := serves.of_digest
    rw [unit] at left heard
    have computed : done.macUnit.destination = (Hmac.mac key message).val := by
      simp [left, beginMac]
    exact ⟨served, mid, done, begins, runs, absent, serves, taken,
      computeMac_of_awaited awaited (by rw [left]) computed heard⟩
  · rw [runs.charge_eq_none (begins.charge.trans live.supplied)] at spent
    cases spent

/-- A call for a digest answers as it should on any board that it can be made on. -/
theorem answers_computeMac (live : board.Live) (key message : Bytes) :
    board.Answers (board.macAnswer key message) (computeMac key message board) := by
  unfold macAnswer
  by_cases busy : board.macUnit.due.isSome
  · rw [if_pos busy, computeMac_of_busy busy]
    exact .refused (.of_macUnit _ rfl rfl)
  have idle : board.macUnit.due = none := by simpa using busy
  rw [if_neg busy]
  by_cases unfit : key = [] ∨ MacUnit.maxKeyLength < key.length
  · rw [computeMac_of_unfit idle message unfit]
    by_cases empty : key = []
    · rw [if_pos empty, if_pos empty]
      exact .refused (.of_macUnit _ rfl rfl)
    · rw [if_neg empty, if_neg empty, if_pos (unfit.resolve_left empty)]
      exact .refused (.of_macUnit _ rfl rfl)
  · rw [not_or, Nat.not_lt] at unfit
    rw [if_neg unfit.1, if_neg (Nat.not_lt.mpr unfit.2)]
    obtain ⟨served, mid, done, begins, runs, absent, serves, taken, ran⟩ :=
      computeMac_of_fit live idle message unfit.1 unfit.2
    rw [ran]
    exact .hashed (begins.hashed idle runs absent serves taken)

/-- A call for a code that is cut from a digest answers as the call for the digest does. -/
theorem answers_generateCode {secret : Bytes} {counter : UInt64}
    (answers : board.Answers (board.macAnswer secret (Code.movingFactor counter))
      (computeMac secret (Code.movingFactor counter) board)) (digits : Nat) :
    board.Answers (board.codeAnswer secret counter digits)
      (generateCode secret counter digits board) := by
  unfold codeAnswer generateCode
  by_cases right : 1 ≤ digits ∧ digits ≤ Code.maxDigits
  · have checked : Code.checkDigits digits = .ok () := if_pos right
    have first : (Act.ofExcept (Code.checkDigits digits) : BoardAct Unit) board = .ok () board := by
      rw [checked]
      rfl
    rw [bind_of_ok first, checked]
    generalize board.macAnswer secret (Code.movingFactor counter) = answer at answers ⊢
    generalize ran : computeMac secret (Code.movingFactor counter) board = outcome at answers
    cases answers with
    | refused refused =>
      rw [bind_of_error ran]
      exact .refused refused
    | hashed hashed =>
      rw [bind_of_ok ran]
      simp only [bind, Except.bind, Code.truncate_of_right right]
      exact .hashed hashed
  · have checked : Code.checkDigits digits = .error (.unsupportedDigits digits) := if_neg right
    have first : (Act.ofExcept (Code.checkDigits digits) : BoardAct Unit) board =
        .error (.fault (.unsupportedDigits digits)) board := by
      rw [checked]
      rfl
    rw [bind_of_error first, checked]
    exact .refused (.refl board)

/-- From every reachable board a call for a digest, and one for a code, answers with a value or a
refusal that its arguments determine, except that a unit which is at work refuses every call. -/
theorem computeMac_generateCode_pure (reachable : board.Reachable) :
    (∀ key message, board.Answers (board.macAnswer key message) (computeMac key message board)) ∧
    ∀ secret counter digits, board.Answers (board.codeAnswer secret counter digits)
      (generateCode secret counter digits board) := by
  have digests := answers_computeMac reachable.live
  exact ⟨digests, fun secret counter => answers_generateCode (digests secret _)⟩

/-- In the middle of things, a press and an alarm come before the digest of a call, and a text after
it. -/
theorem computeMac_generateCode_pure_crowded :
    crowded.jobs = [⟨65, .ring 0⟩, ⟨0, .turn 0 true⟩, ⟨3932, .turn 0 false⟩, ⟨262, .typing⟩] ∧
      crowded.console.reading = true ∧
      crowded.macAnswer [1] [2] = .ok (Hmac.mac [1] [2]) ∧
      (∀ key message, crowded.Answers (crowded.macAnswer key message)
        (computeMac key message crowded)) ∧
      ∀ secret counter digits, crowded.Answers (crowded.codeAnswer secret counter digits)
        (generateCode secret counter digits crowded) :=
  ⟨by decide, by decide, rfl, computeMac_generateCode_pure reachable_crowded⟩

end BoardAct

end OtpToken
