import OtpToken.Proofs.Blocking.Limit
import OtpToken.Proofs.Blocking.Release

/-!
# Calls at busy drivers

A call at a driver that has something outstanding is refused as busy, but it has subscribed by
then, and it takes its subscription back. So the outstanding operation goes on as it was begun, and
whoever subscribed to it does not hear of it (`refused_of_busy`). A pending read of a character is
given up altogether.
-/

namespace OtpToken

open Act Board

namespace Board

variable {board mid done after : Board} {channel : Channel Nat} {job : Job} {served : List Job}

/-- A service leaves a live board. -/
theorem Live.serves (live : board.Live) (serves : board.Serves job after) (sound : after.Sound) :
    after.Live := by
  refine ⟨sound, serves.abides.fresh live.fresh, ?_⟩
  rw [serves.charge_eq, live.supplied]
  rfl

/-- Whoever yields often enough sees an outstanding operation completed. -/
theorem Live.completes (live : board.Live) (member : job ∈ board.jobs) :
    ∃ served mid done, Runs board served mid ∧ job ∉ served ∧ mid.Serves job done ∧
      board.yields (served.length + 1) = done := by
  generalize count : board.jobs.length = length
  induction length generalizing board with
  | zero =>
    rw [List.length_eq_zero_iff.mp count] at member
    cases member
  | succ length ih =>
    have busy : board.jobs ≠ [] := List.ne_nil_of_mem member
    rcases live.sound.yield (by simp [live.supplied]) with
      ⟨first, next, yielded, serves, taken, sound⟩ | ⟨_, none, _⟩
    · rw [stimulated_of_jobs busy] at serves taken
      by_cases same : first = job
      · subst same
        exact ⟨[], board, next, .nil, List.not_mem_nil, serves, by rw [yields, yielded]; rfl⟩
      · have fewer := taken.length
        obtain ⟨served, mid, done, runs, absent, last, left⟩ := ih (live.serves serves sound)
          (taken.mem_rest member fun h => same h.symm) (by omega)
        refine ⟨first :: served, mid, done, .cons serves taken sound runs, ?_, last, ?_⟩
        · rintro (_ | ⟨_, rest⟩)
          · exact same rfl
          · exact absent rest
        · rw [List.length_cons, yields, yielded, left]
    · exact absurd none busy

/-- What nobody subscribes to is completed without an upcall. -/
theorem Serves.calls_of_unheard (serves : board.Serves job after)
    (unheard : board.hearer? job.task = none) : after.calls = board.calls := by
  obtain ⟨call, recorded, ⟨first, second, rfl⟩ | ⟨rfl, _⟩⟩ := serves.calls_eq
  · rw [recorded, unheard]
    rfl
  · exact recorded

/-- The board with a ticket more drawn and nobody subscribed on a channel. -/
def hush (board : Board) (channel : Channel Nat) : Board :=
  board.drawTicket.2.settle (board.drawTicket.2.subscribe channel none)

/-- A keyboard that is hushed has lost its subscriber, and nothing else. -/
theorem hush_keyboard {keyboard : Keyboard} (present : board.keyboard = some keyboard) :
    board.hush .keyboard = { board.drawTicket.2 with
      keyboard := some { keyboard with subscriber := none } } := by
  simp [hush, Board.subscribe, drawTicket, present, settle]

/-- A call has been refused for an outstanding operation, to which nobody is subscribed any more. It
will be completed without an upcall. -/
structure Hushed (board : Board) (job : Job) (after : Board) : Prop where
  others : ∀ channel, channel ≠ job.task.channel → board.SameOn after channel
  lights : after.lights = board.lights
  clock : after.clock = board.clock
  calls : after.calls = board.calls
  jobs : after.jobs = board.jobs
  unheard : after.hearer? job.task = none
  completes : ∃ served mid done, Runs after served mid ∧ job ∉ served ∧ mid.Serves job done ∧
    after.yields (served.length + 1) = done ∧ done.calls = mid.calls

/-- An outstanding operation goes on when nobody is subscribed to it any more. -/
theorem Hushed.of_live (live : after.Live) (member : job ∈ board.jobs)
    (others : ∀ channel, channel ≠ job.task.channel → board.SameOn after channel)
    (lights : after.lights = board.lights) (clock : after.clock = board.clock)
    (calls : after.calls = board.calls) (jobs : ∀ source, after.jobsOf source = board.jobsOf source)
    (unheard : after.hearer? job.task = none) : board.Hushed job after := by
  have jobs : after.jobs = board.jobs := List.flatMap_congr fun source _ => jobs source
  obtain ⟨served, mid, done, runs, absent, serves, left⟩ := live.completes (by rwa [jobs])
  refine ⟨others, lights, clock, calls, jobs, unheard, served, mid, done, runs, absent, serves,
    left, serves.calls_of_unheard ?_⟩
  rw [runs.abides.hearer?, unheard]

/-- To hush a channel with one outstanding operation changes nothing else. -/
theorem Reachable.hushed (reachable : board.Reachable) (member : job ∈ board.jobs)
    (apart : job.task.source ∉ [Source.alarms, .buttons]) :
    board.Hushed job (board.hush job.task.channel) := by
  have live := (reachable.drawn.unsubscribe job.task.channel).reachable.live
  simp only [List.mem_cons, List.not_mem_nil, or_false, not_or] at apart
  obtain ⟨due, task⟩ := job
  cases task with
  | ring => exact absurd rfl apart.1
  | turn => exact absurd rfl apart.2
  | receive | digest | access =>
    refine .of_live live member ?_ rfl rfl rfl ?_ rfl
    · intro channel other
      cases channel <;> first | rfl | exact absurd rfl other
    · intro source
      cases source <;> rfl
  | typing =>
    cases present : board.keyboard with
    | none =>
      have own : (⟨due, .typing⟩ : Job) ∈ board.jobsOf .keyboard := mem_jobsOf_source member
      simp [jobsOf, present] at own
    | some keyboard =>
      simp only [Task.channel]
      have hushed := hush_keyboard present
      refine .of_live live member ?_ ?_ ?_ ?_ ?_ ?_ <;> simp only [Task.channel, hushed]
      · intro channel other
        cases channel <;> first | rfl | exact absurd rfl other
      · rfl
      · rfl
      · rfl
      · intro source
        cases source with
        | keyboard => simp [jobsOf, present, Keyboard.jobs]
        | alarms | buttons | console | macUnit | keyValue => rfl
      · rfl

end Board

namespace BoardAct

variable {board : Board}

/-- The board once an access has subscribed under a fresh ticket. -/
def subscribeAccess (board : Board) : Board :=
  { board.drawTicket.2 with
    keyValue := { board.keyValue with subscriber := some (.recorder board.drawTicket.1) } }

/-- A busy unit refuses the key, which every access registers first. -/
theorem registerKey_of_busy (busy : board.keyValue.pending.isSome) (key : Bytes)
    (next : Bytes → BoardAct Unit) :
    (subscribe .keyValue (some (.recorder board.drawTicket.1)) >>= fun _ =>
        share .storedKey key >>= next) board.drawTicket.2 =
      .error (.fault (.rejected .busy)) (subscribeAccess board) := by
  simp [subscribe, share, command, bind, EStateM.bind, Board.subscribe, Board.share,
    KeyValue.shareKey, KeyValue.whenIdle, Board.drawTicket, busy, Except.bind, pure, EStateM.pure,
    subscribeAccess]

/-- A busy unit keeps its buffers when it is taken back. -/
theorem releaseKeyValue_subscribeAccess (busy : board.keyValue.pending.isSome) :
    (subscribeAccess board).releaseKeyValue = board.hush .keyValue := by
  simp [releaseKeyValue, settle, Board.share, Board.subscribe, KeyValue.shareDestination,
    KeyValue.shareValue, KeyValue.shareKey, KeyValue.whenIdle, busy, bind, Except.bind,
    subscribeAccess, hush, Board.drawTicket]

/-- Behind a busy key-value unit a value is refused, and nobody hears of the unit any more. -/
theorem getValue_of_busy (busy : board.keyValue.pending.isSome) (key : Bytes) (size : Nat) :
    getValue key size board = .error (.fault (.storage .busy)) (board.hush .keyValue) := by
  have refused := registerKey_of_busy busy key fun _ =>
    share .storedDestination (List.replicate size 0) >>= fun _ => start .getValue
  rw [← releaseKeyValue_subscribeAccess busy]
  exact access_of_refused refused

/-- Behind a busy key-value unit a write is refused, and nobody hears of the unit any more. -/
theorem setValue_of_busy (busy : board.keyValue.pending.isSome) (key value : Bytes) :
    setValue key value board = .error (.fault (.storage .busy)) (board.hush .keyValue) := by
  have refused := registerKey_of_busy busy key fun _ =>
    share .storedValue value >>= fun _ => start .setValue
  rw [← releaseKeyValue_subscribeAccess busy]
  exact access_of_refused refused

/-- Behind a busy keyboard a text is refused, and nobody hears of the keyboard any more. -/
theorem typeText_of_busy {keyboard : Keyboard} (present : board.keyboard = some keyboard)
    (busy : keyboard.due.isSome) (text : String) :
    typeText text board = .error (.fault (.rejected .busy)) (board.hush .keyboard) := by
  simp [typeText, releasing, awaitUpcall_eq, BoardAct.drawTicket, subscribe, share, command, bind,
    EStateM.bind, Board.subscribe, Board.share, Keyboard.share, Board.drawTicket, present, busy,
    Except.bind, pure, EStateM.pure, releaseKeyboard, settle, hush]

/-- A call for a character gives up the read that it is refused for. -/
theorem readCharacter_of_reading (reading : board.console.reading = true) :
    readCharacter board =
      .error (.fault (.rejected .busy)) board.drawTicket.2.clearConsole := by
  simp [readCharacter, releasing, awaitUpcall_eq, BoardAct.drawTicket, subscribe, share, command,
    bind, EStateM.bind, Board.subscribe, Board.share, Console.share, Board.drawTicket, reading,
    Except.bind, pure, Except.pure, EStateM.pure, releaseConsole, settle, Board.abortRead,
    Console.abort]

/-- From every reachable board, a call at a driver that has an operation outstanding is refused as
busy. The operation stays outstanding, due at the same tick and over the same buffers, but its
subscriber is gone, so that it will be completed without an upcall; nothing else changes. Only a
pending read of a character is given up instead. -/
theorem refused_of_busy (reachable : board.Reachable) :
    (∀ due, board.macUnit.due = some due → ∀ key message, ∃ after,
      computeMac key message board = .error (.fault (.rejected .busy)) after ∧
      after.macUnit = { board.macUnit with subscriber := none } ∧
      board.Hushed ⟨due, .digest⟩ after) ∧
    (∀ due access, board.keyValue.pending = some (due, access) → ∃ after,
      (∀ key size, getValue key size board = .error (.fault (.storage .busy)) after) ∧
      (∀ key value, setValue key value board = .error (.fault (.storage .busy)) after) ∧
      after.keyValue = { board.keyValue with subscriber := none } ∧
      board.Hushed ⟨due, .access access⟩ after) ∧
    (∀ keyboard due, board.keyboard = some keyboard → keyboard.due = some due → ∀ text, ∃ after,
      typeText text board = .error (.fault (.rejected .busy)) after ∧
      after.keyboard = some { keyboard with subscriber := none } ∧
      board.Hushed ⟨due, .typing⟩ after) ∧
    (board.console.reading = true → ∃ after,
      readCharacter board = .error (.fault (.rejected .busy)) after ∧
      after.console = { board.console with
        subscriber := none, buffer := [], reading := false, received := none } ∧
      (∀ channel, channel ≠ .console → board.SameOn after channel) ∧
      after.lights = board.lights ∧ after.clock = board.clock ∧ after.calls = board.calls) := by
  refine ⟨?_, ?_, ?_, ?_⟩
  · intro due running key message
    have member : (⟨due, .digest⟩ : Job) ∈ board.jobs :=
      mem_jobs.mpr ⟨.macUnit, by simp [jobsOf, MacUnit.jobs, running]⟩
    exact ⟨board.hush .macUnit, computeMac_of_busy (by simp [running]) key message, rfl,
      reachable.hushed member (by simp [Task.source])⟩
  · intro due access pending
    have member : (⟨due, .access access⟩ : Job) ∈ board.jobs :=
      mem_jobs.mpr ⟨.keyValue, by simp [jobsOf, KeyValue.jobs, pending]⟩
    exact ⟨board.hush .keyValue, getValue_of_busy (by simp [pending]),
      setValue_of_busy (by simp [pending]), rfl, reachable.hushed member (by simp [Task.source])⟩
  · intro keyboard due present busy text
    have member : (⟨due, .typing⟩ : Job) ∈ board.jobs :=
      mem_jobs.mpr ⟨.keyboard, by simp [jobsOf, present, Keyboard.jobs, busy]⟩
    refine ⟨board.hush .keyboard, typeText_of_busy present (by simp [busy]) text, ?_,
      reachable.hushed member (by simp [Task.source])⟩
    rw [hush_keyboard present]
  · intro reading
    refine ⟨_, readCharacter_of_reading reading, rfl, fun channel apart => ?_, rfl, rfl, rfl⟩
    cases channel <;> first | rfl | exact absurd rfl apart

/-- A board where four drivers are at work and somebody waits to hear of each. -/
def engaged : Board :=
  (initial .inMemory [0x70, 0x0a] 1 true).obeyAll [
    .subscribe .macUnit (some (.listener 1)),
    .share .macKey [1],
    .share .macDestination (List.replicate Sha256.digestSize 0),
    .chooseAlgorithm 0,
    .start .runMac,
    .subscribe .keyboard (some (.listener 2)),
    .share .text [0x31],
    .start .typeText,
    .subscribe .keyValue (some (.listener 3)),
    .share .storedKey [2],
    .share .storedDestination [0],
    .start .getValue,
    .subscribe .console (some (.listener 4)),
    .share .character [0],
    .start .readCharacter]

/-- The commands that are given in its definition lead to that board. -/
theorem reachable_engaged : engaged.Reachable :=
  Reachable.obeyAll (.initial ..) (by simp [Command.subscriber?])

/-- There, every call is refused, and the run, the access and the text go on unheard. -/
theorem refused_of_busy_engaged :
    engaged.Reachable ∧ engaged.macUnit.due = some 65 ∧
      engaged.keyValue.pending = some (32, .get) ∧ engaged.console.reading = true ∧
      (∃ after, computeMac [1] [2] engaged = .error (.fault (.rejected .busy)) after ∧
        engaged.Hushed ⟨65, .digest⟩ after) ∧
      (∃ after, getValue [2] 1 engaged = .error (.fault (.storage .busy)) after ∧
        setValue [2] [3] engaged = .error (.fault (.storage .busy)) after ∧
        engaged.Hushed ⟨32, .access .get⟩ after) ∧
      (∃ after, typeText "1" engaged = .error (.fault (.rejected .busy)) after ∧
        engaged.Hushed ⟨262, .typing⟩ after) ∧
      ∃ after, readCharacter engaged = .error (.fault (.rejected .busy)) after ∧
        after.console.input = [0x70, 0x0a] := by
  obtain ⟨mac, access, type, read⟩ := refused_of_busy reachable_engaged
  obtain ⟨hashing, refusedMac, _, hushedMac⟩ := mac 65 (by decide) [1] [2]
  obtain ⟨storing, refusedGet, refusedSet, _, hushedAccess⟩ := access 32 .get (by decide)
  obtain ⟨typing, refusedText, _, hushedText⟩ :=
    type ⟨some (.listener 2), [0x31], some 262, []⟩ 262 (by decide) rfl "1"
  obtain ⟨reading, refusedRead, console, _⟩ := read (by decide)
  exact ⟨reachable_engaged, by decide, by decide, by decide, ⟨hashing, refusedMac, hushedMac⟩,
    ⟨storing, refusedGet [2] 1, refusedSet [2] [3], hushedAccess⟩,
    ⟨typing, refusedText, hushedText⟩, reading, refusedRead, by rw [console]; decide⟩

/-- A refused call does disturb the operation it is refused for: the subscriber of a run of the
keyed-hash unit is gone afterwards, and a read of a character is no longer pending. -/
theorem busy_call_disturbs :
    engaged.Reachable ∧ engaged.macUnit.due = some 65 ∧
      engaged.hearer? .digest = some (.listener 1) ∧
      (∃ after, computeMac [1] [2] engaged = .error (.fault (.rejected .busy)) after ∧
        after.hearer? .digest = none) ∧
      engaged.console.reading = true ∧
      ∃ after, readCharacter engaged = .error (.fault (.rejected .busy)) after ∧
        after.console.reading = false :=
  ⟨reachable_engaged, by decide, by decide, ⟨_, computeMac_of_busy (by decide) [1] [2], rfl⟩,
    by decide, _, readCharacter_of_reading (by decide), rfl⟩

end BoardAct

end OtpToken
