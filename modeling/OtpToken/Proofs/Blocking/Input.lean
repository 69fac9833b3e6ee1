import OtpToken.Proofs.Act
import OtpToken.Proofs.Board.Rest
import OtpToken.SecretEntry

/-!
# Waiting for input

A character is read when all that was outstanding has been served, and it is the next
byte of the input (`readCharacter_eq`). A line takes bytes from the front of the input
until it ends, and shows what it keeps (`SecretEntry.readLine_eq`). Here the supply is
taken not to fail.
-/

namespace OtpToken

open Act Board

namespace Board

variable {board mid after : Board} {jobs : List Job}

/-- The board once a read of one character has begun under a fresh ticket. -/
def beginRead (board : Board) : Board :=
  { board with
    tickets := board.tickets + 1
    console := { board.console with
      subscriber := some (.flag board.drawTicket.1), buffer := [0], reading := true } }

/-- Beginning a read changes no driver but the console. -/
theorem beginRead_sameAt {source : Source} (apart : source ≠ .console) :
    board.SameAt board.beginRead source := by
  cases source <;> first | rfl | exact absurd rfl apart

/-- Beginning a read leaves a sound board. -/
theorem Sound.beginRead (sound : board.Sound) : board.beginRead.Sound :=
  { sound with console := ⟨fun _ => List.cons_ne_nil _ _, fun _ => rfl, sound.console.punctual⟩ }

/-- All that was outstanding before a read began has been served, and only the read is left. -/
structure Starved (board : Board) (jobs : List Job) (mid : Board) : Prop where
  runs : Runs board.beginRead jobs mid
  sound : mid.Sound
  supplied : mid.charge = none
  drained : mid.jobs = []
  console : mid.console = board.beginRead.console
  hungry : mid.console.isHungry = true
  unraised : board.drawTicket.1.isRaised mid.calls = false
  since : ∃ later, mid.calls = later ++ board.calls

/-- While the others are served, nobody raises the ticket of a read. -/
theorem Live.starved (live : board.Live) (unread : board.console.reading = false) (polls : Nat) :
    let condition : Condition := fun _ calls => board.drawTicket.1.isRaised calls
    ∃ jobs mid polls', Starved board jobs mid ∧
      board.beginRead.watch condition (fun _ => false) polls =
        mid.watch condition (fun _ => false) polls' := by
  intro condition
  have received := live.sound.console.received_eq_none unread
  have sound := live.sound.beginRead
  let waiting : Board → Prop := fun mid => mid.console = board.beginRead.console ∧
    (∀ task, mid.hearer? task = board.beginRead.hearer? task) ∧
    ∃ later, mid.calls = later ++ board.calls ∧
      ∀ call ∈ later, ¬call.subscriber.Raises board.drawTicket.1
  have unraised : ∀ mid, waiting mid → board.drawTicket.1.isRaised mid.calls = false := by
    rintro mid ⟨_, _, later, history, silent⟩
    rw [history, Bool.eq_false_iff, ne_eq, Ticket.isRaised_append rfl]
    rintro ⟨call, recent, raises⟩
    exact silent call recent raises
  have stays : ∀ {mid job after}, waiting mid → mid.Serves job after →
      JobTaken job mid.jobs after.jobs → after.Sound → waiting after := by
    rintro mid job after ⟨console, hears, later, history, silent⟩ serves taken _
    have apart : job.task.source ≠ .console := by
      intro own
      have member := mem_jobsOf_source taken.mem
      rw [own] at member
      simp [jobsOf, Console.jobs, console, beginRead, received] at member
    have same : after.console = mid.console := serves.sameAt apart
    obtain ⟨call, recorded, heard⟩ := serves.calls_eq
    refine ⟨same.trans console, fun task => (serves.abides.hearer? task).trans (hears task),
      call.toList ++ later, ?_, ?_⟩
    · rw [recorded, history, List.append_assoc]
    · intro one member
      rcases List.mem_append.mp member with new | old
      · rcases heard with ⟨_, _, rfl⟩ | ⟨rfl, _⟩
        · obtain ⟨subscriber, here, rfl⟩ := Option.map_eq_some_iff.mp (Option.mem_toList.mp new)
          rw [hears, (beginRead_sameAt apart).hearer?] at here
          exact (live.fresh job.task subscriber here).not_raises
        · cases new
      · exact silent one old
  obtain ⟨jobs, mid, polls', runs, soundMid, waits, drained, goes⟩ := @watch_drain board.beginRead
    condition polls waiting sound live.supplied ⟨rfl, fun _ => rfl, [], rfl, by simp⟩
    (fun mid _ waits => unraised mid waits) stays
  have hungry : mid.console.isHungry = true := by
    rw [Console.isHungry, waits.1, beginRead, received]
    rfl
  exact ⟨jobs, mid, polls', ⟨runs, soundMid, runs.charge_eq_none live.supplied, drained, waits.1,
    hungry, unraised mid waits, waits.2.2.imp fun _ found => found.1⟩, goes⟩

/-- The byte that a starved board finds has been put into its buffer. -/
structure Fed (mid : Board) (byte : UInt8) (bytes : Bytes) (done : Board) : Prop where
  yielded : mid.yield = (.serviced, done)
  sound : done.Sound
  supplied : done.charge = none
  others : ∀ other, other ≠ .console → mid.SameAt done other
  lights : done.lights = mid.lights
  tickets : done.tickets = mid.tickets
  console : done.console =
    { mid.console with reading := false, received := none, buffer := [byte], input := bytes }

namespace Starved

/-- The keyboard and the store are as they were. -/
theorem sameAt (starved : Starved board jobs mid) (rest : board.AtRest) {source : Source}
    (apart : source ∉ [Source.alarms, .buttons, .console]) : board.SameAt mid source := by
  simp only [List.mem_cons, List.not_mem_nil, or_false, not_or] at apart
  obtain ⟨notAlarms, notButtons, notConsole⟩ := apart
  have begun : board.SameAt board.beginRead source := beginRead_sameAt notConsole
  refine begun.trans (starved.runs.sameAt_of_idle ?_)
  rw [begun.jobsOf, rest.ready.idle source notAlarms notButtons]

/-- Nothing can be seen of what has been served. -/
theorem traces (starved : Starved board jobs mid) (rest : board.AtRest) :
    mid.traces = board.traces := by
  have keyboard : mid.keyboard = board.keyboard := starved.sameAt rest (by simp : Source.keyboard ∉ _)
  have keyValue : mid.keyValue = board.keyValue := starved.sameAt rest (by simp : Source.keyValue ∉ _)
  simp only [Board.traces, Board.store, typed?, keyboard, keyValue, starved.console, beginRead]

/-- The board goes on from here if its console is put back as it was. -/
theorem continues {last : Board} (starved : Starved board jobs mid) (rest : board.AtRest)
    (same : ∀ other, other ≠ .console → mid.SameAt last other)
    (kept : last.tickets = mid.tickets) (discharged : mid.charge = none → last.charge = none)
    (sound : last.Sound) (silent : last.console.subscriber = none)
    (idle : last.console.received = none) (read : last.console.reading = false) :
    board.Continues last ∧ last.jobs = [] := by
  have none : last.jobsOf .console = [] := by simp [jobsOf, Console.jobs, idle]
  constructor
  · refine .of_call .console rest.ready (by decide) (fun other apart => beginRead_sameAt apart)
      rfl rfl starved.runs same kept discharged sound ?_ ?_ (fun _ => none) (by simp [none])
    · intro task own subscriber heard
      cases task with
      | receive =>
        rw [hearer?, silent] at heard
        cases heard
      | ring | turn | digest | typing | access => cases own
    · exact fun _ => read.trans rest.unread.symm
  · refine jobs_eq_nil_iff.mpr fun source => ?_
    by_cases own : source = .console
    · rw [own, none]
    · rw [(same source own).jobsOf, jobs_eq_nil_iff.mp starved.drained source]

/-- Without input the board is idle. -/
theorem yield_of_nil (starved : Starved board jobs mid) (input : board.console.input = []) :
    mid.yield = (.idle, mid) := by
  have none := starved.sound.nextDue?_eq_none_iff.mpr starved.drained
  have same : mid.console.input = [] := by
    rw [starved.console]
    exact input
  have nothing : mid.stimulate = (false, mid) := by
    simp only [stimulate, starved.hungry, if_true, Console.feed?, same]
  simp only [Board.yield, starved.supplied, serveNext, none, nothing]
  rfl

/-- The next byte of the input is put into the buffer, and the ticket is raised. -/
theorem yield_of_cons (starved : Starved board jobs mid) {byte : UInt8} {bytes : Bytes}
    (input : board.console.input = byte :: bytes) :
    ∃ done, Fed mid byte bytes done ∧ board.drawTicket.1.isRaised done.calls = true := by
  have supplied := starved.supplied
  have console := starved.console
  have same : mid.console.input = byte :: bytes := by
    rw [console]
    exact input
  let fed : Board := { mid with console := { mid.console with
    input := bytes, received := some (mid.clock, byte) } }
  have stimulus : mid.stimulate = (true, fed) := by
    simp only [stimulate, starved.hungry, if_true, Console.feed?, same, fed]
  have stimulated : mid.stimulated = fed := by
    rw [Board.stimulated, if_pos starved.drained, stimulus]
  have reading : mid.console.reading = true := by
    rw [console]
    rfl
  have jobs := (stimulates_stimulate starved.drained).jobs_eq starved.drained
  rw [stimulus, reading] at jobs
  rcases starved.sound.yield (by simp [supplied]) with
    ⟨job, done, yielded, serves, taken, sound⟩ | ⟨_, _, none, _⟩
  · rw [stimulated] at serves taken
    have member := taken.mem
    rw [jobs] at member
    cases List.mem_singleton.mp member
    cases serves with
    | @receive _ byte' here =>
      cases here
      have hearing : mid.console.subscriber = some (.flag board.drawTicket.1) :=
        congrArg Console.subscriber console
      have buffer : mid.console.buffer = [0] := congrArg Console.buffer console
      obtain ⟨later, history⟩ := starved.since
      refine ⟨_, ⟨yielded, sound, ?_, ?_, rfl, rfl, ?_⟩, ?_⟩
      · simp [settledAt, record, discharge, fed, supplied]
      · intro other apart
        cases other <;> first | rfl | exact absurd rfl apart
      · simp [settledAt, record, discharge, fed, buffer]
      · simp only [settledAt, record, discharge, fed, hearing, Subscriber.call?, Option.map_some,
          Option.toList_some, history]
        rw [← List.append_assoc, Ticket.isRaised_append rfl]
        exact ⟨_, List.mem_cons_self, .inl rfl⟩
  · rw [stimulated, jobs] at none
    cases none

end Starved

/-- The board with its console taken back, a pending read included. -/
abbrev clearConsole (board : Board) : Board :=
  { board with console := { board.console with
    subscriber := none, buffer := [], reading := false, received := none } }

/-- A console that is not reading and holds no byte is taken back. -/
theorem releaseConsole_of_idle (read : board.console.reading = false)
    (taken : board.console.received = none) : board.releaseConsole = board.clearConsole := by
  simp [releaseConsole, settle, Board.abortRead, Console.abort, Board.share, Console.share,
    Board.subscribe, read, taken, bind, Except.bind, pure, Except.pure]

/-- A console that is reading is taken back, and its read with it. -/
theorem releaseConsole_of_reading (read : board.console.reading = true) :
    board.releaseConsole = board.clearConsole := by
  simp [releaseConsole, settle, Board.abortRead, Console.abort, Board.share, Console.share,
    Board.subscribe, read, bind, Except.bind, pure, Except.pure]

end Board

namespace BoardAct

variable {board : Board}

/-- What a read of one character registers. -/
def registerRead (ticket : Ticket) : BoardAct Unit := do
  subscribe .console (some (.flag ticket))
  let _ ← share .character [0]
  start .readCharacter

/-- On a board that is not reading, a read is registered under the ticket that has been drawn. -/
theorem registerRead_eq (unread : board.console.reading = false) :
    registerRead board.drawTicket.1 board.drawTicket.2 = .ok () board.beginRead := by
  simp [registerRead, subscribe, share, command, start, bind, EStateM.bind, Board.subscribe,
    Board.share, Board.start, Console.share, Console.read, Board.drawTicket, unread,
    Except.bind, pure, Except.pure, EStateM.pure, beginRead]

/-- Without input a read halts the board. -/
theorem readCharacter_of_nil (live : board.Live) (unread : board.console.reading = false)
    (input : board.console.input = []) :
    ∃ jobs mid, Starved board jobs mid ∧
      readCharacter board = .error (.fault .halted) mid.clearConsole := by
  obtain ⟨jobs, mid, polls, starved, goes⟩ := live.starved unread 0
  have awaited := awaitUpcall_of_error (registerRead_eq unread)
    (goes.trans (watch_of_idle starved.unraised rfl (starved.yield_of_nil input)))
  have released : mid.releaseConsole = mid.clearConsole := by
    apply releaseConsole_of_reading
    rw [starved.console]
    rfl
  refine ⟨jobs, mid, starved, ?_⟩
  rw [← released]
  exact releasing_of_error (bind_of_error awaited)

/-- With input left, a read serves all that is outstanding, hands out the first byte and takes the
console back. -/
theorem readCharacter_of_cons (live : board.Live) (unread : board.console.reading = false)
    {byte : UInt8} {bytes : Bytes} (input : board.console.input = byte :: bytes) :
    ∃ jobs mid done, Starved board jobs mid ∧ Fed mid byte bytes done ∧
      readCharacter board = .ok byte done.clearConsole := by
  obtain ⟨jobs, mid, polls, starved, goes⟩ := live.starved unread 0
  obtain ⟨done, fed, raised⟩ := starved.yield_of_cons input
  have awaited := awaitUpcall_of_ok (registerRead_eq unread) (goes.trans
    ((watch_of_serviced starved.unraised rfl fed.yielded).trans (watch_of_holds raised)))
  let emptied : Board := { done with console := { done.console with buffer := [] } }
  have shared : share .character [] done = .ok [byte] emptied := by
    simp [share, command, Board.share, Console.share, fed.console, emptied, bind, Except.bind, pure,
      Except.pure]
  have released : emptied.releaseConsole = done.clearConsole := releaseConsole_of_idle
    (congrArg Console.reading fed.console) (congrArg Console.received fed.console)
  refine ⟨jobs, mid, done, starved, fed, ?_⟩
  rw [← released]
  exact releasing_of_ok ((bind_of_ok awaited).trans (bind_of_ok shared))

/-- A character is read once all that was outstanding has been served. It is the next byte of the
input, and without input the board halts. -/
theorem readCharacter_eq (rest : board.AtRest) :
    ∃ after, readCharacter board =
        (match board.console.input with
          | byte :: _ => .ok byte after
          | [] => .error (.fault .halted) after) ∧
      board.Continues after ∧ after.jobs = [] ∧
      after.traces = { board.traces with input := board.console.input.drop 1 } := by
  cases input : board.console.input with
  | nil =>
    obtain ⟨jobs, mid, starved, ran⟩ := readCharacter_of_nil rest.live rest.unread input
    have continues : board.Continues mid.clearConsole ∧ mid.clearConsole.jobs = [] := by
      refine starved.continues rest ?_ rfl id ?_ rfl rfl rfl
      · intro other apart
        cases other <;> first | rfl | exact absurd rfl apart
      · exact { starved.sound with console := .of_idle rfl rfl }
    refine ⟨_, ran, continues.1, continues.2, ?_⟩
    rw [show mid.clearConsole.traces = mid.traces from rfl, starved.traces rest, traces, input]
    rfl
  | cons byte bytes =>
    obtain ⟨jobs, mid, done, starved, fed, ran⟩ := readCharacter_of_cons rest.live rest.unread input
    have continues : board.Continues done.clearConsole ∧ done.clearConsole.jobs = [] := by
      refine starved.continues rest ?_ fed.tickets (fun _ => fed.supplied) ?_ rfl rfl rfl
      · intro other apart
        have before := fed.others other apart
        cases other <;> first | exact before | exact absurd rfl apart
      · exact { fed.sound with console := .of_idle rfl rfl }
    refine ⟨_, ran, continues.1, continues.2, ?_⟩
    have keyboard : done.keyboard = mid.keyboard := fed.others .keyboard (by decide)
    have keyValue : done.keyValue = mid.keyValue := fed.others .keyValue (by decide)
    rw [← starved.traces rest]
    simp only [traces, Board.store, typed?, keyboard, keyValue, fed.console, List.drop_one,
      List.tail_cons]

end BoardAct

namespace SecretEntry

open BoardAct

/-- What comes of reading on from an input when so many characters have been kept: the characters
kept from there, the rest of the input, and whether the line has ended. -/
def scan (kept : Nat) : Bytes → String × Bytes × Bool
  | [] => ("", [], decide (maxLength ≤ kept))
  | byte :: rest =>
    if maxLength ≤ kept then ("", byte :: rest, true)
    else if endsLine byte then ("", rest, true)
    else if isKept byte then
      (echo byte ++ (scan (kept + 1) rest).1, (scan (kept + 1) rest).2)
    else scan kept rest

variable {board : Board}

/-- A byte that has been read ends the line, or is kept and echoed, or is passed over. -/
theorem readRest_of_ok {line : String} {byte : UInt8} {after : Board}
    (short : line.length < maxLength) (read : readCharacter board = .ok byte after) :
    readRest line board =
      if endsLine byte then .ok line after
      else if isKept byte then readRest (line ++ echo byte) (after.print (echo byte))
      else readRest line after := by
  rw [readRest, if_pos short]
  split
  next found => rw [read] at found; cases found
  next found => rw [read] at found; cases found; rfl

/-- A failure to read a byte ends the reading of the line. -/
theorem readRest_of_error {line : String} {failure : Failure} {after : Board}
    (short : line.length < maxLength) (read : readCharacter board = .error failure after) :
    readRest line board = .error failure after := by
  rw [readRest, if_pos short]
  split
  next found => rw [read] at found; cases found; rfl
  next found => rw [read] at found; cases found

/-- A line that has its full length is handed out, and nothing more is read. -/
theorem readRest_of_long {line : String} (long : ¬line.length < maxLength) :
    readRest line board = .ok line board := by
  rw [readRest, if_neg long]

/-- A line is read, and echoed, from the front of the input. It takes a read at least, and reads and
prints are all that happens: what a read brings about, and a print leaves alone, holds in the
end. -/
theorem readRest_scan (ready read : Board → Prop)
    (reads : ∀ {board : Board}, ready board → ∃ after, readCharacter board =
        (match board.console.input with
          | byte :: _ => .ok byte after
          | [] => .error (.fault .halted) after) ∧
      read after ∧ after.console.transcript = board.console.transcript ∧
      after.console.input = board.console.input.drop 1)
    (again : ∀ {board : Board}, read board → ready board)
    (prints : ∀ {board : Board} (text : String), read board → read (board.print text))
    (holds : ready board) {line : String} (short : line.length < maxLength) :
    ∃ after, readRest line board =
        (if (scan line.length board.console.input).2.2 then
          .ok (line ++ (scan line.length board.console.input).1) after
        else .error (.fault .halted) after) ∧
      read after ∧
      after.console.transcript =
        board.console.transcript ++ (scan line.length board.console.input).1 ∧
      after.console.input = (scan line.length board.console.input).2.1 := by
  generalize input : board.console.input = bytes
  induction bytes generalizing board line with
  | nil =>
    obtain ⟨after, ran, wasRead, shown, left⟩ := reads holds
    rw [input] at ran left
    refine ⟨after, ?_, wasRead, ?_, left⟩
    · rw [readRest_of_error short ran]
      simp [scan, Nat.not_le.mpr short]
    · rw [shown]
      simp [scan]
  | cons byte bytes ih =>
    obtain ⟨after, ran, wasRead, shown, left⟩ := reads holds
    rw [input] at ran left
    rw [readRest_of_ok short ran]
    simp only [scan, if_neg (Nat.not_le.mpr short)]
    by_cases ends : endsLine byte = true
    · refine ⟨after, by simp [ends], wasRead, ?_, by rw [left]; simp [ends]⟩
      rw [shown]
      simp [ends]
    · simp only [if_neg ends]
      by_cases kept : isKept byte = true
      · simp only [if_pos kept]
        have length : (line ++ echo byte).length = line.length + 1 := by
          rw [String.length_append, echo, String.length_singleton]
        have printed := prints (echo byte) wasRead
        have transcript : (after.print (echo byte)).console.transcript =
            board.console.transcript ++ echo byte := congrArg (· ++ echo byte) shown
        by_cases more : (line ++ echo byte).length < maxLength
        · obtain ⟨last, ran, wasReadLast, shownLast, leftLast⟩ := ih (again printed) more left
          rw [length, String.append_assoc] at ran
          rw [length, transcript, String.append_assoc] at shownLast
          rw [length] at leftLast
          exact ⟨last, ran, wasReadLast, shownLast, leftLast⟩
        · -- The line is full, so nothing more is read.
          have full : scan (line.length + 1) bytes = ("", bytes, true) := by
            rw [length] at more
            cases bytes <;> simp [scan, Nat.le_of_not_lt more]
          rw [readRest_of_long more, full]
          refine ⟨_, by simp, printed, ?_, left⟩
          rw [transcript, String.append_empty]
      · simp only [if_neg kept]
        obtain ⟨last, ran, wasReadLast, shownLast, leftLast⟩ := ih (again wasRead) short left
        exact ⟨last, ran, wasReadLast, by rw [shownLast, shown], leftLast⟩

/-- A line is read, and echoed, from the front of the input. -/
theorem readRest_eq (rest : board.AtRest) (line : String) :
    ∃ after, readRest line board =
        (if (scan line.length board.console.input).2.2 then
          .ok (line ++ (scan line.length board.console.input).1) after
        else .error (.fault .halted) after) ∧
      board.Continues after ∧ (line.length < maxLength → after.jobs = []) ∧
      after.traces = { board.traces with
        transcript := board.traces.transcript ++ (scan line.length board.console.input).1
        input := (scan line.length board.console.input).2.1 } := by
  by_cases short : line.length < maxLength
  · let ready (mid : Board) : Prop :=
      board.Continues mid ∧ mid.store = board.store ∧ mid.typed? = board.typed?
    obtain ⟨after, ran, ⟨⟨continues, stored, typed⟩, still⟩, shown, left⟩ :=
      readRest_scan ready (fun mid => ready mid ∧ mid.jobs = [])
        (fun {mid} ⟨continues, stored, typed⟩ => by
          obtain ⟨after, ran, further, still, left⟩ := readCharacter_eq (rest.continues continues)
          exact ⟨after, ran, ⟨⟨continues.trans further, (congrArg Traces.store left).trans stored,
            (congrArg Traces.typed? left).trans typed⟩, still⟩, congrArg Traces.transcript left,
            congrArg Traces.input left⟩)
        And.left
        (fun {mid} text ⟨⟨continues, stored, typed⟩, still⟩ => by
          have printed := Board.continues_print continues.ready text
          exact ⟨⟨continues.trans printed, stored, typed⟩, printed.still still⟩)
        ⟨.refl rest.ready, rfl, rfl⟩ short
    refine ⟨after, ran, continues, fun _ => still, ?_⟩
    simp only [traces, shown, left, stored, typed]
  · have full : scan line.length board.console.input = ("", board.console.input, true) := by
      cases board.console.input <;> simp [scan, Nat.le_of_not_lt short]
    refine ⟨board, ?_, .refl rest.ready, fun more => absurd more short, ?_⟩
    · rw [readRest_of_long short, full]
      simp
    · rw [full]
      simp [traces]

/-- What is typed is echoed, and a line that has ended starts a new one. -/
theorem readLine_eq (rest : board.AtRest) :
    ∃ after, readLine board =
        (if (scan 0 board.console.input).2.2 then .ok (scan 0 board.console.input).1 after
        else .error (.fault .halted) after) ∧
      board.Continues after ∧ after.jobs = [] ∧
      after.traces = { board.traces with
        transcript := board.traces.transcript ++ (scan 0 board.console.input).1 ++
          (if (scan 0 board.console.input).2.2 then "\r\n" else "")
        input := (scan 0 board.console.input).2.1 } := by
  obtain ⟨after, ran, continues, still, left⟩ := readRest_eq rest ""
  have none : "".length = 0 := rfl
  rw [none, String.empty_append] at ran
  rw [none] at left
  have still := still (by decide)
  cases ended : (scan 0 board.console.input).2.2 with
  | true =>
    rw [ended, if_pos rfl] at ran
    have printed := Board.continues_print continues.ready "\r\n"
    refine ⟨after.print "\r\n", ?_, continues.trans printed, printed.still still, ?_⟩
    · exact bind_of_ok ran
    · have shown : (after.print "\r\n").traces = { after.traces with
        transcript := after.traces.transcript ++ "\r\n" } := rfl
      rw [shown, left]
      rfl
  | false =>
    rw [ended, if_neg Bool.false_ne_true] at ran
    refine ⟨after, bind_of_error ran, continues, still, ?_⟩
    rw [left]
    simp

end SecretEntry

end OtpToken
