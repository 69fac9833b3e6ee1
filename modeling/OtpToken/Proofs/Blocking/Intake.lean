import OtpToken.Proofs.Blocking.Idle
import OtpToken.Proofs.Blocking.Refusal
import OtpToken.Proofs.Board.Schedule

/-!
# What is taken of the input

A pending read and the search for gestures take their bytes from one input. Only a yield takes
any, and only when no driver has a deadline. A byte that it takes for a read it delivers at once
(`Sound.takes_yield`), so nothing that has come in is ever held, and no command and no failing
call can lose it. Over any session, all that has been delivered or looked at is in order just
what is gone from the input (`session_takes_input`).
-/

namespace OtpToken

/-- What is taken of an input: a byte that is delivered to a read, or a line that is looked at for a
gesture. -/
inductive Taking
  | byte (byte : UInt8)
  | line (line : Bytes)
  deriving DecidableEq, Repr

/-- The bytes that are taken. -/
def Taking.bytes : Taking → Bytes
  | byte taken => [taken]
  | line taken => taken

/-- The bytes of lines that are taken are those of the lines. -/
theorem Taking.bytes_lines (lines : List Bytes) :
    (lines.map Taking.line).flatMap Taking.bytes = lines.flatten := by
  induction lines with
  | nil => rfl
  | cons line lines ih => rw [List.map_cons, List.flatMap_cons, ih]; rfl

/-- What a search for a gesture takes from the front of an input: one whole line after another, up to
the first that stands for a gesture or is no text, or all of them. -/
structure Searched (input : Bytes) (lines : List Bytes) (rest : Bytes) : Prop where
  whole : input = lines.flatten ++ rest
  split : linesOf input = lines ++ linesOf rest
  passed : ∀ line ∈ lines.dropLast,
    ∃ text, Bytes.toText? line = some text ∧ Gesture.ofLine? text = none
  stopped : rest = [] ∨ ∃ line, lines.getLast? = some line ∧
    (Bytes.toText? line = none ∨ (Gesture.ofBytes? line).isSome)

/-- A line that is looked at first. -/
theorem Searched.single (byte : UInt8) (bytes : Bytes)
    (stops : Bytes.toText? (splitLine (byte :: bytes)).1 = none ∨
      (Gesture.ofBytes? (splitLine (byte :: bytes)).1).isSome) :
    Searched (byte :: bytes) [(splitLine (byte :: bytes)).1] (splitLine (byte :: bytes)).2 where
  whole := by rw [List.flatten_singleton, splitLine_append]
  split := linesOf.eq_2 byte bytes
  passed := by simp
  stopped := .inr ⟨_, rfl, stops⟩

/-- A line of text that stands for no gesture is taken before those that the search takes after it.
-/
theorem Searched.cons {byte : UInt8} {bytes rest : Bytes} {lines : List Bytes} {text : String}
    (decoded : Bytes.toText? (splitLine (byte :: bytes)).1 = some text)
    (other : Gesture.ofLine? text = none)
    (searched : Searched (splitLine (byte :: bytes)).2 lines rest) :
    Searched (byte :: bytes) ((splitLine (byte :: bytes)).1 :: lines) rest where
  whole := by
    rw [List.flatten_cons, List.append_assoc, ← searched.whole, splitLine_append]
  split := by rw [linesOf, searched.split, List.cons_append]
  passed := by
    intro line member
    cases lines with
    | nil => cases member
    | cons next lines =>
      rcases List.mem_cons.mp member with rfl | later
      · exact ⟨text, decoded, other⟩
      · exact searched.passed line later
  stopped := by
    rcases searched.stopped with spent | ⟨line, last, stops⟩
    · exact .inl spent
    · refine .inr ⟨line, ?_, stops⟩
      rw [List.getLast?_cons, last]
      rfl

/-- A search for a gesture takes whole lines from the front of the input. -/
theorem searched_takeGesture (input : Bytes) :
    ∃ lines, Searched input lines (takeGesture input).2 := by
  fun_induction takeGesture input with
  | case1 => exact ⟨[], rfl, rfl, by simp, .inl rfl⟩
  | case2 byte bytes garbled => exact ⟨_, .single byte bytes (.inl garbled)⟩
  | case3 byte bytes text decoded gesture gestured =>
    refine ⟨_, .single byte bytes (.inr ?_)⟩
    rw [Gesture.ofBytes?, decoded, Option.bind_some, gestured]
    rfl
  | case4 byte bytes text decoded other ih =>
    obtain ⟨lines, searched⟩ := ih
    exact ⟨_, searched.cons decoded other⟩

namespace Board

variable {board mid after : Board} {jobs : List Job} {job : Job}

/-- What one yield takes of the input, in order. -/
inductive Takes (board after : Board) : List Taking → Prop
  /-- Nothing is taken or delivered. -/
  | nothing (same : after.console = board.console) : Takes board after []
  /-- A byte is taken for the pending read and put into its buffer, and the read is over. -/
  | byte {byte : UInt8} {rest : Bytes} (undue : board.deadlines = [])
      (pending : board.console.reading = true) (buffered : board.console.buffer ≠ [])
      (input : board.console.input = byte :: rest)
      (delivered : after.console = { board.console with
        input := rest, reading := false, received := none
        buffer := byte :: board.console.buffer.drop 1 }) :
      Takes board after [.byte byte]
  /-- Lines are looked at for a gesture. -/
  | lines {lines : List Bytes} {rest : Bytes} (undue : board.deadlines = [])
      (unread : board.console.reading = false)
      (searched : Searched board.console.input lines rest)
      (left : after.console = { board.console with input := rest }) :
      Takes board after (lines.map .line)

namespace Takes

variable {taken : List Taking}

/-- What is taken is what is gone from the input. -/
theorem input_eq (takes : board.Takes after taken) :
    board.console.input = taken.flatMap Taking.bytes ++ after.console.input := by
  cases takes with
  | nothing same => rw [same]; rfl
  | byte _ _ _ input delivered => simp [input, delivered, Taking.bytes]
  | lines _ _ searched left => rw [Taking.bytes_lines, left]; exact searched.whole

/-- What is taken is not held. -/
theorem received_eq_none (takes : board.Takes after taken)
    (unheld : board.console.received = none) : after.console.received = none := by
  cases takes with
  | nothing same => rw [same, unheld]
  | byte _ _ _ _ delivered => rw [delivered]
  | lines _ _ _ left => rw [left]; exact unheld

end Takes

/-- A board without jobs has no deadline in any driver. -/
theorem Sound.deadlines_eq_nil (sound : board.Sound) (idle : board.jobs = []) :
    board.deadlines = [] :=
  earliest?_eq_none_iff.mp (sound.nextDue?_eq_none_iff.mpr idle)

/-- Where no byte is held, a job that is served is none of the console's. -/
theorem Serves.console_eq (serves : board.Serves job after) (member : job ∈ board.jobs)
    (unheld : board.console.received = none) : after.console = board.console := by
  have same : board.SameAt after .console := serves.sameAt fun own => by
    have inside := mem_jobsOf_source member
    rw [own] at inside
    simp [jobsOf, Console.jobs, unheld] at inside
  exact same

/-- A search for a gesture takes lines, whatever it finds. -/
theorem Takes.of_search {found : Option Gesture} {rest : Bytes} (undue : board.deadlines = [])
    (unread : board.console.reading = false)
    (taken : takeGesture board.console.input = (found, rest))
    (left : after.console = { board.console with input := rest }) :
    ∃ taken, board.Takes after taken := by
  obtain ⟨lines, searched⟩ := searched_takeGesture board.console.input
  rw [taken] at searched
  exact ⟨_, .lines undue unread searched left⟩

/-- Where something is due nothing is taken. -/
theorem Sound.takes_of_jobs (sound : board.Sound) (supplied : board.charge = none)
    (unheld : board.console.received = none) (busy : board.jobs ≠ []) :
    board.Takes board.yield.2 [] := by
  rcases sound.yield (by simp [supplied]) with
    ⟨job, served, yielded, serves, taken, _⟩ | ⟨_, none, _⟩
  · rw [stimulated_of_jobs busy] at serves taken
    rw [yielded]
    exact .nothing (serves.console_eq taken.mem unheld)
  · exact absurd none busy

/-- Where nothing is due a byte is taken for the pending read, and without one lines are. -/
theorem Sound.takes_of_idle (sound : board.Sound) (supplied : board.charge = none)
    (unheld : board.console.received = none) (idle : board.jobs = []) :
    ∃ taken, board.Takes board.yield.2 taken := by
  have undue := sound.deadlines_eq_nil idle
  rcases sound.yield (by simp [supplied]) with
    ⟨job, served, yielded, serves, taken, _⟩ | ⟨yielded, _⟩
  · rw [yielded]
    have stimulates := stimulates_stimulate idle
    have among := taken.mem
    rw [Board.stimulated, if_pos idle] at serves among
    have member := among
    rw [stimulates.jobs_eq idle] at member
    generalize board.stimulate.1 = found, board.stimulate.2 = mid at *
    cases stimulates with
    | feed reading input =>
      have receives : job = ⟨board.clock, .receive⟩ := by simpa [reading] using member
      subst receives
      cases serves with
      | receive received =>
        cases received
        exact ⟨_, .byte undue reading (sound.console.buffered reading) input rfl⟩
    | gesture reading taken =>
      exact Takes.of_search undue reading taken (serves.console_eq among unheld)
    | starve | rest => simp at member
  · obtain ⟨_, stimulates⟩ := sound.stimulates_of_idle supplied yielded
    rw [yielded]
    generalize board.stimulated = mid at stimulates
    cases stimulates with
    | starve => exact ⟨_, .nothing rfl⟩
    | rest reading taken => exact Takes.of_search undue reading taken rfl

/-- Whatever a sound board has to do, one yield takes from its input at most one byte or the lines
of one search. -/
theorem Sound.takes_yield (sound : board.Sound) (supplied : board.charge = none)
    (unheld : board.console.received = none) : ∃ taken, board.Takes board.yield.2 taken := by
  by_cases idle : board.jobs = []
  · exact sound.takes_of_idle supplied unheld idle
  · exact ⟨_, sound.takes_of_jobs supplied unheld idle⟩

/-- No command takes anything of the input or holds a byte of it. -/
theorem Obeys.input_eq {command : Command Subscriber Nat} (obeys : board.Obeys command after)
    (unheld : board.console.received = none) :
    after.console.input = board.console.input ∧ after.console.received = none := by
  cases obeys with
  | subscribe subscribes => cases subscribes <;> exact ⟨rfl, unheld⟩
  | share shares => cases shares <;> exact ⟨rfl, unheld⟩
  | start undertakes => cases undertakes <;> exact ⟨rfl, unheld⟩
  | abortRead => exact ⟨rfl, rfl⟩
  | chooseAlgorithm | armAlarm | cancelAlarm | allocateAlarm | keepAlarm | freeAlarm | setInterrupt
  | readButton | perform | setLight | print | putValue | refuseValue | peekValue | setReadOnly
  | ask => exact ⟨rfl, unheld⟩

/-- No reachable board holds a byte that has come in. -/
theorem Reachable.received_eq_none (reachable : board.Reachable) :
    board.console.received = none := by
  induction reachable with
  | initial => rfl
  | obeyed _ _ accepted ih => exact ((obeys_of_ok accepted).input_eq ih).2
  | yielded reachable ih =>
    obtain ⟨taken, takes⟩ := reachable.sound.takes_yield reachable.supplied ih
    exact takes.received_eq_none ih
  | drawn _ ih | enabled _ ih => exact ih

end Board

/-- The job that comes first is determined by the jobs. -/
theorem JobTaken.unique {job other : Job} {jobs rest left : List Job}
    (first : JobTaken job jobs rest) (second : JobTaken other jobs left) : job = other := by
  have same := (Course.earliest?_of_taken first).symm.trans (Course.earliest?_of_taken second)
  exact congrArg Prod.snd (Option.some.inj same)

namespace Board

variable {board mid after : Board} {jobs : List Job} {job : Job} {taken new : List Taking}

/-- What it comes to that a job is served is determined by the job. -/
theorem Serves.unique {other : Board} (first : board.Serves job after)
    (second : board.Serves job other) : after = other := by
  cases first with
  | ring here expires =>
    cases second with
    | ring here' expires' =>
      rw [here] at here'
      cases here'
      rfl
  | turn queued =>
    cases second with
    | turn queued' =>
      rw [queued] at queued'
      cases queued'
      rfl
  | receive received =>
    cases second with
    | receive received' =>
      rw [received] at received'
      cases received'
      rfl
  | digest => cases second; rfl
  | typing present =>
    cases second with
    | typing present' =>
      rw [present] at present'
      cases present'
      rfl
  | access => cases second; rfl

/-- A yield serves the job that comes first. -/
theorem Sound.yield_of_taken (sound : board.Sound) (supplied : board.charge = none)
    (serves : board.Serves job after) (taken : JobTaken job board.jobs after.jobs) :
    board.yield = (.serviced, after) := by
  have busy : board.jobs ≠ [] := List.ne_nil_of_mem taken.mem
  rcases sound.yield (by simp [supplied]) with
    ⟨first, served, yielded, servesFirst, takenFirst, _⟩ | ⟨_, none, _⟩
  · rw [stimulated_of_jobs busy] at servesFirst takenFirst
    cases taken.unique takenFirst
    rw [yielded, serves.unique servesFirst]
  · exact absurd none busy

/-- How one board leads to another by commands, tickets and yields, and what is taken of the input
by these yields, in order. No byte is held in between. -/
inductive Passage (start : Board) : List Taking → Board → Prop
  | here (unheld : start.console.received = none) : Passage start [] start
  | obeyed {taken : List Taking} {mid after : Board} {command : Command Subscriber Nat}
      {answer : Answer} (passage : Passage start taken mid)
      (accepted : mid.obey command = .ok (answer, after))
      (same : after.console.input = mid.console.input)
      (unheld : after.console.received = none) : Passage start taken after
  | drawn {taken : List Taking} {mid : Board} (passage : Passage start taken mid) :
      Passage start taken mid.drawTicket.2
  | yielded {taken new : List Taking} {mid : Board} (passage : Passage start taken mid)
      (takes : mid.Takes mid.yield.2 new) (unheld : mid.yield.2.console.received = none) :
      Passage start (taken ++ new) mid.yield.2

namespace Passage

variable {start : Board}

/-- What is taken on the way is what is gone from the input. -/
theorem input_eq (passage : Passage start taken after) :
    start.console.input = taken.flatMap Taking.bytes ++ after.console.input := by
  induction passage with
  | here => rfl
  | obeyed _ _ same _ ih => rw [same, ih]
  | drawn _ ih => exact ih
  | yielded _ takes _ ih =>
    rw [ih, takes.input_eq, List.flatMap_append, List.append_assoc]

/-- The console holds no byte at the end of a passage. -/
theorem received_eq_none (passage : Passage start taken after) : after.console.received = none := by
  induction passage with
  | here unheld => exact unheld
  | obeyed _ _ _ unheld => exact unheld
  | drawn _ ih => exact ih
  | yielded _ _ unheld => exact unheld

/-- A command takes nothing, whether it is accepted or refused. -/
theorem settle {α : Type} (passage : Passage start taken mid) (command : Command Subscriber Nat)
    {change : Except ReturnCode (α × Board)} (answer : α → Answer)
    (carried : mid.obey command = do
      let (value, after) ← change
      return (answer value, after)) : Passage start taken (mid.settle change) := by
  refine settle_cases passage fun value after accepted => ?_
  have obeyed : mid.obey command = .ok (answer value, after) :=
    carried.trans (by rw [accepted]; rfl)
  obtain ⟨same, unheld⟩ := (obeys_of_ok obeyed).input_eq passage.received_eq_none
  exact .obeyed passage obeyed same unheld

/-- Sharing a buffer on the way takes nothing. -/
theorem share (passage : Passage start taken mid) (buffer : Buffer) (bytes : Bytes) :
    Passage start taken (mid.settle (mid.share buffer bytes)) :=
  passage.settle (.share buffer bytes) .buffer rfl

/-- A subscription on the way takes nothing. -/
theorem subscribe (passage : Passage start taken mid) (channel : Channel Nat)
    (subscriber : Option Subscriber) :
    Passage start taken (mid.settle (mid.subscribe channel subscriber)) :=
  passage.settle (.subscribe channel subscriber) (fun previous => .truth previous.isSome) rfl

/-- Taking the console back on the way takes nothing from the input. -/
theorem releaseConsole (passage : Passage start taken mid) :
    Passage start taken mid.releaseConsole :=
  have aborted : Passage start taken (mid.settle mid.abortRead) :=
    passage.settle .abortRead (fun _ => .done) rfl
  (aborted.share .character []).subscribe .console none

/-- A read is begun by a ticket and three commands. -/
theorem beginRead (passage : Passage start taken mid) (unread : mid.console.reading = false) :
    Passage start taken mid.beginRead := by
  have heard := passage.drawn.subscribe .console (some (.flag mid.drawTicket.1))
  have shared := heard.share .character [0]
  have begun := shared.settle (.start .readCharacter) (fun _ => .done) rfl
  simpa [Board.settle, Board.subscribe, Board.share, Board.start, Console.share, Console.read,
    Board.drawTicket, unread, bind, Except.bind, pure, Except.pure, Board.beginRead] using begun

/-- Jobs that are served take nothing of the input. -/
theorem runs (passage : Passage start taken mid) (runs : Runs mid jobs after) (sound : mid.Sound)
    (supplied : mid.charge = none) : Passage start taken after := by
  induction runs with
  | nil => exact passage
  | @cons mid next after job jobs serves first soundNext _ ih =>
    have yielded := sound.yield_of_taken supplied serves first
    have same := serves.console_eq first.mem passage.received_eq_none
    have takes : mid.Takes mid.yield.2 [] := by
      rw [yielded]
      exact .nothing same
    have moved := passage.yielded takes (takes.received_eq_none passage.received_eq_none)
    rw [List.append_nil, yielded] at moved
    exact ih moved soundNext (by rw [serves.charge_eq, supplied]; rfl)

end Passage

end Board

namespace BoardAct

open Board

variable {board : Board}

/-- What a call for a character does with the input: it hands out a byte that one of its yields has
taken, which is all that is taken meanwhile, or it fails and nothing is taken. -/
inductive Receives (board : Board) : EStateM.Result Failure Board UInt8 → Prop
  | byte {byte : UInt8} {after : Board} (passage : board.Passage [.byte byte] after) :
      Receives board (.ok byte after)
  | fault {fault : Fault} {after : Board} (passage : board.Passage [] after) :
      Receives board (.error (.fault fault) after)

/-- A pending read makes a call for a character fail. Another call waits until all the rest has been
served. -/
theorem receives_readCharacter (reachable : board.Reachable) :
    Receives board (readCharacter board) := by
  have here : board.Passage [] board := .here reachable.received_eq_none
  have live := reachable.live
  cases reading : board.console.reading with
  | true =>
    have released : board.drawTicket.2.releaseConsole = board.drawTicket.2.clearConsole :=
      releaseConsole_of_reading reading
    rw [readCharacter_of_reading reading, ← released]
    exact .fault here.drawn.releaseConsole
  | false =>
    have waits {jobs : List Job} {mid : Board} (starved : Starved board jobs mid) :
        board.Passage [] mid ∧ mid.console.reading = true :=
      ⟨(here.beginRead reading).runs starved.runs live.sound.beginRead live.supplied, by
        rw [starved.console]; rfl⟩
    cases input : board.console.input with
    | nil =>
      obtain ⟨jobs, mid, starved, ran⟩ := readCharacter_of_nil live reading input
      obtain ⟨passage, pending⟩ := waits starved
      rw [ran, ← releaseConsole_of_reading pending]
      exact .fault passage.releaseConsole
    | cons byte bytes =>
      obtain ⟨jobs, mid, done, starved, fed, ran⟩ := readCharacter_of_cons live reading input
      obtain ⟨passage, pending⟩ := waits starved
      have buffer : mid.console.buffer = [0] := by rw [starved.console]; rfl
      have left : mid.console.input = byte :: bytes := by rw [starved.console]; exact input
      have takes : mid.Takes mid.yield.2 [.byte byte] := by
        refine .byte (starved.sound.deadlines_eq_nil starved.drained) pending (by simp [buffer]) left ?_
        rw [fed.yielded, buffer]
        exact fed.console
      have moved := passage.yielded takes (takes.received_eq_none passage.received_eq_none)
      have idle : done.console.reading = false := by rw [fed.console]
      have unheld : done.console.received = none := by rw [fed.console]
      rw [fed.yielded] at moved
      have released := moved.releaseConsole
      rw [releaseConsole_of_idle idle unheld] at released
      rw [ran]
      exact .byte released

end BoardAct

open Board BoardAct

/-- What is done with a board: a command is given, a call is made for a character, or control is
yielded. Who is subscribed is a listener. -/
inductive Move
  | command (command : Command Nat Nat)
  | readCharacter
  | yield

/-- What a move comes to, and what is taken of the input by it. -/
inductive Makes (board : Board) : Move → List Taking → Board → Prop
  | obeyed {command : Command Nat Nat} {answer : Answer} {after : Board}
      (accepted : board.obey (command.rename .listener id) = .ok (answer, after))
      (same : after.console.input = board.console.input) : Makes board (.command command) [] after
  | refused {command : Command Nat Nat} {code : ReturnCode}
      (refused : board.obey (command.rename .listener id) = .error code) :
      Makes board (.command command) [] board
  | received {byte : UInt8} {after : Board} (ran : readCharacter board = .ok byte after)
      (passage : board.Passage [.byte byte] after) : Makes board .readCharacter [.byte byte] after
  | failed {fault : Fault} {after : Board}
      (ran : readCharacter board = .error (.fault fault) after)
      (passage : board.Passage [] after) : Makes board .readCharacter [] after
  | yielded {taken : List Taking} (takes : board.Takes board.yield.2 taken) :
      Makes board .yield taken board.yield.2

/-- A session: moves one after another, and all that is taken of the input by them, in order. No
board in between holds a byte. -/
inductive Session : Board → List Move → List Taking → Board → Prop
  | ended {board : Board} (unheld : board.console.received = none) : Session board [] [] board
  | move {board mid last : Board} {move : Move} {moves : List Move} {taken more : List Taking}
      (unheld : board.console.received = none) (makes : Makes board move taken mid)
      (session : Session mid moves more last) :
      Session board (move :: moves) (taken ++ more) last

namespace Session

variable {board : Board}

/-- All that is taken in a session is in order what is gone from the input. -/
theorem input_eq {last : Board} {moves : List Move} {taken : List Taking}
    (session : Session board moves taken last) :
    board.console.input = taken.flatMap Taking.bytes ++ last.console.input := by
  induction session with
  | ended => rfl
  | move _ makes _ ih =>
    rw [List.flatMap_append, List.append_assoc, ← ih]
    cases makes with
    | obeyed _ same => exact same.symm
    | refused => rfl
    | received _ passage | failed _ passage => exact passage.input_eq
    | yielded takes => exact takes.input_eq

end Session

/-- A command that subscribes a listener hands out no ticket. -/
theorem Command.isAmong_of_listener (command : Command Nat Nat) {subscriber : Subscriber}
    {count : Nat} (named : (command.rename Subscriber.listener id).subscriber? = some subscriber) :
    subscriber.IsAmong count := by
  cases command with
  | subscribe channel id =>
    obtain ⟨id, _, rfl⟩ := Option.map_eq_some_iff.mp named
    trivial
  | _ => cases named

/-- Whatever the move, a reachable board makes it and is a reachable one afterwards. -/
theorem Board.Reachable.makes {board : Board} (reachable : board.Reachable) (move : Move) :
    ∃ taken after, Makes board move taken after ∧ after.Reachable := by
  cases move with
  | command command =>
    cases carried : board.obey (command.rename .listener id) with
    | error code => exact ⟨[], board, .refused carried, reachable⟩
    | ok answered =>
      obtain ⟨answer, after⟩ := answered
      have same := ((obeys_of_ok carried).input_eq reachable.received_eq_none).1
      have known : ∀ subscriber, (command.rename .listener id).subscriber? = some subscriber →
          subscriber.IsAmong board.tickets := fun _ => command.isAmong_of_listener
      exact ⟨[], after, .obeyed carried same, .obeyed reachable known carried⟩
  | readCharacter =>
    have receives := receives_readCharacter reachable
    have roams : Roams 0 readCharacter := Roams.readCharacter
    have moves := roams board reachable (Nat.zero_le _)
    cases ran : readCharacter board with
    | ok byte after =>
      rw [ran] at receives moves
      cases receives with
      | byte passage => exact ⟨_, after, .received ran passage, moves.reachable⟩
    | error failure after =>
      rw [ran] at receives moves
      cases receives with
      | fault passage => exact ⟨_, after, .failed ran passage, moves.reachable⟩
  | yield =>
    obtain ⟨taken, takes⟩ :=
      reachable.sound.takes_yield reachable.supplied reachable.received_eq_none
    exact ⟨taken, _, .yielded takes, .yielded reachable⟩

/-- Any moves can be made on a reachable board, and make up a session. -/
theorem Board.Reachable.session {board : Board} (reachable : board.Reachable) (moves : List Move) :
    ∃ taken last, Session board moves taken last := by
  induction moves generalizing board with
  | nil => exact ⟨[], board, .ended reachable.received_eq_none⟩
  | cons move moves ih =>
    obtain ⟨taken, mid, makes, reached⟩ := reachable.makes move
    obtain ⟨more, last, session⟩ := ih reached
    exact ⟨taken ++ more, last, .move reachable.received_eq_none makes session⟩

/-- Whatever is done with a board, the bytes that have been delivered and the lines that have been
looked at make up, in the order in which they were taken, just what is gone from its input. -/
theorem session_takes_input (store : Store) (input : Bytes) (buttons : Nat) (hasKeyboard : Bool)
    (moves : List Move) :
    ∃ taken last, Session (.initial store input buttons hasKeyboard) moves taken last ∧
      input = taken.flatMap Taking.bytes ++ last.console.input := by
  obtain ⟨taken, last, session⟩ :=
    (Reachable.initial store input buttons hasKeyboard).session moves
  exact ⟨taken, last, session, session.input_eq⟩

end OtpToken
