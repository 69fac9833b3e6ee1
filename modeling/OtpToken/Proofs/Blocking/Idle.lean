import OtpToken.Proofs.Blocking.Limit

/-!
# Idle boards

A board is idle if it has nothing to do and finds no stimulus. The search for a gesture ends early
at a line that is no text, with the lines behind it still there, so a board that has been found idle
may have work again: it stays idle if and only if none of the lines that are left stands for a
gesture (`FoundIdle.lasts_iff`).
-/

namespace OtpToken

/-- The lines of an input, each with its line feed. -/
def linesOf : Bytes → List Bytes
  | [] => []
  | byte :: bytes => (splitLine (byte :: bytes)).1 :: linesOf (splitLine (byte :: bytes)).2
termination_by bytes => bytes.length
decreasing_by exact splitLine_rest_lt byte bytes

/-- The gesture that a line of an input stands for. -/
def Gesture.ofBytes? (line : Bytes) : Option Gesture := (Bytes.toText? line).bind Gesture.ofLine?

/-- A line that is no text stands for no gesture. -/
theorem Gesture.ofBytes?_of_garbled {line : Bytes} (garbled : Bytes.toText? line = none) :
    ofBytes? line = none := by
  rw [ofBytes?, garbled, Option.bind_none]

/-- A gesture that is found is the first line that stands for one. -/
theorem linesOf_of_found {bytes rest : Bytes} {gesture : Gesture}
    (taken : takeGesture bytes = (some gesture, rest)) :
    ∃ passed line, linesOf bytes = passed ++ line :: linesOf rest ∧
      Gesture.ofBytes? line = some gesture := by
  fun_induction takeGesture bytes with
  | case1 | case2 => cases taken
  | case3 byte bytes text decoded found gestured =>
    obtain ⟨⟨⟩, rfl⟩ := taken
    refine ⟨[], _, linesOf.eq_2 byte bytes, ?_⟩
    rw [Gesture.ofBytes?, decoded, Option.bind_some, gestured]
  | case4 byte bytes _ _ _ ih =>
    obtain ⟨passed, line, split, gestured⟩ := ih taken
    exact ⟨_ :: passed, line, by rw [linesOf, split, List.cons_append], gestured⟩

/-- A search that finds none has come to the end, or to a line that is no text. -/
theorem linesOf_of_missed {bytes rest : Bytes} (missed : takeGesture bytes = (none, rest)) :
    (∃ passed, linesOf bytes = passed ++ linesOf rest ∧
      ∀ line ∈ passed, Gesture.ofBytes? line = none) ∧
    (rest = [] ∨ ∃ passed line, linesOf bytes = passed ++ line :: linesOf rest ∧
      Bytes.toText? line = none) := by
  fun_induction takeGesture bytes with
  | case1 =>
    obtain ⟨_, rfl⟩ := missed
    exact ⟨⟨[], rfl, by simp⟩, .inl rfl⟩
  | case2 byte bytes garbled =>
    obtain ⟨_, rfl⟩ := missed
    refine ⟨⟨[_], linesOf.eq_2 byte bytes, ?_⟩, .inr ⟨[], _, linesOf.eq_2 byte bytes, garbled⟩⟩
    simp only [List.mem_singleton, forall_eq]
    exact Gesture.ofBytes?_of_garbled garbled
  | case3 => cases missed
  | case4 byte bytes text decoded other ih =>
    obtain ⟨⟨passed, split, gestureless⟩, stopped⟩ := ih missed
    constructor
    · refine ⟨_ :: passed, by rw [linesOf, split, List.cons_append], ?_⟩
      rintro line (_ | ⟨_, member⟩)
      · rw [Gesture.ofBytes?, decoded, Option.bind_some, other]
      · exact gestureless line member
    · rcases stopped with rfl | ⟨passed, line, split, garbled⟩
      · exact .inl rfl
      · exact .inr ⟨_ :: passed, line, by rw [linesOf, split, List.cons_append], garbled⟩

namespace Board

variable {board before after : Board}

/-- No line that is left of the input stands for a gesture. -/
def Gestureless (board : Board) : Prop :=
  ∀ line ∈ linesOf board.console.input, Gesture.ofBytes? line = none

/-- A look for a stimulus that finds one leaves something to do. -/
theorem Stimulates.busy (stimulates : board.Stimulates true after) (idle : board.jobs = []) :
    after.jobs ≠ [] := by
  rw [stimulates.jobs_eq idle]
  cases stimulates with
  | feed reading input => simp [reading]
  | gesture reading taken => simp [reading, taken, Gesture.jobs, Gesture.transitions]

/-- A board is found idle if it has nothing to do and a look for a stimulus finds none. -/
theorem Sound.stimulates_of_idle (sound : board.Sound) (supplied : board.charge = none)
    (yielded : board.yield = (.idle, after)) :
    board.jobs = [] ∧ board.Stimulates false after := by
  rcases sound.yield (by simp [supplied]) with
    ⟨job, served, serviced, _⟩ | ⟨idle, none, noneAfter, _⟩
  · rw [yielded] at serviced
    cases serviced
  · rw [yielded] at idle
    obtain ⟨_, rfl⟩ := idle
    refine ⟨none, ?_⟩
    have stimulates := stimulates_stimulate none
    rw [Board.stimulated, if_pos none] at noneAfter ⊢
    cases found : board.stimulate.1 with
    | false =>
      rw [found] at stimulates
      exact stimulates
    | true =>
      rw [found] at stimulates
      exact absurd noneAfter (stimulates.busy none)

/-- A board that has nothing to do and will never find a stimulus. -/
structure Dormant (board : Board) : Prop where
  sound : board.Sound
  supplied : board.charge = none
  still : board.jobs = []
  starved : board.console.reading = true → board.console.input = []
  gestureless : board.Gestureless

/-- A look for a stimulus finds none on a dormant board, which stays dormant. -/
theorem Dormant.stimulates (dormant : board.Dormant) {found : Bool}
    (stimulates : board.Stimulates found after) :
    found = false ∧ after.Dormant ∧ after.calls = board.calls := by
  have jobs := stimulates.jobs_eq dormant.still
  have sound := stimulates.sound dormant.sound
  cases stimulates with
  | feed reading input =>
    rw [dormant.starved reading] at input
    cases input
  | starve => exact ⟨rfl, dormant, rfl⟩
  | gesture reading taken =>
    obtain ⟨passed, line, split, gestured⟩ := linesOf_of_found taken
    have none := dormant.gestureless line (by rw [split]; simp)
    rw [gestured] at none
    cases none
  | rest reading taken =>
    obtain ⟨⟨passed, split, _⟩, _⟩ := linesOf_of_missed taken
    refine ⟨rfl, ⟨sound, dormant.supplied, by simpa using jobs, ?_, ?_⟩, rfl⟩
    · intro pending
      rw [reading] at pending
      cases pending
    · intro line member
      exact dormant.gestureless line (by rw [split]; exact List.mem_append_right _ member)

/-- A dormant board is idle, and stays dormant. -/
theorem Dormant.yield (dormant : board.Dormant) :
    board.yield.1 = .idle ∧ board.yield.2.Dormant ∧ board.yield.2.calls = board.calls := by
  obtain ⟨_, asleep, calls⟩ := dormant.stimulates (stimulates_stimulate dormant.still)
  rcases dormant.sound.yield (by simp [dormant.supplied]) with
    ⟨job, served, _, _, taken, _⟩ | ⟨yielded, _⟩
  · have member := taken.mem
    rw [stimulated, if_pos dormant.still, asleep.still] at member
    cases member
  · rw [yielded, stimulated, if_pos dormant.still]
    exact ⟨rfl, asleep, calls⟩

/-- However often control is yielded to a dormant board, nothing happens. -/
theorem Dormant.yields (dormant : board.Dormant) (count : Nat) :
    (board.yields count).yield.1 = .idle ∧ (board.yields count).calls = board.calls := by
  induction count generalizing board with
  | zero => exact ⟨dormant.yield.1, rfl⟩
  | succ count ih =>
    obtain ⟨_, asleep, calls⟩ := dormant.yield
    rw [Board.yields]
    exact ⟨(ih asleep).1, (ih asleep).2.trans calls⟩

/-- A board that stays idle runs out of lines, one or more at each yield. -/
theorem Sound.gestureless_of_idle (sound : board.Sound) (supplied : board.charge = none)
    (idle : ∀ count, (board.yields count).yield.1 = .idle)
    (starved : board.console.reading = true → board.console.input = []) : board.Gestureless := by
  generalize bound : (linesOf board.console.input).length = length
  induction length using Nat.strongRecOn generalizing board with
  | _ length ih =>
    have yielded : board.yield = (.idle, board.yield.2) := Prod.ext (idle 0) rfl
    obtain ⟨none, stimulates⟩ := sound.stimulates_of_idle supplied yielded
    have soundAfter := stimulates.sound sound
    have later : ∀ count, (board.yield.2.yields count).yield.1 = .idle :=
      fun count => idle (count + 1)
    generalize board.yield.2 = after at stimulates soundAfter later
    cases stimulates with
    | starve _ input =>
      intro line member
      rw [input, linesOf] at member
      cases member
    | @rest rest reading taken =>
      obtain ⟨⟨passed, split, gestureless⟩, stopped⟩ := linesOf_of_missed taken
      have others : ∀ line ∈ linesOf rest, Gesture.ofBytes? line = Option.none := by
        rcases stopped with rfl | ⟨before, garbled, cut, _⟩
        · simp [linesOf]
        · have fewer : (linesOf rest).length < length := by
            rw [← bound, cut, List.length_append, List.length_cons]
            omega
          refine ih _ fewer soundAfter supplied later (fun pending => ?_) rfl
          rw [reading] at pending
          cases pending
      intro line member
      rw [split] at member
      exact (List.mem_append.mp member).elim (gestureless line) (others line)

/-- A board that a yield has found idle, or that a wait has ended at for this reason. -/
inductive FoundIdle : Board → Prop
  | yielded {board after : Board} (reachable : board.Reachable)
      (yielded : board.yield = (.idle, after)) : FoundIdle after
  | waited {board : Board} {condition : Condition} (reachable : board.Reachable)
      (halted : (board.waitUntil condition).result = .error (.fault .halted)) :
      FoundIdle (board.waitUntil condition).board

/-- A wait ends early because a yield finds the board idle. -/
theorem Reachable.idle_of_watch (reachable : board.Reachable) {condition : Condition} {polls : Nat}
    (halted : (board.watch condition (fun _ => false) polls).result = .error (.fault .halted)) :
    ∃ before : Board, before.Reachable ∧
      before.yield = (.idle, (board.watch condition (fun _ => false) polls).board) := by
  fun_induction Board.watch condition (fun _ => false) polls board with
  | case1 => cases halted
  | case2 _ _ _ up => cases up
  | case3 polls board _ _ served yielded ih =>
    have moves := reachable.yielded
    rw [yielded] at moves
    exact ih moves halted
  | case4 polls board _ _ after yielded => exact ⟨board, reachable, yielded⟩
  | case5 => cases halted

/-- A board that has been found idle is one that a yield has left as idle. -/
theorem FoundIdle.exists_yield (found : after.FoundIdle) :
    ∃ before : Board, before.Reachable ∧ before.yield = (.idle, after) := by
  cases found with
  | yielded reachable yielded => exact ⟨_, reachable, yielded⟩
  | waited reachable halted => exact reachable.idle_of_watch halted

/-- A board that has been found idle has nothing to do, and a search for a gesture has come to the
end of its input or to a line that is no text. It stays idle, and nobody hears of anything any more,
if and only if none of the lines that are left stands for a gesture. -/
theorem FoundIdle.lasts_iff (found : after.FoundIdle) :
    after.jobs = [] ∧
    (after.console.input = [] ∨ ∃ (before : Board) (passed : List Bytes) (line : Bytes),
      before.Reachable ∧ before.yield = (.idle, after) ∧
      linesOf before.console.input = passed ++ line :: linesOf after.console.input ∧
      Bytes.toText? line = none) ∧
    ((∀ count, (after.yields count).yield.1 = .idle ∧ (after.yields count).calls = after.calls) ↔
      after.Gestureless) := by
  obtain ⟨before, reachable, yielded⟩ := found.exists_yield
  obtain ⟨none, stimulates⟩ := reachable.sound.stimulates_of_idle reachable.supplied yielded
  have still : after.jobs = [] := by simpa using stimulates.jobs_eq none
  have sound := stimulates.sound reachable.sound
  have supplied : after.charge = Option.none := by
    cases stimulates <;> exact reachable.supplied
  have starved : after.console.reading = true → after.console.input = [] := by
    cases stimulates with
    | starve _ input => exact fun _ => input
    | rest reading _ => exact fun pending => absurd (reading.symm.trans pending) (by decide)
  refine ⟨still, ?_, ?_, ?_⟩
  · cases stimulates with
    | starve _ input => exact .inl input
    | rest reading taken =>
      refine (linesOf_of_missed taken).2.imp_right fun ⟨passed, line, split, garbled⟩ => ?_
      exact ⟨before, passed, line, reachable, yielded, split, garbled⟩
  · intro lasts
    exact sound.gestureless_of_idle supplied (fun count => (lasts count).1) starved
  · intro gestureless
    exact (Dormant.mk sound supplied still starved gestureless).yields

/-- A board whose input begins with a line that is no text, before one that stands for a gesture. -/
def garbled : Board := .initial .inMemory ([0xa9, 0x0a] ++ Bytes.ofText "press 0\n") 1 false

/-- A yield finds that board idle. -/
theorem garbled_found_idle : garbled.yield.2.FoundIdle :=
  .yielded (.initial ..) (Prod.ext (by decide +kernel) rfl)

/-- It is found idle with nothing to do, and yet the next yield serves the gesture. -/
theorem lasts_iff_garbled : garbled.yield.2.FoundIdle ∧ garbled.yield.2.jobs = [] ∧
    garbled.yield.2.yield.1 = .serviced ∧ ¬garbled.yield.2.Gestureless := by
  obtain ⟨still, _, lasts⟩ := garbled_found_idle.lasts_iff
  have serviced : garbled.yield.2.yield.1 = .serviced := by decide +kernel
  refine ⟨garbled_found_idle, still, serviced, fun gestureless => ?_⟩
  have idle := (lasts.mpr gestureless 0).1
  rw [yields, serviced] at idle
  cases idle

end Board

end OtpToken
