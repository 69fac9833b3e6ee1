import Mathlib.Data.List.Infix
import OtpToken.Proofs.Blocking.Release

/-!
# The line that is taken for a secret

The input is shared with the gestures, so it matters where a secret ends. Of whatever there is
to read, `readLine` takes the shortest front part that ends a line or holds enough letters and
digits, and nothing of what follows (`readLine_takes_line`). The other drivers may be at
anything meanwhile.
-/

namespace OtpToken.SecretEntry

open Act BoardAct

/-- The ASCII letters and digits among some bytes, in order. -/
def letters (bytes : Bytes) : List Char :=
  (bytes.map fun byte => Char.ofNat byte.toNat).filter Char.isAlphanum

/-- A line of which so many characters have been kept is over after some more bytes: it has just been
ended, or it is full. -/
def IsOver (kept : Nat) (bytes : Bytes) : Prop :=
  bytes.getLast? = some 0x0a ∨ bytes.getLast? = some 0x0d ∨
    maxLength ≤ kept + (letters bytes).length

instance (kept : Nat) (bytes : Bytes) : Decidable (IsOver kept bytes) :=
  inferInstanceAs (Decidable (_ ∨ _ ∨ _))

/-- The line that an input begins with: its shortest front part that is over. -/
structure IsLine (line input : Bytes) : Prop where
  front : line <+: input
  isOver : IsOver 0 line
  shortest : ∀ part, part <+: input → IsOver 0 part → line.length ≤ part.length

variable {kept : Nat} {byte : UInt8} {bytes line : Bytes}

/-- A byte is kept if and only if it is an ASCII letter or digit. -/
theorem isKept_eq_isAlphanum (byte : UInt8) : isKept byte = (Char.ofNat byte.toNat).isAlphanum := by
  have all : ∀ code : Fin 256,
      isKept (UInt8.ofNat code) = (Char.ofNat code).isAlphanum := by decide +kernel
  simpa using all ⟨byte.toNat, byte.toNat_lt⟩

/-- What ends a line is neither a letter nor a digit. -/
theorem isKept_of_endsLine (ends : endsLine byte = true) : isKept byte = false := by
  simp only [endsLine, Bool.or_eq_true, beq_iff_eq] at ends
  rcases ends with rfl | rfl <;> rfl

/-- A byte that is kept is the first letter. -/
theorem letters_cons_of_kept (isKept : isKept byte = true) :
    String.ofList (letters (byte :: bytes)) = echo byte ++ String.ofList (letters bytes) := by
  rw [isKept_eq_isAlphanum] at isKept
  simp [letters, isKept, echo]

/-- A byte that is not kept is no letter. -/
theorem letters_cons_of_dropped (dropped : isKept byte = false) :
    letters (byte :: bytes) = letters bytes := by
  rw [isKept_eq_isAlphanum] at dropped
  simp [letters, dropped]

/-- A byte that does not end a line counts if it is kept. -/
theorem isOver_cons (running : endsLine byte = false) : IsOver kept (byte :: bytes) ↔
    IsOver (if isKept byte then kept + 1 else kept) bytes := by
  have counted : kept + (letters (byte :: bytes)).length =
      (if isKept byte then kept + 1 else kept) + (letters bytes).length := by
    cases keeps : isKept byte with
    | true =>
      have length : (String.ofList (letters (byte :: bytes))).length = _ :=
        congrArg String.length (letters_cons_of_kept keeps)
      rw [String.length_ofList, String.length_append, String.length_ofList, echo,
        String.length_singleton] at length
      rw [length, if_pos rfl]
      omega
    | false => rw [letters_cons_of_dropped keeps, if_neg Bool.false_ne_true]
  simp only [endsLine, Bool.or_eq_false_iff, beq_eq_false_iff_ne] at running
  rw [IsOver, IsOver, counted]
  cases bytes with
  | nil => simp [running]
  | cons next rest => rw [List.getLast?_cons_cons]

/-- A line that has just begun is not over. -/
theorem ne_nil_of_isOver (short : ¬maxLength ≤ kept) (isOver : IsOver kept bytes) : bytes ≠ [] := by
  rintro rfl
  simp [IsOver, letters, short] at isOver

/-- What a scan of an input has found: the line that it has taken, if it came to the end of one, and
otherwise all there was. -/
structure Scanned (kept : Nat) (input line : Bytes) : Prop where
  split : input = line ++ (scan kept input).2.1
  text : (scan kept input).1 = String.ofList (letters line)
  isOver : (scan kept input).2.2 = true → IsOver kept line
  spent : (scan kept input).2.2 = false → (scan kept input).2.1 = []
  shortest : ∀ part, part <+: input → IsOver kept part →
    (scan kept input).2.2 = true ∧ line.length ≤ part.length

/-- In an empty input there is nothing to scan. -/
theorem Scanned.nil (kept : Nat) : Scanned kept [] [] where
  split := by simp [scan]
  text := by simp [scan, letters]
  isOver := fun full => .inr (.inr (Nat.le_add_right_of_le (by simpa [scan] using full)))
  spent := by simp [scan]
  shortest := by
    intro part front isOver
    rw [List.prefix_nil] at front
    subst front
    simpa [scan, IsOver, letters] using isOver

/-- A line that is full takes nothing more. -/
theorem Scanned.of_full (full : maxLength ≤ kept) : Scanned kept (byte :: bytes) [] := by
  have scanned : scan kept (byte :: bytes) = ("", byte :: bytes, true) := if_pos full
  refine ⟨by simp [scanned], by simp [scanned, letters], ?_, by simp [scanned], ?_⟩
  · exact fun _ => .inr (.inr (Nat.le_add_right_of_le full))
  · exact fun part _ _ => ⟨by rw [scanned], Nat.zero_le _⟩

/-- A byte that ends the line is taken with it. -/
theorem Scanned.of_endsLine (short : ¬maxLength ≤ kept) (ends : endsLine byte = true) :
    Scanned kept (byte :: bytes) [byte] := by
  have scanned : scan kept (byte :: bytes) = ("", bytes, true) := by
    rw [scan, if_neg short, if_pos ends]
  have none : letters [byte] = [] := letters_cons_of_dropped (isKept_of_endsLine ends)
  refine ⟨by simp [scanned], by simp [scanned, none], ?_, by simp [scanned], ?_⟩
  · intro _
    simpa [IsOver, endsLine, ← or_assoc] using Or.inl ends
  · intro part _ isOver
    exact ⟨by rw [scanned], List.length_pos_iff.mpr (ne_nil_of_isOver short isOver)⟩

/-- Any other byte is taken with the line that goes on behind it. -/
theorem Scanned.cons {line : Bytes} (short : ¬maxLength ≤ kept) (running : endsLine byte = false)
    (found : Scanned (if isKept byte then kept + 1 else kept) bytes line) :
    Scanned kept (byte :: bytes) (byte :: line) := by
  have after : (scan kept (byte :: bytes)).2 =
      (scan (if isKept byte then kept + 1 else kept) bytes).2 := by
    rw [scan, if_neg short, if_neg (by simp [running])]
    split <;> rfl
  refine ⟨?_, ?_, ?_, ?_, ?_⟩
  · rw [after, List.cons_append, ← found.split]
  · have text := found.text
    rw [scan, if_neg short, if_neg (by simp [running])]
    cases keeps : isKept byte with
    | true =>
      rw [keeps, if_pos rfl] at text
      rw [if_pos rfl, letters_cons_of_kept keeps, text]
    | false =>
      rw [keeps, if_neg Bool.false_ne_true] at text
      rw [if_neg Bool.false_ne_true, letters_cons_of_dropped keeps, text]
  · rw [after, isOver_cons running]
    exact found.isOver
  · rw [after]
    exact found.spent
  · intro part front isOver
    cases part with
    | nil => exact absurd rfl (ne_nil_of_isOver short isOver)
    | cons first rest =>
      rw [List.cons_prefix_cons] at front
      obtain ⟨rfl, front⟩ := front
      rw [after]
      obtain ⟨ended, shorter⟩ := found.shortest rest front ((isOver_cons running).mp isOver)
      exact ⟨ended, Nat.succ_le_succ shorter⟩

/-- Every input has a line that a scan finds. -/
theorem exists_scanned (kept : Nat) (input : Bytes) : ∃ line, Scanned kept input line := by
  induction input generalizing kept with
  | nil => exact ⟨[], .nil kept⟩
  | cons byte input ih =>
    by_cases full : maxLength ≤ kept
    · exact ⟨[], .of_full full⟩
    · cases ends : endsLine byte with
      | true => exact ⟨[byte], .of_endsLine full ends⟩
      | false =>
        obtain ⟨line, found⟩ := ih (if isKept byte then kept + 1 else kept)
        exact ⟨byte :: line, found.cons full ends⟩

/-- The line that a scan has come to the end of is the one that the input begins with. -/
theorem Scanned.isLine {input : Bytes} (scanned : Scanned 0 input line)
    (ended : (scan 0 input).2.2 = true) : IsLine line input where
  front := ⟨_, scanned.split.symm⟩
  isOver := scanned.isOver ended
  shortest := fun part front isOver => (scanned.shortest part front isOver).2

/-- An input begins with one line at most. -/
theorem IsLine.unique {input other : Bytes} (first : IsLine line input) (second : IsLine other input) :
    line = other := by
  have forth := first.shortest other second.front second.isOver
  have back := second.shortest line first.front first.isOver
  exact (List.prefix_of_prefix_length_le first.front second.front forth).eq_of_length
    (Nat.le_antisymm forth back)

variable {board : Board}

/-- A reachable board on which no read is pending may read a character, and is one again. -/
theorem readCharacter_of_unread (reachable : board.Reachable)
    (unread : board.console.reading = false) :
    ∃ after, readCharacter board =
        (match board.console.input with
          | byte :: _ => .ok byte after
          | [] => .error (.fault .halted) after) ∧
      (after.Reachable ∧ after.console.IsReleased) ∧
      after.console.transcript = board.console.transcript ∧
      after.console.input = board.console.input.drop 1 := by
  have roams : Roams 0 readCharacter := Roams.readCharacter
  have moves := roams board reachable (Nat.zero_le _)
  cases input : board.console.input with
  | nil =>
    obtain ⟨jobs, mid, starved, ran⟩ := readCharacter_of_nil reachable.live unread input
    rw [ran] at moves
    refine ⟨_, ran, ⟨moves.reachable, rfl, rfl, rfl, rfl⟩, ?_, ?_⟩
    · change mid.console.transcript = board.beginRead.console.transcript
      rw [starved.console]
    · change mid.console.input = []
      rw [starved.console]
      exact input
  | cons byte bytes =>
    obtain ⟨jobs, mid, done, starved, fed, ran⟩ :=
      readCharacter_of_cons reachable.live unread input
    rw [ran] at moves
    refine ⟨_, ran, ⟨moves.reachable, rfl, rfl, rfl, rfl⟩, ?_, ?_⟩
    · change done.console.transcript = board.beginRead.console.transcript
      rw [fed.console, starved.console]
    · change done.console.input = bytes
      rw [fed.console]

/-- Printing on a reachable board leaves a reachable one. -/
theorem reachable_print (reachable : board.Reachable) (text : String) :
    (board.print text).Reachable := by
  have printed : board.obey (.print text) = .ok (.done, board.print text) := rfl
  exact .obeyed reachable (by simp [Command.subscriber?]) printed

/-- A line is read, and shown, as a scan of the input finds it. -/
theorem readRest_eq_scan (reachable : board.Reachable) (unread : board.console.reading = false) :
    ∃ after, readRest "" board =
        (if (scan 0 board.console.input).2.2 then .ok (scan 0 board.console.input).1 after
        else .error (.fault .halted) after) ∧
      after.console.IsReleased ∧
      after.console.transcript =
        board.console.transcript ++ (scan 0 board.console.input).1 ∧
      after.console.input = (scan 0 board.console.input).2.1 := by
  obtain ⟨after, ran, ⟨_, released⟩, shown, left⟩ :=
    readRest_scan (fun mid => mid.Reachable ∧ mid.console.reading = false)
      (fun mid => mid.Reachable ∧ mid.console.IsReleased)
      (fun ready => readCharacter_of_unread ready.1 ready.2)
      (fun read => ⟨read.1, read.2.reading⟩)
      (fun text read => ⟨reachable_print read.1 text, { read.2 with }⟩)
      ⟨reachable, unread⟩ (show "".length < maxLength by decide)
  rw [String.empty_append] at ran
  exact ⟨after, ran, released, shown, left⟩

/-- Whatever the other drivers are at, the line that the input begins with is taken from it and no
more. Its letters and digits are handed out and have been shown, with a new line after them. If the
input begins with no line, all of it is taken and shown before the board halts. -/
theorem readLine_takes_line (reachable : board.Reachable)
    (unread : board.console.reading = false) :
    (∀ line, IsLine line board.console.input → ∃ after,
      readLine board = .ok (String.ofList (letters line)) after ∧
      board.console.input = line ++ after.console.input ∧
      after.console.transcript =
        board.console.transcript ++ String.ofList (letters line) ++ "\r\n" ∧
      after.console.IsReleased) ∧
    ((∀ line, ¬IsLine line board.console.input) → ∃ after,
      readLine board = .error (.fault .halted) after ∧
      after.console.input = [] ∧
      after.console.transcript =
        board.console.transcript ++ String.ofList (letters board.console.input) ∧
      after.console.IsReleased) := by
  obtain ⟨line, scanned⟩ := exists_scanned 0 board.console.input
  obtain ⟨after, ran, released, shown, left⟩ := readRest_eq_scan reachable unread
  rw [scanned.text] at ran shown
  constructor
  · intro one isLine
    have ended := (scanned.shortest one isLine.front isLine.isOver).1
    obtain rfl := isLine.unique (scanned.isLine ended)
    rw [ended, if_pos rfl] at ran
    refine ⟨after.print "\r\n", bind_of_ok ran, ?_, congrArg (· ++ "\r\n") shown, { released with }⟩
    rw [show (after.print "\r\n").console.input = after.console.input from rfl, left]
    exact scanned.split
  · intro none
    have unended : (scan 0 board.console.input).2.2 = false := by
      rw [Bool.eq_false_iff]
      exact fun ended => none line (scanned.isLine ended)
    have spent := scanned.spent unended
    have whole := scanned.split
    rw [spent, List.append_nil] at whole
    rw [unended, if_neg Bool.false_ne_true] at ran
    refine ⟨after, bind_of_error ran, left.trans spent, ?_, released⟩
    rw [whole]
    exact shown

/-- A board with things to do while somebody types: an alarm is armed, a button is about to go down
and up, and the keyboard and the keyed-hash unit are at work. -/
def burdened (input : Bytes) : Board :=
  (Board.initial .inMemory input 1 true).obeyAll [
    .subscribe (.alarm Alarms.defaultPlace) (some (.listener 1)),
    .armAlarm Alarms.defaultPlace 65,
    .setInterrupt 0 true,
    .subscribe .buttons (some (.listener 2)),
    .perform (.press 0),
    .share .text [0x31],
    .start .typeText,
    .share .macKey [1],
    .share .macDestination (List.replicate Sha256.digestSize 0),
    .chooseAlgorithm 0,
    .start .runMac]

/-- The commands that are given in its definition lead to that board. -/
theorem reachable_burdened (input : Bytes) : (burdened input).Reachable :=
  Board.Reachable.obeyAll (.initial ..) (by simp [Command.subscriber?])

/-- There a line is read up to its end, and an input that breaks off is read up. -/
theorem readLine_takes_line_burdened :
    (burdened [0x41, 0x2d, 0x62, 0x0a, 0x63]).jobs.map Job.task =
      [.ring 0, .turn 0 true, .turn 0 false, .digest, .typing] ∧
    (∃ after, readLine (burdened [0x41, 0x2d, 0x62, 0x0a, 0x63]) = .ok "Ab" after ∧
      after.console.input = [0x63] ∧ after.console.transcript = "Ab\r\n" ∧
      after.console.IsReleased) ∧
    ∃ after, readLine (burdened [0x41, 0x2d, 0x62]) = .error (.fault .halted) after ∧
      after.console.input = [] ∧ after.console.transcript = "Ab" ∧
      after.console.IsReleased := by
  have line : IsLine [0x41, 0x2d, 0x62, 0x0a] [0x41, 0x2d, 0x62, 0x0a, 0x63] := by
    have shortest : ∀ part ∈ List.inits [0x41, 0x2d, 0x62, 0x0a, 0x63],
        IsOver 0 part → 4 ≤ part.length := by decide
    exact ⟨by decide, by decide, fun part front => shortest part ((List.mem_inits _ _).mpr front)⟩
  have none : ∀ line, ¬IsLine line [0x41, 0x2d, 0x62] := by
    have running : ∀ part ∈ List.inits [0x41, 0x2d, 0x62], ¬IsOver 0 part := by decide
    exact fun line isLine => running line ((List.mem_inits _ _).mpr isLine.front) isLine.isOver
  refine ⟨by decide, ?_, ?_⟩
  · obtain ⟨after, ran, split, shown, released⟩ :=
      (readLine_takes_line (reachable_burdened _) (by decide)).1 _ line
    have input : (burdened [0x41, 0x2d, 0x62, 0x0a, 0x63]).console.input =
        [0x41, 0x2d, 0x62, 0x0a] ++ [0x63] := by decide
    rw [input] at split
    exact ⟨after, ran, (List.append_cancel_left split).symm, shown, released⟩
  · obtain ⟨after, ran, spent, shown, released⟩ :=
      (readLine_takes_line (reachable_burdened _) (by decide)).2 none
    exact ⟨after, ran, spent, shown, released⟩

end OtpToken.SecretEntry
