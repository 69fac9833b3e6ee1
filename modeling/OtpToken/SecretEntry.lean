import OtpToken.Blocking.Settling

/-!
# Secret entry

A secret is typed at the console. Letters and digits are kept and echoed, every
other character is passed over, and the line ends with a carriage return, a line
feed, or when enough characters have been kept.
-/

namespace OtpToken.SecretEntry

open Act BoardAct

/-- The greatest number of characters that are kept. -/
def maxLength : Nat := 127

/-- Whether a character ends the line. -/
def endsLine (byte : UInt8) : Bool := byte == 0x0a || byte == 0x0d

/-- Whether a character is an ASCII letter or digit. -/
def isKept (byte : UInt8) : Bool :=
  (0x30 ≤ byte && byte ≤ 0x39) || (0x41 ≤ byte && byte ≤ 0x5a) || (0x61 ≤ byte && byte ≤ 0x7a)

/-- What a character is echoed as. -/
def echo (byte : UInt8) : String := String.singleton (Char.ofNat byte.toNat)

/-- Reads the rest of a line whose characters so far are given. -/
def readRest (line : String) (board : Board) : EStateM.Result Failure Board String :=
  if line.length < maxLength then
    match _read : readCharacter board with
    | .error failure after => .error failure after
    | .ok byte after =>
      if endsLine byte then .ok line after
      else if isKept byte then readRest (line ++ echo byte) (after.print (echo byte))
      else readRest line after
  else .ok line board
termination_by board.workload
decreasing_by
  all_goals
    have less := settles_readCharacter board
    rw [_read] at less
    exact less

/-- Reads a line, and starts a new one. -/
def readLine : BoardAct String := do
  let line ← readRest ""
  print "\r\n"
  return line

/-- Reading on keeps to every contract that reading a character and printing keep to. -/
theorem follows_readRest {contract : Act.Contract Board} [closed : contract.IsClosed]
    (reads : Act.Follows contract readCharacter)
    (prints : ∀ text, Act.Follows contract (print text)) (line : String) :
    Act.Follows contract (readRest line) := by
  intro board
  -- Along the characters, as they are read.
  fun_induction readRest line board with
  | case1 line board _ failure after read | case2 line board _ byte after read _ =>
    have done := reads board
    rw [read] at done
    exact done
  | case3 line board _ byte after read _ _ ih =>
    have done := reads board
    rw [read] at done
    exact closed.trans done (closed.trans (prints (echo byte) after) ih)
  | case4 line board _ byte after read _ _ ih =>
    have done := reads board
    rw [read] at done
    exact closed.trans done ih
  | case5 line board => exact closed.refl board

/-- Whatever has been kept, reading on leaves no more to do. -/
theorem settles_readRest (line : String) : Settles (readRest line) :=
  follows_readRest settles_readCharacter.weaken Settles.print line

/-- Reading a secret does not raise the workload. -/
theorem settles_readLine : Settles readLine :=
  .bind (settles_readRest "") fun _ =>
    .bind (Settles.print _) fun _ => .pure _

end OtpToken.SecretEntry
