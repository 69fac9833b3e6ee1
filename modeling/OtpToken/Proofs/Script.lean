import OtpToken.Presses
import OtpToken.Proofs.Blocking.Input
import OtpToken.Proofs.Text

/-!
# Scripts

A script is the text that a device finds at its console: gestures, one on a line, and
the secrets that are typed in between. Both are read here character by character, which
comes to the same as reading the bytes of the text (`takeGesture_ofChars`,
`scan_ofChars`). A gesture is told as what it stands for as long as the number of its
button has 32 bits (`Gesture.told_eq_event_iff`).
-/

namespace OtpToken

namespace Gesture

/-- The event that a gesture stands for: its button, and whether it is held. -/
def event : Gesture → ButtonEvent
  | press button => ⟨button, .short⟩
  | hold button => ⟨button, .long⟩

/-- The event that a gesture is told as: buttons are told by the lowest 32 bits of their numbers, and
a button that is told wrong is found up. -/
def told : Gesture → ButtonEvent
  | press button => ⟨button % UInt32.size, .short⟩
  | hold button => ⟨button % UInt32.size, if button < UInt32.size then .long else .short⟩

/-- A gesture is told as what it stands for exactly if the number of its button has 32 bits. -/
theorem told_eq_event_iff {gesture : Gesture} :
    gesture.told = gesture.event ↔ gesture.button < UInt32.size := by
  constructor
  · intro same
    have number : gesture.told.button = gesture.button % UInt32.size := by cases gesture <;> rfl
    have kept : gesture.event.button = gesture.button := by cases gesture <;> rfl
    rw [← Nat.mod_eq_iff_lt (by decide), ← number, same, kept]
  · intro below
    have kept : gesture.button % UInt32.size = gesture.button := Nat.mod_eq_of_lt below
    cases gesture with
    | press button => exact congrArg (ButtonEvent.mk · .short) kept
    | hold button =>
      change button < UInt32.size at below
      rw [told, event, if_pos below]
      exact congrArg (ButtonEvent.mk · .long) kept

end Gesture

/-- What is left to read of a text. -/
abbrev Script := List Char

namespace Script

/-- The first line, with its line feed, and what follows it. -/
def takeLine : Script → List Char × Script
  | [] => ([], [])
  | c :: rest => if c = '\n' then ([c], rest) else (c :: (takeLine rest).1, (takeLine rest).2)

/-- A line takes something from a script that is not empty. -/
theorem takeLine_rest_lt (c : Char) (rest : Script) :
    (takeLine (c :: rest)).2.length < (c :: rest).length := by
  induction rest generalizing c with
  | nil =>
    unfold takeLine
    split <;> exact Nat.zero_lt_one
  | cons next rest ih =>
    unfold takeLine
    split
    · exact Nat.lt_succ_self _
    · exact Nat.lt_succ_of_lt (ih next)

/-- The first line that is a gesture on one of so many buttons, and what follows it. -/
def nextGesture (count : Nat) : Script → Option (Gesture × Script)
  | [] => none
  | c :: rest =>
    match (Gesture.ofLine? (String.ofList (takeLine (c :: rest)).1)).filter (·.button < count) with
    | some gesture => some (gesture, (takeLine (c :: rest)).2)
    | none => nextGesture count (takeLine (c :: rest)).2
termination_by script => script.length
decreasing_by exact takeLine_rest_lt c rest

/-- A gesture that has been found is taken from the script. -/
theorem nextGesture_rest_lt {count : Nat} {script rest : Script} {gesture : Gesture}
    (found : nextGesture count script = some (gesture, rest)) : rest.length < script.length := by
  fun_induction nextGesture count script with
  | case1 => cases found
  | case2 c tail _ _ =>
    cases found
    exact takeLine_rest_lt c tail
  | case3 c tail _ ih => exact Nat.lt_trans (ih found) (takeLine_rest_lt c tail)

/-- A gesture that has been found is one on a button that exists. -/
theorem nextGesture_lt {count : Nat} {script rest : Script} {gesture : Gesture}
    (found : nextGesture count script = some (gesture, rest)) : gesture.button < count := by
  fun_induction nextGesture count script with
  | case1 => cases found
  | case2 c tail _ filtered =>
    cases found
    exact of_decide_eq_true (Option.filter_eq_some_iff.mp filtered).2
  | case3 c tail _ ih => exact ih found

/-- A gesture that the first line stands for is the next one if it is on one of the buttons. -/
theorem nextGesture_of_line {count : Nat} {script rest : Script} {gesture : Gesture}
    (gestured : Gesture.ofLine? (String.ofList (takeLine script).1) = some gesture)
    (left : (takeLine script).2 = rest) (inside : gesture.button < count) :
    nextGesture count script = some (gesture, rest) := by
  cases script with
  | nil => cases gestured
  | cons c tail =>
    rw [nextGesture, left]
    simp only [gestured, Option.filter_some, decide_eq_true inside, if_true]

/-- The gestures that the lines stand for, whatever buttons they are on, each with what follows its
line. -/
def gestures : Script → List (Gesture × Script)
  | [] => []
  | c :: rest =>
    ((Gesture.ofLine? (String.ofList (takeLine (c :: rest)).1)).map
      fun gesture => (gesture, (takeLine (c :: rest)).2)).toList ++ gestures (takeLine (c :: rest)).2
termination_by script => script.length
decreasing_by exact takeLine_rest_lt c rest

/-- The letters and digits up to the end of the line, or until there are enough with the `kept` ones
before, what follows them, and whether that end has been found. -/
def readSecret (kept : Nat) : Script → String × Script × Bool
  | [] => ("", [], decide (SecretEntry.maxLength ≤ kept))
  | c :: rest =>
    if SecretEntry.maxLength ≤ kept then ("", c :: rest, true)
    else if c = '\n' ∨ c = '\r' then ("", rest, true)
    else if c.isAlphanum then
      (String.singleton c ++ (readSecret (kept + 1) rest).1, (readSecret (kept + 1) rest).2)
    else readSecret kept rest

/-- Reading a secret only takes from the script. -/
theorem readSecret_rest_le (kept : Nat) (script : Script) :
    (readSecret kept script).2.1.length ≤ script.length := by
  induction script generalizing kept with
  | nil => exact Nat.le_refl _
  | cons c rest ih =>
    unfold readSecret
    split
    · exact Nat.le_refl _
    · split
      · exact Nat.le_succ _
      · split
        · exact Nat.le_succ_of_le (ih _)
        · exact Nat.le_succ_of_le (ih _)

/-- A secret that has not ended takes all that is left. -/
theorem readSecret_rest_of_open {kept : Nat} {script : Script}
    (unended : (readSecret kept script).2.2 = false) : (readSecret kept script).2.1 = [] := by
  induction script generalizing kept with
  | nil => rfl
  | cons c rest ih =>
    unfold readSecret at unended ⊢
    split at unended <;> split <;> try contradiction
    split at unended <;> split <;> try contradiction
    split at unended <;> split <;> try contradiction
    · exact ih unended
    · exact ih unended

end Script

open Bytes

/-- Every byte of a character but a line feed is something else than a line feed. -/
theorem lineFeed_notMem_utf8EncodeChar {c : Char} (other : c ≠ '\n') {byte : UInt8}
    (member : byte ∈ String.utf8EncodeChar c) : byte ≠ 0x0a := by
  rintro rfl
  by_cases ascii : c.toNat < 128
  · rw [utf8EncodeChar_of_ascii ascii, List.mem_singleton] at member
    have code := congrArg UInt8.toNat member
    rw [UInt8.toNat_ofNat_of_lt' (Nat.lt_trans ascii (by decide))] at code
    exact other (Char.toNat_inj.mp code.symm)
  · exact absurd (high_of_mem_utf8EncodeChar (Nat.le_of_not_lt ascii) member) (by decide)

/-- Bytes that end no line are put before the first line. -/
theorem splitLine_append_of_other {front bytes : Bytes} (other : ∀ byte ∈ front, byte ≠ 0x0a) :
    splitLine (front ++ bytes) = (front ++ (splitLine bytes).1, (splitLine bytes).2) := by
  have apart : ∀ byte ∈ front, (byte != 0x0a) = true := by simpa using other
  have taken : (front ++ bytes).takeWhile (· != 0x0a) = front ++ bytes.takeWhile (· != 0x0a) :=
    List.takeWhile_append_of_pos apart
  have dropped : (front ++ bytes).dropWhile (· != 0x0a) = bytes.dropWhile (· != 0x0a) :=
    List.dropWhile_append_of_pos apart
  simp only [splitLine, taken, dropped]
  split <;> simp

/-- The first line of a text is that of its bytes. -/
theorem splitLine_ofChars (script : Script) :
    splitLine (ofChars script) =
      (ofChars (Script.takeLine script).1, ofChars (Script.takeLine script).2) := by
  induction script with
  | nil => rfl
  | cons c rest ih =>
    unfold Script.takeLine
    split
    next feed =>
      subst feed
      rfl
    next other =>
      rw [ofChars_cons, splitLine_append_of_other fun _ => lineFeed_notMem_utf8EncodeChar other, ih]
      simp

/-- A script that is not empty has bytes. -/
theorem ofChars_ne_nil (c : Char) (rest : Script) : ofChars (c :: rest) ≠ [] := by
  rw [ofChars_cons]
  exact List.append_ne_nil_of_left_ne_nil (List.ne_nil_of_length_pos (by simp [Char.utf8Size_pos])) _

/-- A first line that stands for a gesture is taken, and any other is passed over. -/
theorem takeGesture_of_some {c : Char} {rest : Script} {gesture : Gesture}
    (gestured : Gesture.ofLine? (String.ofList (Script.takeLine (c :: rest)).1) = some gesture) :
    takeGesture (ofChars (c :: rest)) =
      (some gesture, ofChars (Script.takeLine (c :: rest)).2) := by
  obtain ⟨byte, bytes, whole⟩ := List.exists_cons_of_ne_nil (ofChars_ne_nil c rest)
  rw [whole, takeGesture, ← whole, splitLine_ofChars]
  simp only [toText?_ofChars, gestured]

/-- A line that stands for no gesture is passed over. -/
theorem takeGesture_of_none {c : Char} {rest : Script}
    (other : Gesture.ofLine? (String.ofList (Script.takeLine (c :: rest)).1) = none) :
    takeGesture (ofChars (c :: rest)) = takeGesture (ofChars (Script.takeLine (c :: rest)).2) := by
  obtain ⟨byte, bytes, whole⟩ := List.exists_cons_of_ne_nil (ofChars_ne_nil c rest)
  rw [whole, takeGesture, ← whole, splitLine_ofChars]
  simp only [toText?_ofChars, other]

/-- The first gesture in the bytes of a text is the first in the text, whatever button it is on. -/
theorem takeGesture_ofChars (count : Nat) (script : Script) :
    takeGesture (ofChars script) = (none, []) ∧ Script.nextGesture count script = none ∨
    ∃ gesture rest, takeGesture (ofChars script) = (some gesture, ofChars rest) ∧
      rest.length < script.length ∧
      Script.nextGesture count script =
        if gesture.button < count then some (gesture, rest) else Script.nextGesture count rest := by
  fun_induction Script.nextGesture count script with
  | case1 => exact .inl ⟨by rw [ofChars_nil, takeGesture], rfl⟩
  | case2 c rest gesture found =>
    obtain ⟨gestured, inside⟩ := Option.filter_eq_some_iff.mp found
    refine .inr ⟨gesture, _, ?_, Script.takeLine_rest_lt c rest, ?_⟩
    · exact takeGesture_of_some gestured
    · exact (if_pos (of_decide_eq_true inside)).symm
  | case3 c rest missed ih =>
    have shorter := Script.takeLine_rest_lt c rest
    cases gestured : Gesture.ofLine? (String.ofList (Script.takeLine (c :: rest)).1) with
    | none =>
      rw [takeGesture_of_none gestured]
      rcases ih with ended | ⟨gesture, later, taken, less, next⟩
      · exact .inl ended
      · exact .inr ⟨gesture, later, taken, Nat.lt_trans less shorter, next⟩
    | some gesture =>
      have outside : ¬gesture.button < count := by
        intro inside
        rw [gestured, Option.filter_some, if_pos (decide_eq_true inside)] at missed
        cases missed
      refine .inr ⟨gesture, _, ?_, shorter, (if_neg outside).symm⟩
      exact takeGesture_of_some gestured

/-- The gestures in the bytes of a text are taken one after the other. -/
theorem takeGesture_gestures (script : Script) :
    takeGesture (ofChars script) = (none, []) ∧ Script.gestures script = [] ∨
    ∃ gesture rest, takeGesture (ofChars script) = (some gesture, ofChars rest) ∧
      rest.length < script.length ∧
        Script.gestures script = (gesture, rest) :: Script.gestures rest := by
  fun_induction Script.gestures script with
  | case1 => exact .inl ⟨by rw [ofChars_nil, takeGesture], rfl⟩
  | case2 c rest ih =>
    have shorter := Script.takeLine_rest_lt c rest
    cases gestured : Gesture.ofLine? (String.ofList (Script.takeLine (c :: rest)).1) with
    | none =>
      rw [takeGesture_of_none gestured]
      rcases ih with ended | ⟨gesture, later, taken, less, listed⟩
      · exact .inl ended
      · exact .inr ⟨gesture, later, taken, Nat.lt_trans less shorter, listed⟩
    | some gesture => exact .inr ⟨gesture, _, takeGesture_of_some gestured, shorter, rfl⟩

/-- Bytes that are no ASCII codes are passed over. -/
theorem scan_append_of_high {kept : Nat} (few : kept < SecretEntry.maxLength) {front : Bytes}
    (high : ∀ byte ∈ front, 128 ≤ byte.toNat) (bytes : Bytes) :
    SecretEntry.scan kept (front ++ bytes) = SecretEntry.scan kept bytes := by
  induction front with
  | nil => rfl
  | cons byte rest ih =>
    have beyond := high byte List.mem_cons_self
    have ends : SecretEntry.endsLine byte = false := by
      simp only [SecretEntry.endsLine, Bool.or_eq_false_iff, beq_eq_false_iff_ne]
      constructor <;> rintro rfl <;> exact absurd beyond (by decide)
    have keeps : SecretEntry.isKept byte = false := by
      simp only [SecretEntry.isKept, Bool.or_eq_false_iff, Bool.and_eq_false_iff,
        decide_eq_false_iff_not, UInt8.le_iff_toNat_le, UInt8.reduceToNat]
      omega
    rw [List.cons_append, SecretEntry.scan, if_neg (Nat.not_le.mpr few), ends, keeps]
    exact ih fun other member => high other (List.mem_cons_of_mem _ member)

/-- What is done with an ASCII character is done with its code. -/
theorem scan_ascii {c : Char} (ascii : c.toNat < 128) :
    SecretEntry.endsLine (UInt8.ofNat c.toNat) = decide (c = '\n' ∨ c = '\r') ∧
      SecretEntry.isKept (UInt8.ofNat c.toNat) = c.isAlphanum ∧
      SecretEntry.echo (UInt8.ofNat c.toNat) = String.singleton c := by
  have all : ∀ code < 128,
      SecretEntry.endsLine (UInt8.ofNat code) =
        decide (Char.ofNat code = '\n' ∨ Char.ofNat code = '\r') ∧
      SecretEntry.isKept (UInt8.ofNat code) = (Char.ofNat code).isAlphanum := by
    decide
  have one := all c.toNat ascii
  rw [Char.ofNat_toNat] at one
  refine ⟨one.1, one.2, ?_⟩
  rw [SecretEntry.echo, UInt8.toNat_ofNat_of_lt' (Nat.lt_trans ascii (by decide)), Char.ofNat_toNat]

/-- No character beyond ASCII is a letter or a digit of it. -/
theorem isAlphanum_of_beyond {c : Char} (beyond : 128 ≤ c.toNat) : c.isAlphanum = false := by
  have code : c.toNat = c.val.toNat := rfl
  have capital : 'Z'.val.toNat = 90 := rfl
  have small : 'z'.val.toNat = 122 := rfl
  have digit : '9'.val.toNat = 57 := rfl
  have parts : c.isAlphanum = (decide (c.val ≥ 'A'.val ∧ c.val ≤ 'Z'.val) ||
    (decide (c.val ≥ 'a'.val) && decide (c.val ≤ 'z'.val)) ||
    (decide (c.val ≥ '0'.val) && decide (c.val ≤ '9'.val))) := rfl
  simp only [parts, Bool.or_eq_false_iff, Bool.and_eq_false_iff, decide_eq_false_iff_not, UInt32.le_iff_toNat_le,
    ge_iff_le]
  omega

/-- A secret is read from a text as from its bytes. -/
theorem scan_ofChars (kept : Nat) (script : Script) :
    SecretEntry.scan kept (ofChars script) =
      ((Script.readSecret kept script).1, ofChars (Script.readSecret kept script).2.1,
        (Script.readSecret kept script).2.2) := by
  induction script generalizing kept with
  | nil => rfl
  | cons c rest ih =>
    by_cases enough : SecretEntry.maxLength ≤ kept
    · obtain ⟨byte, bytes, whole⟩ := List.exists_cons_of_ne_nil (ofChars_ne_nil c rest)
      rw [whole, SecretEntry.scan, if_pos enough, Script.readSecret, if_pos enough, whole]
    · have few := Nat.lt_of_not_le enough
      rw [Script.readSecret, if_neg enough, ofChars_cons]
      by_cases ascii : c.toNat < 128
      · obtain ⟨ends, keeps, echo⟩ := scan_ascii ascii
        rw [utf8EncodeChar_of_ascii ascii, List.singleton_append, SecretEntry.scan, if_neg enough,
          ends, keeps, echo, ih, ih]
        simp only [decide_eq_true_eq]
        split
        · rfl
        · split <;> rfl
      · have beyond := Nat.le_of_not_lt ascii
        have other : ¬(c = '\n' ∨ c = '\r') := by
          rintro (rfl | rfl) <;> exact absurd beyond (by decide)
        rw [if_neg other, isAlphanum_of_beyond beyond, scan_append_of_high few
          (fun _ => high_of_mem_utf8EncodeChar beyond), ih]
        rfl

end OtpToken
