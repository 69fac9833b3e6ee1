import OtpToken.Bytes
import OtpToken.Numeral

/-!
# Gestures

A line of input that consists of a verb and a button number stands for a gesture on
that button. Blanks around the two words do not matter. Every other line is passed
over, and a line that is no text ends the search for the moment.
-/

namespace OtpToken

/-- What is done to a button. -/
inductive Gesture
  /-- The button is pressed and soon let go. -/
  | press (button : Nat)
  /-- The button is held down for a while. -/
  | hold (button : Nat)
  deriving DecidableEq, Repr

/-- Whether a character is a blank in Unicode. -/
def isBlank (c : Char) : Bool :=
  let code := c.toNat
  (0x9 ≤ code && code ≤ 0xd) || code == 0x20 || code == 0x85 || code == 0xa0 || code == 0x1680
    || (0x2000 ≤ code && code ≤ 0x200a) || code == 0x2028 || code == 0x2029 || code == 0x202f
    || code == 0x205f || code == 0x3000

/-- The words of a text, given the part of the first word that has been read, last character
first. -/
def wordsAfter (part : List Char) : List Char → List (List Char)
  | [] => if part = [] then [] else [part.reverse]
  | c :: rest =>
    if isBlank c then
      if part = [] then wordsAfter [] rest else part.reverse :: wordsAfter [] rest
    else wordsAfter (c :: part) rest

/-- The words of a text: its longest parts without blanks, in order. -/
def words (text : List Char) : List (List Char) := wordsAfter [] text

namespace Gesture

/-- The button of a gesture. -/
def button : Gesture → Nat
  | press button => button
  | hold button => button

/-- How long a gesture keeps its button down. -/
def milliseconds : Gesture → Nat
  | press _ => 120
  | hold _ => 1500

/-- The gesture that a line stands for. -/
def ofLine? (line : String) : Option Gesture :=
  match words line.toList with
  | [verb, number] =>
    match Numeral.read number with
    | .ok button =>
      if verb = "press".toList then some (press button)
      else if verb = "hold".toList then some (hold button)
      else none
    | .error _ => none
  | _ => none

end Gesture

/-- The bytes up to the first line feed, with it, and the bytes after it. -/
def splitLine (bytes : Bytes) : Bytes × Bytes :=
  let line := bytes.takeWhile (· != 0x0a)
  match bytes.dropWhile (· != 0x0a) with
  | [] => (line, [])
  | feed :: rest => (line ++ [feed], rest)

/-- The first line and what follows it make up the bytes. -/
theorem splitLine_append (bytes : Bytes) : (splitLine bytes).1 ++ (splitLine bytes).2 = bytes := by
  have whole := List.takeWhile_append_dropWhile (p := (· != 0x0a)) (l := bytes)
  unfold splitLine
  split
  next ended => rw [ended] at whole; exact whole
  next found => rw [found] at whole; simpa using whole

/-- A line takes something from bytes that are not empty. -/
theorem splitLine_rest_lt (byte : UInt8) (rest : Bytes) :
    (splitLine (byte :: rest)).2.length < (byte :: rest).length := by
  have whole := congrArg List.length
    (List.takeWhile_append_dropWhile (p := (· != 0x0a)) (l := byte :: rest))
  rw [List.length_append] at whole
  unfold splitLine
  split
  next => simp
  next found =>
    rw [found] at whole
    simp only [List.length_cons] at whole ⊢
    omega

/-- Takes lines up to the first that stands for a gesture, and hands out that gesture and the bytes
after it. The search also ends after a line that is no text, and when nothing is left. -/
def takeGesture : Bytes → Option Gesture × Bytes
  | [] => (none, [])
  | byte :: bytes =>
    match Bytes.toText? (splitLine (byte :: bytes)).1 with
    | none => (none, (splitLine (byte :: bytes)).2)
    | some text =>
      match Gesture.ofLine? text with
      | some gesture => (some gesture, (splitLine (byte :: bytes)).2)
      | none => takeGesture (splitLine (byte :: bytes)).2
termination_by bytes => bytes.length
decreasing_by exact splitLine_rest_lt byte bytes

end OtpToken
