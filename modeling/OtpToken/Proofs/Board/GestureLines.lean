import OtpToken.Proofs.Board.Reachable
import OtpToken.Proofs.Board.Turning
import OtpToken.Proofs.Gesture

/-!
# Lines that press buttons

A board on which nothing is outstanding takes lines of its input up to the first that stands for a
gesture. It lets the button down at once and leaves it to be let go (`Board.pressing`); without such
a line it has taken all of its input and is idle. `yield_of_lines` puts this together with what
lines stand for gestures.
-/

namespace OtpToken

namespace Board

/-- Which lines stand for gestures, and what a board on which nothing is outstanding makes of them:
it passes over lines up to the first that stands for a gesture and serves the press of that one; if
there is none, it takes everything, is idle, and has not changed otherwise. -/
theorem yield_of_lines :
    (∀ line gesture, Gesture.ofLine? line = some gesture ↔ gesture.IsWrittenAs line) ∧
    (∀ (gesture : Gesture) (before behind : List Char), IsGap before → IsGap behind →
      gesture.button < UInt64.size →
        Gesture.ofLine? (String.ofList (before ++ (gesture.text.toList ++ behind))) =
          some gesture) ∧
    ∀ (board : Board) (script : Script), board.Reachable → board.jobs = [] →
      board.console.reading = false → board.console.input = Bytes.ofChars script →
        script.lines.flatten = script ∧
        (∀ passed line rest gesture, script.lines = passed ++ line :: rest →
          (∀ other ∈ passed, Gesture.ofLine? (String.ofList other) = none) →
          Gesture.ofLine? (String.ofList line) = some gesture →
            board.yield = (.serviced, board.pressing gesture (Bytes.ofChars rest.flatten))) ∧
        ((∀ line ∈ script.lines, Gesture.ofLine? (String.ofList line) = none) →
          board.yield = (.idle, { board with console := { board.console with input := [] } })) := by
  refine ⟨fun _ _ => Gesture.ofLine?_eq_some_iff, ?_, ?_⟩
  · intro gesture before behind gapBefore gapBehind fits
    exact Gesture.ofLine?_eq_some_iff.mpr (Gesture.isWrittenAs_text gapBefore gapBehind fits)
  · intro board script reachable idle unread input
    refine ⟨script.flatten_lines, ?_, ?_⟩
    · intro passed line rest gesture whole other stands
      have taken := takeGesture_lines whole other stands
      rw [← input] at taken
      exact yield_pressing reachable.sound idle reachable.supplied unread taken
    · intro other
      have taken := takeGesture_of_no_line other
      rw [← input] at taken
      exact yield_of_rest reachable.sound idle reachable.supplied unread taken

/-- A board with four buttons that a listener hears of, and the given text to read. -/
def attentive (script : Script) : Board :=
  (initial .inMemory (Bytes.ofChars script) 4 true).obeyAll [
    .subscribe .buttons (some (.listener 1)), .setInterrupt 2 true]

/-- Enabling a button and subscribing lead to that board. -/
theorem reachable_attentive (script : Script) : (attentive script).Reachable :=
  Reachable.obeyAll (.initial ..) (by simp [Command.subscriber?])

/-- A script of a comment, a blank line, a number that is too large, and two gestures. -/
def remarks : Script := "# go\n\npress 18446744073709551616\nhold +02\r\npress 0\n".toList

/-- Its first three lines are passed over and the last is left. Where no line stands for a gesture,
everything is passed over. -/
theorem yield_of_lines_attentive :
    Gesture.ofLine? (String.ofList ("\t".toList ++ ((Gesture.hold 2).text.toList ++ "\n".toList))) =
      some (.hold 2) ∧
    (attentive remarks).yield =
      (.serviced, (attentive remarks).pressing (.hold 2) (Bytes.ofChars "press 0\n".toList)) ∧
    (attentive "press 1 2\nhold".toList).yield = (.idle, attentive []) := by
  obtain ⟨_, prints, lines⟩ := yield_of_lines
  refine ⟨prints (.hold 2) _ _ (by decide) (by decide) (by decide), ?_, ?_⟩
  · exact (lines _ remarks (reachable_attentive _) (by decide) (by decide) (by decide)).2.1
      ["# go\n".toList, "\n".toList, "press 18446744073709551616\n".toList]
      "hold +02\r\n".toList ["press 0\n".toList] (.hold 2) (by decide) (by decide) (by decide)
  · exact (lines _ "press 1 2\nhold".toList (reachable_attentive _) (by decide) (by decide)
      (by decide)).2.2 (by decide)

end Board

end OtpToken
