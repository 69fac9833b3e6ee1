import OtpToken.Blocking.Settling

/-!
# Delivery of codes

A code is typed on the keyboard if there is one, and printed otherwise.
-/

namespace OtpToken

/-- How a code reached the user. -/
inductive Delivery
  | keyboard
  | console
  deriving DecidableEq, Repr

namespace Delivery

open Act BoardAct

/-- What the console shows for a code that is printed. -/
def printedLine (code : Code) : String := "CODE: " ++ code.text

/-- What the console shows for a code that has been typed. -/
def typedLine (code : Code) (counter : UInt64) : String :=
  "Counter: " ++ toString counter.toNat ++ ". Typed \"" ++ code.text
    ++ "\" on the USB HID keyboard"

/-- Delivers the code of a counter value. -/
def deliver (code : Code) (counter : UInt64) : BoardAct Delivery := do
  if ← look (·.keyboard.isNone) then
    printLine (printedLine code)
    return .console
  else
    typeText code.text
    printLine (typedLine code counter)
    return .keyboard

/-- Delivering a code does not raise the workload. -/
theorem settles_deliver (code : Code) (counter : UInt64) : Settles (deliver code counter) := by
  refine .bind (Settles.look _) fun without => ?_
  split
  · exact .bind (Settles.printLine _) fun _ => .pure _
  · exact .bind (settles_typeText _) fun _ =>
      .bind (Settles.printLine _) fun _ => .pure _

end Delivery

end OtpToken
