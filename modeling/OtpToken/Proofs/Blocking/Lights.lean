import OtpToken.Delivery
import OtpToken.Keystore
import OtpToken.Proofs.Blocking.Supply

/-!
# Lights during calls

The lights of a board change by the command for them only. No blocking call gives that command, and
neither serving an operation nor looking for a stimulus touches a light, so whichever way a call
ends, it leaves the lights as they were (`Leaves Board.lights`).
-/

namespace OtpToken

open Act Board

namespace Act

variable {σ τ α : Type} {view : σ → τ} {act : Act σ α}

/-- Whichever way it ends, an act leaves a part of the state as it was. -/
abbrev Leaves (view : σ → τ) (act : Act σ α) : Prop := Follows (.leaving view) act

/-- To clean up leaves a part of the state as it was if it never touches that part. -/
theorem Leaves.releasing {release : σ → σ} (leaves : Leaves view act)
    (releases : ∀ state, view (release state) = view state) :
    Leaves view (Act.releasing release act) :=
  Follows.releasing leaves fun done => (releases _).trans done

end Act

namespace Board

variable {board served after : Board}

/-- No driver turns a light on or off when it completes an operation. -/
theorem lights_service {source : Source} (serves : board.service source = .ok served) :
    served.lights = board.lights := by
  cases source with
  | alarms | keyValue => cases serves; rfl
  | buttons | console | macUnit =>
    obtain ⟨_, _, same⟩ := bind_eq_ok serves
    cases same
    rfl
  | keyboard =>
    simp only [service] at serves
    split at serves <;> cases serves <;> rfl

/-- The lights are as before when an operation has completed. -/
theorem lights_complete (board : Board) (due : Nat) (source : Source) :
    (board.complete due source).2.lights = board.lights := by
  unfold complete
  split
  next served serves =>
    have same := lights_service serves
    exact same
  next => rfl

/-- A stimulus leaves the lights as they are. -/
theorem lights_stimulate (board : Board) : board.stimulate.2.lights = board.lights := by
  unfold stimulate
  split <;> split <;> rfl

/-- To yield to a board changes no light. -/
theorem lights_yield (board : Board) : board.yield.2.lights = board.lights := by
  have stimulated := board.lights_stimulate
  unfold yield serveNext
  split
  · rfl
  · split
    · exact lights_complete ..
    · generalize board.stimulate = stimulus at stimulated
      obtain ⟨found, after⟩ := stimulus
      cases found with
      | false => exact stimulated
      | true =>
        dsimp only
        split
        · exact (lights_complete ..).trans stimulated
        · exact stimulated

/-- However long somebody waits, no light changes. -/
theorem lights_watch (condition : Condition) (isUp : History → Bool) (polls : Nat) (board : Board) :
    (board.watch condition isUp polls).board.lights = board.lights := by
  fun_induction Board.watch condition isUp polls board with
  | case1 | case2 => rfl
  | case3 polls board _ _ served yielded ih =>
    have same := board.lights_yield
    rw [yielded] at same
    exact ih.trans same
  | case4 polls board _ _ after yielded | case5 polls board _ _ trap after yielded =>
    have same := board.lights_yield
    rw [yielded] at same
    exact same

/-- A subscription leaves the lights as they are. -/
theorem lights_subscribe {channel : Channel Nat} {subscriber previous : Option Subscriber}
    (accepted : board.subscribe channel subscriber = .ok (previous, after)) :
    after.lights = board.lights := by
  cases subscribes_of_ok accepted <;> rfl

/-- Sharing a buffer leaves the lights as they are. -/
theorem lights_share {buffer : Buffer} {bytes previous : Bytes}
    (accepted : board.share buffer bytes = .ok (previous, after)) :
    after.lights = board.lights := by
  cases shares_of_ok accepted <;> rfl

/-- Starting an operation leaves the lights as they are. -/
theorem lights_start {operation : Operation}
    (accepted : board.start operation = .ok ((), after)) : after.lights = board.lights := by
  cases undertakes_of_ok accepted <;> rfl

/-- A subscription leaves the lights, even if it is refused. -/
theorem lights_settle_subscribe (board : Board) (channel : Channel Nat)
    (subscriber : Option Subscriber) :
    (board.settle (board.subscribe channel subscriber)).lights = board.lights :=
  @settle_cases board _ _ (·.lights = board.lights) rfl fun _ _ => lights_subscribe

/-- A buffer that is shared or refused leaves the lights as they are. -/
theorem lights_settle_share (board : Board) (buffer : Buffer) (bytes : Bytes) :
    (board.settle (board.share buffer bytes)).lights = board.lights :=
  @settle_cases board _ _ (·.lights = board.lights) rfl fun _ _ => lights_share

/-- Releasing the default alarm leaves the lights as they are. -/
theorem lights_releaseAlarm (board : Board) : board.releaseAlarm.lights = board.lights := by
  refine (lights_settle_subscribe ..).trans ?_
  refine @settle_cases board _ _ (·.lights = board.lights) rfl fun _ after accepted => ?_
  obtain ⟨_, _, same⟩ := bind_eq_ok accepted
  cases same
  rfl

/-- Releasing the console leaves the lights as they are. -/
theorem lights_releaseConsole (board : Board) : board.releaseConsole.lights = board.lights := by
  refine (lights_settle_subscribe ..).trans ((lights_settle_share ..).trans ?_)
  refine @settle_cases board _ _ (·.lights = board.lights) rfl fun _ after accepted => ?_
  obtain ⟨_, _, same⟩ := bind_eq_ok accepted
  cases same
  rfl

/-- Releasing the keyboard leaves the lights as they are. -/
theorem lights_releaseKeyboard (board : Board) : board.releaseKeyboard.lights = board.lights :=
  (lights_settle_subscribe ..).trans (lights_settle_share ..)

/-- Releasing the key-value unit leaves the lights as they are. -/
theorem lights_releaseKeyValue (board : Board) : board.releaseKeyValue.lights = board.lights :=
  (lights_settle_subscribe ..).trans <| (lights_settle_share ..).trans <|
    (lights_settle_share ..).trans (lights_settle_share ..)

/-- Releasing the keyed-hash unit leaves the lights as they are. -/
theorem lights_releaseMacUnit (board : Board) : board.releaseMacUnit.lights = board.lights :=
  (lights_settle_subscribe ..).trans <| (lights_settle_share ..).trans <|
    (lights_settle_share ..).trans (lights_settle_share ..)

end Board

namespace BoardAct

variable {α : Type}

/-- No light is changed, whichever way an act ends. -/
abbrev LeavesLights (act : BoardAct α) : Prop := Leaves Board.lights act

namespace LeavesLights

/-- An act that gives a command leaves the lights if the command does. -/
theorem command {change : Board → Except ReturnCode (α × Board)}
    (kept : ∀ board value after, change board = .ok (value, after) →
      after.lights = board.lights) : LeavesLights (BoardAct.command change) := by
  intro board
  unfold BoardAct.command
  cases accepted : change board with
  | ok answered => exact kept board answered.1 answered.2 accepted
  | error code => rfl

/-- Looking at a board leaves its lights. -/
theorem look (view : Board → α) : LeavesLights (BoardAct.look view) := fun _ => rfl

/-- Printing a text leaves the lights as they are. -/
theorem print (text : String) : LeavesLights (BoardAct.print text) := fun _ => rfl

/-- Printing a line leaves the lights as they are. -/
theorem printLine (line : String) : LeavesLights (BoardAct.printLine line) := fun _ => rfl

/-- Drawing a ticket leaves the lights as they are. -/
theorem drawTicket : LeavesLights BoardAct.drawTicket := fun _ => rfl

/-- Subscribing to a driver leaves the lights as they are. -/
theorem subscribe (channel : Channel Nat) (subscriber : Option Subscriber) :
    LeavesLights (BoardAct.subscribe channel subscriber) :=
  .bind (command fun _ _ _ => lights_subscribe) fun _ => .pure ()

/-- Sharing a buffer leaves the lights, whatever the outcome. -/
theorem share (buffer : Buffer) (bytes : Bytes) : LeavesLights (BoardAct.share buffer bytes) :=
  command fun _ _ _ => lights_share

/-- Starting an operation leaves the lights, whatever the outcome. -/
theorem start (operation : Operation) : LeavesLights (BoardAct.start operation) :=
  command fun _ _ _ => lights_start

/-- However long a wait is, the lights are what they were before. -/
theorem waitUntil (condition : Condition) :
    LeavesLights (BoardAct.wait (·.waitUntil condition)) := by
  intro board
  have same := lights_watch condition (fun _ => false) 0 board
  unfold BoardAct.wait
  split <;> exact same

/-- An operation that is awaited leaves the lights if what registers it does. -/
theorem awaitUpcall {register : Ticket → BoardAct Unit}
    (leaves : ∀ ticket, LeavesLights (register ticket)) :
    LeavesLights (BoardAct.awaitUpcall register) := by
  rw [awaitUpcall_eq]
  exact .bind drawTicket fun ticket => .bind (leaves ticket) fun _ =>
    .bind (waitUntil _) fun _ => .pure ticket

/-- Looking at how an operation has ended leaves the lights as they are. -/
theorem completed (ticket : Ticket) (fault : ReturnCode → Fault) :
    LeavesLights (BoardAct.completed ticket fault) := by
  refine .bind (look _) fun arguments => ?_
  split
  · exact .pure _
  · exact .fail _

/-- A delay leaves the lights, also when it is refused. -/
theorem delay (milliseconds : Nat) : LeavesLights (BoardAct.delay milliseconds) := by
  refine .bind (.ofExcept _) fun ticks => Leaves.releasing ?_ lights_releaseAlarm
  refine .bind (awaitUpcall fun ticket => ?_) fun _ => .pure ()
  refine .bind (subscribe _ _) fun _ =>
    .bind (command fun board _ after armed => ?_) fun _ => .pure ()
  obtain ⟨_, _, same⟩ := bind_eq_ok armed
  cases same
  rfl

/-- Reading a character leaves the lights as they are. -/
theorem readCharacter : LeavesLights BoardAct.readCharacter := by
  refine .releasing (.bind (awaitUpcall fun ticket => ?_) fun _ => ?_) lights_releaseConsole
  · exact .bind (subscribe _ _) fun _ => .bind (share _ _) fun _ => start _
  · refine .bind (share _ _) fun buffer => ?_
    cases buffer with
    | nil => exact .fail _
    | cons byte rest => exact .pure byte

/-- Typing a text leaves the lights as they are. -/
theorem typeText (text : String) : LeavesLights (BoardAct.typeText text) := by
  refine .releasing (.bind (awaitUpcall fun ticket => ?_) fun ticket => ?_) lights_releaseKeyboard
  · exact .bind (subscribe _ _) fun _ => .bind (share _ _) fun _ => start _
  · exact .bind (completed _ _) fun _ => .pure ()

/-- Reading a value from the store leaves the lights as they are. -/
theorem getValue (key : Bytes) (size : Nat) : LeavesLights (BoardAct.getValue key size) := by
  refine .releasing (.bind (.mapFault _ (awaitUpcall fun ticket => ?_)) fun ticket => ?_)
    lights_releaseKeyValue
  · exact .bind (subscribe _ _) fun _ => .bind (share _ _) fun _ =>
      .bind (share _ _) fun _ => start _
  · exact .bind (.mapFault _ (share _ _)) fun _ => .bind (completed _ _) fun _ => .pure _

/-- Writing a value to the store leaves the lights as they are. -/
theorem setValue (key value : Bytes) : LeavesLights (BoardAct.setValue key value) := by
  refine .releasing (.bind (.mapFault _ (awaitUpcall fun ticket => ?_)) fun ticket => ?_)
    lights_releaseKeyValue
  · exact .bind (subscribe _ _) fun _ => .bind (share _ _) fun _ =>
      .bind (share _ _) fun _ => start _
  · exact .bind (completed _ _) fun _ => .pure ()

/-- Computing a keyed hash leaves the lights as they are. -/
theorem computeMac (key message : Bytes) : LeavesLights (BoardAct.computeMac key message) := by
  refine .releasing (.bind (awaitUpcall fun ticket => ?_) fun ticket => ?_) lights_releaseMacUnit
  · refine .bind (subscribe _ _) fun _ => .bind (share _ _) fun _ => .bind (share _ _) fun _ =>
      .bind (share _ _) fun _ => .bind (command fun board _ after chosen => ?_) fun _ => start _
    obtain ⟨_, _, same⟩ := bind_eq_ok chosen
    cases same
    rfl
  · refine .bind (share _ _) fun _ => .bind (completed _ _) fun _ => ?_
    split
    · exact .pure _
    · exact .fail _

/-- Deriving a code leaves the lights as they are. -/
theorem generateCode (secret : Bytes) (counter : UInt64) (digits : Nat) :
    LeavesLights (BoardAct.generateCode secret counter digits) :=
  .bind (.ofExcept _) fun _ => .bind (computeMac _ _) fun _ => .ofExcept _

/-- Delivering a code leaves the lights, on either way. -/
theorem deliver (code : Code) (counter : UInt64) :
    LeavesLights (Delivery.deliver code counter) := by
  refine .bind (look _) fun unattached => ?_
  split
  · exact .bind (printLine _) fun _ => .pure _
  · exact .bind (typeText _) fun _ => .bind (printLine _) fun _ => .pure _

/-- Saving a credential leaves the lights as they are. -/
theorem save (slot : Nat) (credential : Credential) :
    LeavesLights (Keystore.save slot credential) := setValue _ _

/-- Loading a credential leaves the lights as they are. -/
theorem load (slot : Slot) : LeavesLights (Keystore.load slot) := by
  refine .bind (.attempt (getValue _ _)) fun found => ?_
  cases found with
  | ok value => exact .pure _
  | error fault =>
    dsimp only
    split
    · exact .pure _
    · exact .fail fault

/-- Reading a secret leaves the lights as they are. -/
theorem readLine : LeavesLights SecretEntry.readLine :=
  .bind (SecretEntry.follows_readRest readCharacter print "") fun line =>
    .bind (print _) fun _ => .pure line

/-- Beginning a watch over the buttons leaves the lights as they are. -/
theorem beginWatch : LeavesLights ButtonWatch.begin :=
  .bind drawTicket fun _ => .bind (subscribe _ _) fun _ => .bind (fun _ => rfl) fun _ => .pure _

/-- Waiting for a press and classifying it leaves the lights as they are. -/
theorem nextEvent (watch : ButtonWatch) : LeavesLights watch.nextEvent := by
  refine .bind (.bind (look _) fun _ => .bind (waitUntil _) fun _ => look _) fun button => ?_
  refine .bind (delay _) fun _ => .bind (command fun board _ after read => ?_) fun _ => .pure _
  obtain ⟨_, _, same⟩ := bind_eq_ok read
  cases same
  rfl

end LeavesLights

end BoardAct

end OtpToken
