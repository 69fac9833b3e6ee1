import OtpToken.Proofs.Blocking.Calls
import OtpToken.Proofs.Blocking.Delay
import OtpToken.Proofs.Blocking.Input

/-!
# Supplies that fail

A supply that does not last cuts an act short at a yield, and makes no other difference:
up to there the act goes as it would on a supplied board. This is shown for the acts
that wait for presses and read secrets (`Spares`), which leave the key-value unit alone
as well. What they come to on a board that stays at rest is then known for every supply
(`Spares.quiet`).
-/

namespace OtpToken

open Act

namespace Board

variable {board : Board}

/-- The board with another supply. -/
def withCharge (board : Board) (charge : Option Nat) : Board := { board with charge := charge }

/-- A supplied board is what it is with a supply that does not fail. -/
theorem withCharge_of_supplied (supplied : board.charge = none) : board.withCharge none = board := by
  rw [withCharge, ← supplied]

/-- A ready board with no pending read, whatever its supply. -/
structure Quiet (board : Board) : Prop where
  ready : board.Ready
  unread : board.console.reading = false

/-- Whether a board is ready does not depend on its supply. -/
theorem Ready.withCharge (ready : board.Ready) (charge : Option Nat) :
    (board.withCharge charge).Ready where
  sound := { ready.sound with }
  fresh task subscriber here := ready.fresh task subscriber (by cases task <;> exact here)
  idle source notAlarms notButtons := by
    have none := ready.idle source notAlarms notButtons
    cases source <;> exact none

/-- Whether a board is quiet does not depend on its supply. -/
theorem Quiet.withCharge (quiet : board.Quiet) (charge : Option Nat) :
    (board.withCharge charge).Quiet := ⟨quiet.ready.withCharge charge, quiet.unread⟩

/-- Another store leaves a quiet board quiet. -/
theorem Quiet.setStore (quiet : board.Quiet) (store : Store) :
    (board.setStore store).Quiet where
  ready := {
    sound := quiet.ready.sound.setStore store
    fresh := fun task subscriber here =>
      quiet.ready.fresh task subscriber (by cases task <;> exact here)
    idle := fun source notAlarms notButtons => by
      have none := quiet.ready.idle source notAlarms notButtons
      cases source <;> exact none }
  unread := quiet.unread

/-- A board at rest is quiet. -/
theorem AtRest.quiet (rest : board.AtRest) : board.Quiet := ⟨rest.ready, rest.unread⟩

/-- On a supply that does not fail a quiet board is at rest. -/
theorem Quiet.powered (quiet : board.Quiet) : (board.withCharge none).AtRest :=
  ⟨quiet.ready.withCharge none, rfl, quiet.unread⟩

/-- A quiet board stays quiet as long as it goes on. -/
theorem Quiet.continues {after : Board} (quiet : board.Quiet) (continues : board.Continues after) :
    after.Quiet := ⟨continues.ready, continues.reading.trans quiet.unread⟩

/-- A board that has just been switched on is quiet on every supply. -/
theorem Quiet.initial (store : Store) (input : Bytes) (buttons : Nat) (hasKeyboard : Bool)
    (charge : Option Nat) : ((Board.initial store input buttons hasKeyboard).withCharge charge).Quiet :=
  (AtRest.initial store input buttons hasKeyboard).quiet.withCharge charge

/-- A board at rest that somebody waits on does not stop. -/
theorem AtRest.watch_runs (rest : board.AtRest) (condition : Condition) (isUp : History → Bool)
    (polls : Nat) (trap : Trap) :
    (board.watch condition isUp polls).result ≠ .error (.trap trap) := by
  fun_induction Board.watch condition isUp polls board with
  | case1 | case2 | case4 => simp
  | case3 polls board _ _ served yielded ih =>
    obtain ⟨_, _, yielded', _, restServed, _⟩ := rest.yield
    rw [yielded] at yielded'
    cases yielded'
    exact ih restServed
  | case5 polls board _ _ trap after yielded =>
    obtain ⟨_, _, yielded', running, _⟩ := rest.yield
    rw [yielded] at yielded'
    cases yielded'
    exact absurd rfl (running trap)

/-- An operation completes alike on every supply, and uses up a part of it. -/
theorem complete_withCharge (board : Board) (due : Nat) (source : Source) (charge : Option Nat) :
    ∃ rest, (charge = none → rest = none) ∧ (board.withCharge charge).complete due source =
      ((board.complete due source).1, (board.complete due source).2.withCharge rest) := by
  have serves : ((board.withCharge charge).advanceTo due).service source =
      ((board.advanceTo due).service source).map (·.withCharge charge) := by
    cases source with
    | alarms | keyValue => rfl
    | buttons =>
      simp only [service, advanceTo, withCharge]
      cases board.buttons.service <;> rfl
    | console =>
      simp only [service, advanceTo, withCharge]
      cases board.console.service <;> rfl
    | macUnit =>
      simp only [service, advanceTo, withCharge]
      cases board.macUnit.service <;> rfl
    | keyboard =>
      simp only [service, advanceTo, withCharge]
      cases board.keyboard <;> rfl
  unfold complete
  rw [serves]
  cases (board.advanceTo due).service source with
  | ok after => exact ⟨charge.map Nat.pred, fun none => by rw [none]; rfl, rfl⟩
  | error trap => exact ⟨charge, id, rfl⟩

/-- A stimulus is found alike on every supply. -/
theorem stimulate_withCharge (board : Board) (charge : Option Nat) :
    (board.withCharge charge).stimulate =
      (board.stimulate.1, board.stimulate.2.withCharge charge) := by
  simp only [stimulate, withCharge]
  by_cases hungry : board.console.isHungry
  · simp only [hungry, if_true]
    cases board.console.feed? board.clock <;> rfl
  · simp only [hungry, Bool.false_eq_true, if_false]
    obtain ⟨gesture, rest⟩ := takeGesture board.console.input
    cases gesture <;> rfl

/-- What is served next does not depend on the supply. -/
theorem serveNext_withCharge (board : Board) (charge : Option Nat) :
    ∃ rest, (charge = none → rest = none) ∧ (board.withCharge charge).serveNext =
      (board.serveNext.1, board.serveNext.2.withCharge rest) := by
  have due : ∀ board : Board, (board.withCharge charge).nextDue? = board.nextDue? := fun _ => rfl
  unfold serveNext
  rw [due, stimulate_withCharge]
  cases board.nextDue? with
  | some entry => exact complete_withCharge board entry.1 entry.2 charge
  | none =>
    generalize board.stimulate = stimulus
    obtain ⟨found, after⟩ := stimulus
    cases found with
    | false => exact ⟨charge, id, rfl⟩
    | true =>
      simp only [due]
      cases after.nextDue? with
      | some entry => exact complete_withCharge after entry.1 entry.2 charge
      | none => exact ⟨charge, id, rfl⟩

/-- Unless the supply has failed, a yield goes as on a supplied board. -/
theorem yield_withCharge (supplied : board.charge = none) (charge : Option Nat) :
    charge = some 0 ∧
      (board.withCharge charge).yield = (.stopped .powerLoss, board.withCharge charge) ∨
    ∃ rest, (charge = none → rest = none) ∧
      (board.withCharge charge).yield = (board.yield.1, board.yield.2.withCharge rest) := by
  by_cases empty : charge = some 0
  · exact .inl ⟨empty, if_pos empty⟩
  · have own : board.yield = board.serveNext := if_neg (by simp [supplied])
    have charged : (board.withCharge charge).yield = (board.withCharge charge).serveNext :=
      if_neg empty
    rw [own, charged]
    exact .inr (serveNext_withCharge board charge)

/-- A reliable supply stays so. -/
theorem charge_yield (supplied : board.charge = none) : board.yield.2.charge = none := by
  rcases yield_withCharge supplied none with ⟨empty, _⟩ | ⟨rest, none, same⟩
  · cases empty
  · rw [withCharge_of_supplied supplied] at same
    rw [same, none rfl]
    rfl

/-- An operation of another driver leaves the key-value unit as it is. -/
theorem keyValue_complete (board : Board) (due : Nat) {source : Source} (apart : source ≠ .keyValue) :
    (board.complete due source).2.keyValue = board.keyValue := by
  have served : ∀ after, (board.advanceTo due).service source = .ok after →
      after.keyValue = board.keyValue := by
    intro after serves
    cases source with
    | alarms => cases serves; rfl
    | buttons => obtain ⟨_, _, same⟩ := bind_eq_ok serves; cases same; rfl
    | console => obtain ⟨_, _, same⟩ := bind_eq_ok serves; cases same; rfl
    | macUnit => obtain ⟨_, _, same⟩ := bind_eq_ok serves; cases same; rfl
    | keyboard =>
      simp only [service, advanceTo] at serves
      split at serves <;> cases serves <;> rfl
    | keyValue => exact absurd rfl apart
  unfold complete
  split
  next after serves => exact served after serves
  next => rfl

/-- While nothing is outstanding at the key-value unit, it is left alone. -/
theorem keyValue_yield (idle : board.keyValue.pending = none) :
    board.yield.2.keyValue = board.keyValue := by
  have completes : ∀ {board : Board} {due source}, board.keyValue.pending = none →
      board.nextDue? = some (due, source) →
      (board.complete due source).2.keyValue = board.keyValue := by
    intro board due source idle next
    refine keyValue_complete board due fun same => ?_
    have deadline := mem_deadlines.mp (nextDue?_mem next)
    rw [same] at deadline
    simp [KeyValue.deadline, idle] at deadline
  have stimulated : board.stimulate.2.keyValue = board.keyValue := by
    unfold stimulate
    split <;> split <;> rfl
  unfold yield serveNext
  split
  · rfl
  · split
    next due source next => exact completes idle next
    next =>
      generalize board.stimulate = stimulus at stimulated
      obtain ⟨found, after⟩ := stimulus
      cases found with
      | false => exact stimulated
      | true =>
        dsimp only at stimulated ⊢
        split
        next due source next =>
          exact (completes (by rw [stimulated, idle]) next).trans stimulated
        next => exact stimulated

end Board

namespace Act

variable {σ α : Type}

/-- An act has ended alike in another state. -/
def alike (change : σ → σ) : EStateM.Result Failure σ α → EStateM.Result Failure σ α
  | .ok value after => .ok value (change after)
  | .error failure after => .error failure (change after)

end Act

namespace BoardAct

open Board

variable {α β : Type}

/-- How an act ends on a supply, given how it ends on a supplied board: alike, or the supply fails
before. -/
def Lasts (act : BoardAct α) (board : Board) (charge : Option Nat) : Prop :=
  (∃ rest, (charge = none → rest = none) ∧
    act (board.withCharge charge) = alike (·.withCharge rest) (act board)) ∨
  charge ≠ none ∧ ∃ mid, act (board.withCharge charge) = .error (.trap .powerLoss) mid ∧
    mid.keyValue = board.keyValue

/-- On a board, an act leaves the idle key-value unit alone, and a supply that fails cuts it short but
does not change it otherwise. -/
def SparesAt (act : BoardAct α) (board : Board) : Prop :=
  board.charge = none → board.keyValue.pending = none →
    (ending (act board)).keyValue = board.keyValue ∧ (ending (act board)).charge = none ∧
      ∀ charge, Lasts act board charge

/-- It does so on every board. -/
def Spares (act : BoardAct α) : Prop := ∀ board, SparesAt act board

/-- A change of the board that neither sees nor touches its supply or the key-value unit. -/
structure Apart (change : Board → Board) : Prop where
  blind : ∀ board charge, change (board.withCharge charge) = (change board).withCharge charge
  unit : ∀ board, (change board).keyValue = board.keyValue

/-- A command that neither sees nor touches them. -/
structure Aside (change : Board → Except ReturnCode (α × Board)) : Prop where
  blind : ∀ board charge, change (board.withCharge charge) =
    (change board).map fun (value, after) => (value, after.withCharge charge)
  unit : ∀ board value after, change board = .ok (value, after) → after.keyValue = board.keyValue

/-- A change that neither sees nor touches the supply leaves a reliable one reliable. -/
theorem Apart.charge {change : Board → Board} (apart : Apart change) {board : Board}
    (supplied : board.charge = none) : (change board).charge = none := by
  have same := apart.blind board none
  rw [withCharge_of_supplied supplied] at same
  rw [same]
  rfl

/-- Changes that are apart from the supply and the key-value unit may follow one another. -/
theorem Apart.comp {first second : Board → Board} (one : Apart first) (two : Apart second) :
    Apart fun board => second (first board) where
  blind board charge := by rw [one.blind, two.blind]
  unit board := by rw [two.unit, one.unit]

/-- A command aside of the supply changes the board apart from it, whether or not it is accepted. -/
theorem Aside.settle {change : Board → Except ReturnCode (α × Board)} (aside : Aside change) :
    Apart fun board => board.settle (change board) where
  blind board charge := by
    rw [aside.blind]
    cases change board <;> rfl
  unit board := by
    unfold Board.settle
    split
    next value after accepted => exact aside.unit board value after accepted
    next => rfl

/-- A subscription to any driver but the key-value unit is aside. -/
theorem aside_subscribe (channel : Channel Nat) (subscriber : Option Subscriber)
    (apart : channel ≠ .keyValue) : Aside (·.subscribe channel subscriber) where
  blind board charge := by
    cases channel with
    | alarm place =>
      simp only [Board.subscribe, Board.withCharge]
      cases board.alarms.subscribe place subscriber <;> rfl
    | keyboard =>
      simp only [Board.subscribe, Board.withCharge]
      cases board.keyboard <;> rfl
    | buttons | console | macUnit | keyValue => rfl
  unit board value after accepted := by
    cases channel with
    | alarm place => obtain ⟨_, _, same⟩ := bind_eq_ok accepted; cases same; rfl
    | keyboard =>
      simp only [Board.subscribe] at accepted
      split at accepted <;> cases accepted
      rfl
    | buttons | console | macUnit => cases accepted; rfl
    | keyValue => exact absurd rfl apart

/-- The buffer of the console is shared aside. -/
theorem aside_shareCharacter (bytes : Bytes) : Aside (·.share .character bytes) where
  blind board charge := by
    simp only [Board.share, Board.withCharge]
    cases board.console.share bytes <;> rfl
  unit board value after accepted := by
    obtain ⟨_, _, same⟩ := bind_eq_ok accepted
    cases same
    rfl

/-- A read is started aside. -/
theorem aside_startRead : Aside (·.start .readCharacter) where
  blind board charge := by
    simp only [Board.start, Board.withCharge]
    cases board.console.read <;> rfl
  unit board value after accepted := by
    obtain ⟨_, _, same⟩ := bind_eq_ok accepted
    cases same
    rfl

/-- A read is aborted aside. -/
theorem aside_abortRead : Aside Board.abortRead where
  blind board charge := by
    simp only [Board.abortRead, Board.withCharge]
    cases board.console.abort <;> rfl
  unit board value after accepted := by
    obtain ⟨_, _, same⟩ := bind_eq_ok accepted
    cases same
    rfl

/-- An alarm is armed aside. -/
theorem aside_armAlarm (place ticks : Nat) : Aside (·.armAlarm place ticks) where
  blind board charge := by
    simp only [Board.armAlarm, Board.withCharge]
    cases board.alarms.arm place (board.clock + ticks) <;> rfl
  unit board value after accepted := by
    obtain ⟨_, _, same⟩ := bind_eq_ok accepted
    cases same
    rfl

/-- An alarm is cancelled aside. -/
theorem aside_cancelAlarm (place : Nat) : Aside (·.cancelAlarm place) where
  blind board charge := by
    simp only [Board.cancelAlarm, Board.withCharge]
    cases board.alarms.cancel place <;> rfl
  unit board value after accepted := by
    obtain ⟨_, _, same⟩ := bind_eq_ok accepted
    cases same
    rfl

/-- A button is looked at aside. -/
theorem aside_readButton (button : Nat) :
    Aside fun board : Board => return (← board.buttons.read button, board) where
  blind board charge := by
    simp only [Board.withCharge]
    cases board.buttons.read button <;> rfl
  unit board value after accepted := by
    obtain ⟨_, _, same⟩ := bind_eq_ok accepted
    cases same
    rfl

/-- The default alarm is released apart from the supply and the key-value unit. -/
theorem apart_releaseAlarm : Apart Board.releaseAlarm :=
  (aside_cancelAlarm Alarms.defaultPlace).settle.comp
    (aside_subscribe (.alarm Alarms.defaultPlace) none (by simp)).settle

/-- Releasing the console neither sees nor touches the supply or the key-value unit. -/
theorem apart_releaseConsole : Apart Board.releaseConsole :=
  (aside_abortRead.settle.comp (aside_shareCharacter []).settle).comp
    (aside_subscribe .console none (by simp)).settle

namespace Spares

/-- What is handed out by an act that has no part in the supply. -/
theorem alter (value : Board → α) {change : Board → Board} (apart : Apart change)
    (blind : ∀ board charge, value (board.withCharge charge) = value board) :
    Spares fun board => .ok (value board) (change board) := by
  intro board supplied _
  refine ⟨apart.unit board, apart.charge supplied, fun charge => .inl ⟨charge, id, ?_⟩⟩
  simp only [blind, apart.blind, alike]

/-- Handing out a value takes no supply. -/
theorem pure (value : α) : Spares (Pure.pure value) :=
  fun _ supplied _ => ⟨rfl, supplied, fun charge => .inl ⟨charge, id, rfl⟩⟩

/-- Failing takes no supply. -/
theorem fail (fault : Fault) : Spares (α := α) (Act.fail fault) :=
  fun _ supplied _ => ⟨rfl, supplied, fun charge => .inl ⟨charge, id, rfl⟩⟩

/-- Handing on an answer takes no supply. -/
theorem ofExcept (answer : Except Fault α) : Spares (Act.ofExcept answer) := by
  cases answer with
  | ok value => exact .pure value
  | error fault => exact .fail fault

/-- A look at anything but the supply spares it. -/
theorem look {view : Board → α} (blind : ∀ board charge, view (board.withCharge charge) = view board) :
    Spares (BoardAct.look view) :=
  alter view (⟨fun _ _ => rfl, fun _ => rfl⟩ : Apart fun board => board) blind

/-- A change apart from the supply spares it. -/
theorem change {change : Board → Board} (apart : Apart change) : Spares (BoardAct.change change) :=
  alter (fun _ => ()) apart fun _ _ => rfl

/-- A ticket is drawn on every supply. -/
theorem drawTicket : Spares BoardAct.drawTicket :=
  alter (·.drawTicket.1) (⟨fun _ _ => rfl, fun _ => rfl⟩ : Apart (·.drawTicket.2)) fun _ _ => rfl

/-- A command aside of the supply spares it. -/
theorem command {change : Board → Except ReturnCode (α × Board)} (aside : Aside change) :
    Spares (BoardAct.command change) := by
  intro board supplied _
  have settled := aside.settle
  have unit := settled.unit board
  have charge := settled.charge supplied
  simp only [Lasts, BoardAct.command, aside.blind]
  cases accepted : change board with
  | ok answer =>
    rw [accepted] at unit charge
    exact ⟨unit, charge, fun charge => .inl ⟨charge, id, rfl⟩⟩
  | error code => exact ⟨rfl, supplied, fun charge => .inl ⟨charge, id, rfl⟩⟩

/-- If the first of two acts spares a board, and the second the board that it leads to, both do. -/
theorem at_bind {act : BoardAct α} {next : α → BoardAct β} {board : Board} (first : SparesAt act board)
    (second : ∀ value mid, act board = .ok value mid → SparesAt (next value) mid) :
    SparesAt (act >>= next) board := by
  intro supplied idle
  obtain ⟨unit, discharged, lasts⟩ := first supplied idle
  cases ran : act board with
  | error failure after =>
    rw [ran] at unit discharged
    have ended : (act >>= next) board = .error failure after := bind_of_error ran
    refine ⟨by rw [ended]; exact unit, by rw [ended]; exact discharged, fun charge => ?_⟩
    rcases lasts charge with ⟨rest, none, same⟩ | ⟨charged, mid, cut, left⟩
    · rw [ran] at same
      exact .inl ⟨rest, none, by rw [ended]; exact bind_of_error same⟩
    · exact .inr ⟨charged, mid, bind_of_error cut, left⟩
  | ok value mid =>
    rw [ran] at unit discharged
    have kept : mid.keyValue = board.keyValue := unit
    obtain ⟨unit, discharged, further⟩ :=
      second value mid ran discharged (by rw [kept, idle])
    have goes : (act >>= next) board = next value mid := bind_of_ok ran
    refine ⟨by rw [goes]; exact unit.trans kept, by rw [goes]; exact discharged, fun charge => ?_⟩
    rcases lasts charge with ⟨rest, none, same⟩ | ⟨charged, after, cut, left⟩
    · rw [ran] at same
      rcases further rest with ⟨last, still, same'⟩ | ⟨charged, after, cut, left⟩
      · refine .inl ⟨last, fun h => still (none h), ?_⟩
        rw [goes]
        exact (bind_of_ok same).trans same'
      · exact .inr ⟨fun h => charged (none h), after, (bind_of_ok same).trans cut, left.trans kept⟩
    · exact .inr ⟨charged, after, bind_of_error cut, left⟩

/-- Acts that spare every board may follow one another. -/
theorem bind {act : BoardAct α} {next : α → BoardAct β} (first : Spares act)
    (second : ∀ value, Spares (next value)) : Spares (act >>= next) :=
  fun board => at_bind (first board) fun value mid _ => second value mid

/-- A clean-up that is apart from the supply may follow an act. -/
theorem releasing {act : BoardAct α} {release : Board → Board} (spares : Spares act)
    (apart : Apart release) : Spares (Act.releasing release act) := by
  intro board supplied idle
  obtain ⟨unit, discharged, lasts⟩ := spares board supplied idle
  have released : ∀ board, Act.releasing release act board = alike release (act board) := by
    intro board
    unfold Act.releasing
    cases act board <;> rfl
  have left : ending (alike release (act board)) = release (ending (act board)) := by
    cases act board <;> rfl
  refine ⟨?_, ?_, fun charge => ?_⟩
  · rw [released, left]
    exact (apart.unit _).trans unit
  · rw [released, left]
    exact apart.charge discharged
  · simp only [Lasts, released]
    rcases lasts charge with ⟨rest, none, same⟩ | ⟨charged, mid, cut, left⟩
    · refine .inl ⟨rest, none, ?_⟩
      rw [same]
      cases act board <;> simp only [alike, apart.blind]
    · rw [cut]
      exact .inr ⟨charged, release mid, rfl, (apart.unit mid).trans left⟩

/-- A yield leaves the key-value unit alone, and the supply only decides whether it is cut short. -/
theorem yield_spares {board after : Board} {yielded : Yielded} (supplied : board.charge = none)
    (idle : board.keyValue.pending = none) (yields : board.yield = (yielded, after)) :
    after.keyValue = board.keyValue ∧ after.charge = none ∧ ∀ charge,
      charge ≠ none ∧
        (board.withCharge charge).yield = (.stopped .powerLoss, board.withCharge charge) ∨
      ∃ rest, (charge = none → rest = none) ∧
        (board.withCharge charge).yield = (yielded, after.withCharge rest) := by
  have unit := keyValue_yield idle
  have discharged := charge_yield supplied
  rw [yields] at unit discharged
  refine ⟨unit, discharged, fun charge => ?_⟩
  rcases yield_withCharge supplied charge with ⟨rfl, spent⟩ | ⟨rest, none, charged⟩
  · exact .inl ⟨Option.some_ne_none 0, spent⟩
  · rw [yields] at charged
    exact .inr ⟨rest, none, charged⟩

/-- However long somebody waits, the supply only decides whether the wait is cut short. -/
theorem watch (condition : Condition) (polls : Nat) (board : Board) (supplied : board.charge = none)
    (idle : board.keyValue.pending = none) :
    let watched := board.watch condition (fun _ => false) polls
    watched.board.keyValue = board.keyValue ∧ watched.board.charge = none ∧ ∀ charge,
      (∃ rest, (charge = none → rest = none) ∧
        (board.withCharge charge).watch condition (fun _ => false) polls =
          { watched with board := watched.board.withCharge rest }) ∨
      charge ≠ none ∧ ∃ polls' mid, (board.withCharge charge).watch condition (fun _ => false) polls =
        ⟨.error (.trap .powerLoss), polls', mid⟩ ∧ mid.keyValue = board.keyValue := by
  intro watched
  unfold watched
  fun_induction Board.watch condition (fun _ => false) polls board with
  | case1 polls board holds =>
    exact ⟨rfl, supplied, fun charge => .inl ⟨charge, id, watch_of_holds holds⟩⟩
  | case2 polls board _ up => cases up
  | case3 polls board unmet _ served yielded ih =>
    obtain ⟨unit, discharged, charged⟩ := yield_spares supplied idle yielded
    obtain ⟨unitAfter, dischargedAfter, lasts⟩ := ih discharged (by rw [unit, idle])
    refine ⟨unitAfter.trans unit, dischargedAfter, fun charge => ?_⟩
    have unmet : condition polls (board.withCharge charge).calls = false :=
      Bool.eq_false_iff.mpr unmet
    rcases charged charge with ⟨some, cut⟩ | ⟨rest, none, same⟩
    · exact .inr ⟨some, _, _, watch_of_stopped unmet rfl cut, rfl⟩
    · rw [watch_of_serviced unmet rfl same]
      rcases lasts rest with ⟨last, still, same⟩ | ⟨cut, polls', mid, ran, left⟩
      · exact .inl ⟨last, fun h => still (none h), same⟩
      · exact .inr ⟨fun h => cut (none h), polls', mid, ran, left.trans unit⟩
  | case4 polls board unmet _ after yielded =>
    obtain ⟨unit, discharged, charged⟩ := yield_spares supplied idle yielded
    refine ⟨unit, discharged, fun charge => ?_⟩
    have unmet : condition polls (board.withCharge charge).calls = false :=
      Bool.eq_false_iff.mpr unmet
    rcases charged charge with ⟨some, cut⟩ | ⟨rest, none, same⟩
    · exact .inr ⟨some, _, _, watch_of_stopped unmet rfl cut, rfl⟩
    · exact .inl ⟨rest, none, watch_of_idle unmet rfl same⟩
  | case5 polls board unmet _ trap after yielded =>
    obtain ⟨unit, discharged, charged⟩ := yield_spares supplied idle yielded
    refine ⟨unit, discharged, fun charge => ?_⟩
    have unmet : condition polls (board.withCharge charge).calls = false :=
      Bool.eq_false_iff.mpr unmet
    rcases charged charge with ⟨some, cut⟩ | ⟨rest, none, same⟩
    · exact .inr ⟨some, _, _, watch_of_stopped unmet rfl cut, rfl⟩
    · exact .inl ⟨rest, none, watch_of_stopped unmet rfl same⟩

/-- The supply only decides whether a wait is cut short. -/
theorem waitUntil (condition : Condition) : Spares (BoardAct.wait (·.waitUntil condition)) := by
  intro board supplied idle
  obtain ⟨unit, discharged, lasts⟩ := watch condition 0 board supplied idle
  simp only [Lasts, BoardAct.wait, Board.waitUntil]
  generalize board.watch condition (fun _ => false) 0 = watched at unit discharged lasts
  obtain ⟨result, polls, left⟩ := watched
  have ended : ∀ charge, (∃ rest, (charge = none → rest = none) ∧
      (board.withCharge charge).watch condition (fun _ => false) 0 =
        ⟨result, polls, left.withCharge rest⟩) ∨ _ := lasts
  refine ⟨by cases result <;> exact unit, by cases result <;> exact discharged, fun charge => ?_⟩
  rcases ended charge with ⟨rest, none, same⟩ | ⟨charged, _, mid, cut, kept⟩
  · refine .inl ⟨rest, none, ?_⟩
    rw [same]
    cases result <;> rfl
  · exact .inr ⟨charged, mid, by rw [cut], kept⟩

/-- An operation may be awaited if what registers it spares the board. -/
theorem awaitUpcall {register : Ticket → BoardAct Unit} (spares : ∀ ticket, Spares (register ticket)) :
    Spares (BoardAct.awaitUpcall register) := by
  rw [awaitUpcall_eq]
  exact .bind .drawTicket fun ticket => .bind (spares ticket) fun _ =>
    .bind (.waitUntil _) fun _ => .pure ticket

/-- To subscribe to any driver but the key-value unit spares it. -/
theorem subscribe {channel : Channel Nat} (subscriber : Option Subscriber)
    (apart : channel ≠ .keyValue) : Spares (BoardAct.subscribe channel subscriber) :=
  .bind (.command (aside_subscribe channel subscriber apart)) fun _ => .pure ()

end Spares

/-- A delay leaves the key-value unit alone, and the supply can only cut it short. -/
theorem spares_delay (milliseconds : Nat) : Spares (delay milliseconds) := by
  refine .bind (.ofExcept _) fun ticks => .releasing ?_ apart_releaseAlarm
  refine .bind (.awaitUpcall fun ticket => ?_) fun _ => .pure ()
  exact .bind (.subscribe _ (by simp)) fun _ =>
    .bind (.command (aside_armAlarm _ _)) fun _ => .pure ()

/-- A read of one character leaves the key-value unit alone, and the supply can only cut it short.
-/
theorem spares_readCharacter : Spares readCharacter := by
  refine .releasing (.bind (.awaitUpcall fun ticket => ?_) fun _ => ?_) apart_releaseConsole
  · exact .bind (.subscribe _ (by simp)) fun _ =>
      .bind (.command (aside_shareCharacter _)) fun _ => .command aside_startRead
  · refine .bind (.command (aside_shareCharacter _)) fun buffer => ?_
    cases buffer with
    | nil => exact .fail _
    | cons byte rest => exact .pure byte

/-- Printing is apart from the supply and the key-value unit. -/
theorem apart_print (text : String) : Apart (·.print text) := ⟨fun _ _ => rfl, fun _ => rfl⟩

/-- Reading the rest of a line, as an act. -/
def readOn (line : String) : BoardAct String := SecretEntry.readRest line

/-- What is done with a character that has been read after a line so far. -/
def takeCharacter (line : String) (byte : UInt8) : BoardAct String :=
  if SecretEntry.endsLine byte then pure line
  else if SecretEntry.isKept byte then do
    print (SecretEntry.echo byte)
    readOn (line ++ SecretEntry.echo byte)
  else readOn line

/-- The rest of a line is read from character to character. -/
theorem readOn_eq {line : String} (short : line.length < SecretEntry.maxLength) :
    readOn line = readCharacter >>= takeCharacter line := by
  funext board
  unfold readOn
  cases read : readCharacter board with
  | error failure after => rw [SecretEntry.readRest_of_error short read, bind_of_error read]
  | ok byte after =>
    rw [SecretEntry.readRest_of_ok short read, bind_of_ok read, takeCharacter]
    by_cases ends : SecretEntry.endsLine byte = true
    · rw [if_pos ends, if_pos ends]
      rfl
    · rw [if_neg ends, if_neg ends]
      by_cases kept : SecretEntry.isKept byte = true
      · rw [if_pos kept, if_pos kept]
        rfl
      · rw [if_neg kept, if_neg kept]
        rfl

/-- The rest of a line is read on every supply until that fails, character by character. -/
theorem spares_readOn (line : String) : Spares (readOn line) := by
  intro board
  have reads : ∀ {line : String} {board : Board} {byte : UInt8} {after : Board},
      line.length < SecretEntry.maxLength → readCharacter board = .ok byte after →
      SparesAt (takeCharacter line byte) after → SparesAt (readOn line) board := by
    intro line board byte after short read goes
    rw [readOn_eq short]
    refine Spares.at_bind (spares_readCharacter board) fun other mid found => ?_
    rw [read] at found
    cases found
    exact goes
  fun_induction SecretEntry.readRest line board with
  | case1 line board short failure after read =>
    have stops : SparesAt (readCharacter >>= takeCharacter line) board :=
      Spares.at_bind (spares_readCharacter board) fun byte mid found => by
        rw [read] at found
        cases found
    rw [← readOn_eq short] at stops
    exact stops
  | case2 line board short byte after read ends =>
    refine reads short read ?_
    rw [takeCharacter, if_pos ends]
    exact Spares.pure line after
  | case3 line board short byte after read goes kept ih =>
    refine reads short read ?_
    rw [takeCharacter, if_neg goes, if_pos kept]
    refine Spares.at_bind (Spares.change (apart_print _) after) fun _ mid printed => ?_
    cases printed
    exact ih
  | case4 line board short byte after read goes dropped ih =>
    refine reads short read ?_
    rw [takeCharacter, if_neg goes, if_neg dropped]
    exact ih
  | case5 line board full =>
    have whole : readOn line = pure line := by
      funext board
      rw [readOn, SecretEntry.readRest, if_neg full]
      rfl
    have ends := Spares.pure line board
    rw [← whole] at ends
    exact ends

/-- A whole line is read on every supply until that fails. -/
theorem spares_readLine : Spares SecretEntry.readLine :=
  .bind (spares_readOn "") fun line => .bind (.change (apart_print _)) fun _ => .pure line

end BoardAct

namespace ButtonWatch

open BoardAct

/-- A watch over the buttons takes no supply to begin with. -/
theorem spares_begin : Spares ButtonWatch.begin :=
  .bind .drawTicket fun ticket => .bind (.subscribe _ (by simp)) fun _ =>
    .bind (.change ⟨fun _ _ => rfl, fun _ => rfl⟩) fun _ => .pure _

/-- The supply can only cut short the wait for a press or the delay after it. -/
theorem spares_nextEvent (watch : ButtonWatch) : Spares watch.nextEvent := by
  refine .bind (.bind (.look fun _ _ => rfl) fun count => ?_) fun button => ?_
  · exact .bind (.waitUntil _) fun _ => .look fun _ _ => rfl
  · exact .bind (spares_delay _) fun _ =>
      .bind (.command (aside_readButton button)) fun _ => .pure _

end ButtonWatch

namespace BoardAct

open Board

variable {α : Type}

/-- An act that does not stop on a board at rest, and leaves it at rest. -/
def Rests (act : BoardAct α) : Prop :=
  ∀ board : Board, board.AtRest →
    match act board with
    | .ok _ after | .error (.fault _) after => after.AtRest
    | .error (.trap _) _ => False

/-- What such an act comes to on a quiet board: it leaves the board quiet and the store as it is, or
the supply fails. -/
theorem Spares.quiet {act : BoardAct α} (spares : Spares act) (rests : Rests act) {board : Board}
    (quiet : board.Quiet) :
    match act board with
    | .ok _ after | .error (.fault _) after =>
      after.Quiet ∧ (board.charge = none → after.charge = none) ∧ after.store = board.store
    | .error (.trap trap) after =>
      trap = .powerLoss ∧ board.charge ≠ none ∧ after.store = board.store := by
  obtain ⟨unit, discharged, lasts⟩ :=
    spares (board.withCharge none) rfl quiet.ready.keyValue
  have kept := rests (board.withCharge none) quiet.powered
  rcases lasts board.charge with ⟨rest, still, same⟩ | ⟨charged, mid, cut, left⟩
  · have same : act board = alike (·.withCharge rest) (act (board.withCharge none)) := same
    rw [same]
    cases ran : act (board.withCharge none) with
    | ok value after =>
      rw [ran] at kept unit
      exact ⟨kept.quiet.withCharge rest, still, congrArg KeyValue.store unit⟩
    | error failure after =>
      rw [ran] at kept unit
      cases failure with
      | fault fault => exact ⟨kept.quiet.withCharge rest, still, congrArg KeyValue.store unit⟩
      | trap trap => exact kept.elim
  · have cut : act board = .error (.trap .powerLoss) mid := cut
    rw [cut]
    exact ⟨rfl, charged, congrArg KeyValue.store left⟩

end BoardAct

/-- Reading a secret does not stop a board at rest, and leaves it at rest. -/
theorem SecretEntry.rests_readLine : BoardAct.Rests SecretEntry.readLine := by
  intro board rest
  obtain ⟨after, ran, continues, _⟩ := SecretEntry.readLine_eq rest
  rw [ran]
  split
  next value last same => split at same <;> cases same; exact rest.continues continues
  next fault last same => split at same <;> cases same; exact rest.continues continues
  next trap last same => split at same <;> cases same

/-- Beginning a watch over the buttons does not stop a board at rest, and leaves it at rest. -/
theorem ButtonWatch.rests_begin : BoardAct.Rests ButtonWatch.begin := by
  intro board rest
  obtain ⟨after, ran, kept, _⟩ := ButtonWatch.begin_eq rest
  rw [ran]
  exact kept

/-- Waiting for a press and classifying it does not stop a board at rest, and leaves it at rest. -/
theorem ButtonWatch.rests_nextEvent (watch : ButtonWatch) : BoardAct.Rests watch.nextEvent := by
  intro board rest
  let condition : Condition := fun _ calls => (watch.ticket.pressed? board.calls.length calls).isSome
  have kept := (rest.watch condition (fun _ => false) 0).1
  have running := rest.watch_runs condition (fun _ => false) 0
  have waited := watch.nextPress_eq board
  rw [Board.waitUntil] at waited
  change board.AtRest at rest
  generalize watching : board.watch _ _ _ = watched at waited
  have same : board.watch condition (fun _ => false) 0 = watched := watching
  rw [same] at kept running
  obtain ⟨result, polls, mid⟩ := watched
  cases result with
  | error failure =>
    rw [ButtonWatch.nextEvent, bind_of_error waited]
    cases failure with
    | fault fault => exact kept
    | trap trap => exact running trap rfl
  | ok _ =>
    have whole : ticksFor tickFrequency ButtonWatch.debounceMilliseconds = .ok 16384 := by decide
    obtain ⟨after, delayed, continues, _⟩ := BoardAct.delay_eq kept whole
    rw [ButtonWatch.nextEvent_of_pressed waited delayed]
    cases after.buttons.read _ <;> exact kept.continues continues

end OtpToken
