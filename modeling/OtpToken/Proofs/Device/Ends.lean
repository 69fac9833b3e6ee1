import OtpToken.Device.Basic
import OtpToken.Proofs.Blocking.Deliver

/-!
# How acts of a device end

The facts of a device are what outlasts its work: the traces on its board, its vault
and its credentials. From certain facts an act leads to an outcome and to other facts,
or the supply fails, with traces that are foreseen for that case (`Leads`). What a
composed act leads to follows from its parts.
-/

namespace OtpToken

/-- The number of a slot chooses that slot. -/
theorem Slot.select_val (slot : Slot) : Slot.select slot.val = .ok slot := by
  rw [Slot.select, Slot.ofNat?, dif_pos slot.isLt]

/-- A number is that of a slot, or there is no such slot. -/
theorem Slot.select_cases (number : Nat) :
    (∃ slot : Slot, number = slot.val) ∨ Slot.select number = .error (.noSuchSlot number) := by
  by_cases bound : number < slotCount
  · exact .inl ⟨⟨number, bound⟩, rfl⟩
  · exact .inr (by rw [Slot.select, Slot.ofNat?, dif_neg bound])

/-- What of a device outlasts its work. -/
structure Facts (σ : Type) where
  traces : Traces
  vault : σ
  credentials : Vector Credential slotCount

namespace Facts

variable {σ : Type}

/-- The facts after a text has been printed. -/
def print (facts : Facts σ) (text : String) : Facts σ :=
  { facts with traces := { facts.traces with transcript := facts.traces.transcript ++ text } }

/-- The facts after a line has been printed. -/
def printLine (facts : Facts σ) (line : String) : Facts σ := facts.print (line ++ "\r\n")

/-- The facts after a fault has been reported. -/
def report (facts : Facts σ) (fault : Fault) : Facts σ :=
  facts.printLine (Device.reportLine fault)

/-- The facts after the fault of an act has been reported, if it has ended with one. -/
def reported {α : Type} (facts : Facts σ) (outcome : Except Fault α) : Facts σ :=
  match outcome with
  | .ok _ => facts
  | .error fault => facts.report fault

/-- The facts after a code has been delivered. -/
def deliver (facts : Facts σ) (code : Code) (counter : UInt64) : Facts σ :=
  { facts with traces := facts.traces.deliver code counter }

/-- A code that is not typed is printed. -/
theorem deliver_of_untyped {facts : Facts σ} (untyped : facts.traces.typed? = none) (code : Code)
    (counter : UInt64) :
    facts.deliver code counter = facts.printLine (Delivery.printedLine code) := by
  rw [deliver, Traces.deliver, untyped]
  rfl

/-- The facts with another credential in a slot. -/
def setCredential (facts : Facts σ) (slot : Slot) (credential : Credential) : Facts σ :=
  { facts with credentials := facts.credentials.set slot.val credential slot.isLt }

/-- The facts with another store. -/
def setStore (facts : Facts σ) (store : Store) : Facts σ :=
  { facts with traces := { facts.traces with store := store } }

end Facts

namespace Board

variable {board after : Board}

/-- A ready board goes on when a light is turned on or off, or none is found. -/
theorem continues_settle_setLight (ready : board.Ready) (light : Nat) (lit : Bool) :
    board.Continues (board.settle (board.setLight light lit)) := by
  refine settle_cases (.refl ready) fun _ after h => ?_
  obtain ⟨lights, _, h⟩ := bind_eq_ok h
  cases h
  exact .of_show ready rfl rfl rfl rfl rfl rfl rfl rfl rfl

/-- Lights leave no traces. -/
theorem traces_settle_setLight (board : Board) (light : Nat) (lit : Bool) :
    (board.settle (board.setLight light lit)).traces = board.traces := by
  unfold settle
  split
  next _ _ h =>
    obtain ⟨lights, _, h⟩ := bind_eq_ok h
    cases h
    rfl
  next => rfl

end Board

namespace Device

open Act

variable {σ α β : Type} {device : Device σ} {cuts more : Traces → Prop}
  {known mid later : Facts σ} {outcome : Except Fault α}

/-- The facts of a device. -/
def facts (device : Device σ) : Facts σ := ⟨device.board.traces, device.vault, device.credentials⟩

/-- How an act of a device ends: with its outcome, certain facts and a ready board, or else the
supply fails with traces that are foreseen. -/
inductive Ends (device : Device σ) (cuts : Traces → Prop) (later : Facts σ) :
    Except Fault α → EStateM.Result Failure (Device σ) α → Prop
  | ok {value : α} {after : Device σ} (continues : device.board.Continues after.board)
      (left : after.facts = later) : Ends device cuts later (.ok value) (.ok value after)
  | fault {fault : Fault} {after : Device σ} (continues : device.board.Continues after.board)
      (left : after.facts = later) :
      Ends device cuts later (.error fault) (.error (.fault fault) after)
  | cut {outcome : Except Fault α} {after : Device σ} (charged : device.board.charge ≠ none)
      (left : cuts after.board.traces) :
      Ends device cuts later outcome (.error (.trap .powerLoss) after)

namespace Ends

/-- On a supplied board an act ends with its outcome. -/
theorem eq_ok {value : α} {result : EStateM.Result Failure (Device σ) α}
    (ends : device.Ends cuts later (.ok value) result) (supplied : device.board.charge = none) :
    ∃ after, result = .ok value after ∧ device.board.Continues after.board ∧
      after.facts = later := by
  cases ends with
  | ok continues left => exact ⟨_, rfl, continues, left⟩
  | cut charged _ => exact absurd supplied charged

/-- On a reliable supply an act that is to end with a fault does. -/
theorem eq_fault {fault : Fault} {result : EStateM.Result Failure (Device σ) α}
    (ends : device.Ends cuts later (.error fault) result) (supplied : device.board.charge = none) :
    ∃ after, result = .error (.fault fault) after ∧ device.board.Continues after.board ∧
      after.facts = later := by
  cases ends with
  | fault continues left => exact ⟨_, rfl, continues, left⟩
  | cut charged _ => exact absurd supplied charged

/-- More ways of being cut short may be foreseen. -/
theorem mono {result : EStateM.Result Failure (Device σ) α}
    (ends : device.Ends cuts later outcome result) (weaken : ∀ traces, cuts traces → more traces) :
    device.Ends more later outcome result := by
  cases ends with
  | ok continues left => exact .ok continues left
  | fault continues left => exact .fault continues left
  | cut charged left => exact .cut charged (weaken _ left)

/-- What follows an act goes on from what that leaves. -/
theorem bind {act : DeviceAct σ α} {next : α → DeviceAct σ β} {value : α} {last : Except Fault β}
    (ends : device.Ends cuts mid (.ok value) (act device))
    (goes : ∀ between : Device σ, device.board.Continues between.board → between.facts = mid →
      between.Ends cuts later last (next value between)) :
    device.Ends cuts later last ((act >>= next) device) := by
  generalize ran : act device = result at ends
  cases ends with
  | @ok _ between continues left =>
    rw [bind_of_ok ran]
    have rest := goes between continues left
    generalize next value between = result at rest
    cases rest with
    | ok further left => exact .ok (continues.trans further) left
    | fault further left => exact .fault (continues.trans further) left
    | cut charged left => exact .cut (fun supplied => charged (continues.supplied supplied)) left
  | cut charged left =>
    rw [bind_of_error ran]
    exact .cut charged left

/-- What follows an act that ends with a fault is not begun. -/
theorem bind_fault {act : DeviceAct σ α} {next : α → DeviceAct σ β} {fault : Fault}
    (ends : device.Ends cuts later (.error fault) (act device)) :
    device.Ends cuts later (.error fault) ((act >>= next) device) := by
  generalize ran : act device = result at ends
  cases ends with
  | fault continues left =>
    rw [bind_of_error ran]
    exact .fault continues left
  | cut charged left =>
    rw [bind_of_error ran]
    exact .cut charged left

/-- An attempt ends with the outcome of the act as its value. -/
theorem attempt {act : DeviceAct σ α} (ends : device.Ends cuts later outcome (act device)) :
    device.Ends cuts later (.ok outcome) (Act.attempt act device) := by
  generalize ran : act device = result at ends
  cases ends with
  | ok continues left =>
    rw [attempt_of_ok ran]
    exact .ok continues left
  | fault continues left =>
    rw [attempt_of_fault ran]
    exact .ok continues left
  | cut charged left =>
    rw [attempt_of_trap ran]
    exact .cut charged left

end Ends

/-- On every ready device with the known facts, an act ends with an outcome and other facts. -/
def Leads (cuts : Traces → Prop) (act : DeviceAct σ α) (known : Facts σ) (outcome : Except Fault α)
    (later : Facts σ) : Prop :=
  ∀ device : Device σ, device.board.Ready → device.facts = known →
    device.Ends cuts later outcome (act device)

namespace Leads

/-- An act ends as foreseen if more cuts are foreseen. -/
theorem mono {act : DeviceAct σ α} (leads : Leads cuts act known outcome later)
    (weaken : ∀ traces, cuts traces → more traces) : Leads more act known outcome later :=
  fun device ready same => (leads device ready same).mono weaken

/-- An act that leads somewhere still does if more cuts are allowed for. -/
theorem any {act : DeviceAct σ α} (leads : Leads cuts act known outcome later) :
    Leads (fun _ => True) act known outcome later := leads.mono fun _ _ => trivial

/-- Handing out a value leads nowhere. -/
theorem pure (value : α) : Leads cuts (Pure.pure value) known (.ok value) known :=
  fun _ ready same => .ok (.refl ready) same

/-- Failing leads to the fault, and leaves the facts as they are. -/
theorem fail (fault : Fault) :
    Leads cuts (Act.fail fault : DeviceAct σ α) known (.error fault) known :=
  fun _ ready same => .fault (.refl ready) same

/-- Handing on an answer leads to that answer. -/
theorem ofExcept (answer : Except Fault α) :
    Leads cuts (Act.ofExcept answer) known answer known := by
  cases answer with
  | ok value => exact .pure value
  | error fault => exact .fail fault

/-- An answer that is no trap is handed on. -/
theorem ofTrapped {answer : Except Trap α} {value : α} (passed : answer = .ok value) :
    Leads cuts (Act.ofTrapped answer) known (.ok value) known := by
  rw [passed]
  exact .pure value

/-- An act that ends with a value is followed by the next one. -/
theorem bind {act : DeviceAct σ α} {next : α → DeviceAct σ β} {value : α} {last : Except Fault β}
    (first : Leads cuts act known (.ok value) mid)
    (second : Leads cuts (next value) mid last later) :
    Leads cuts (act >>= next) known last later :=
  fun device ready same => (first device ready same).bind fun between continues left =>
    second between continues.ready left

/-- Nothing follows an act that ends with a fault. -/
theorem bind_fault {act : DeviceAct σ α} {next : α → DeviceAct σ β} {fault : Fault}
    (first : Leads cuts act known (.error fault) later) :
    Leads cuts (act >>= next) known (.error fault) later :=
  fun device ready same => (first device ready same).bind_fault

/-- The fault of an act can be handed out as a value. -/
theorem attempt {act : DeviceAct σ α} (leads : Leads cuts act known outcome later) :
    Leads cuts (Act.attempt act) known (.ok outcome) later :=
  fun device ready same => (leads device ready same).attempt

/-- What is done with the board is done by the device. -/
theorem onBoard {action : BoardAct α} {traces : Traces}
    (ends : ∀ board : Board, board.Ready → board.traces = known.traces →
      board.Ends traces outcome (action board)) :
    Leads (· = known.traces) (Device.onBoard action) known outcome
      { known with traces := traces } := by
  intro device ready same
  have board := ends device.board ready (congrArg Facts.traces same)
  generalize ran : action device.board = result at board
  unfold Device.onBoard
  rw [ran, ← same]
  cases board with
  | ok continues left => exact .ok continues (by rw [Device.facts, left]; rfl)
  | fault continues left => exact .fault continues (by rw [Device.facts, left]; rfl)
  | cut charged _ left => exact .cut charged left

/-- A line that is printed is added to the transcript. -/
theorem printLine (line : String) :
    Leads cuts (Device.printLine line) known (.ok ()) (known.printLine line) := by
  rintro device ready rfl
  exact .ok (Board.continues_print ready _) rfl

/-- A fault that is reported is added to the transcript. -/
theorem report (fault : Fault) :
    Leads cuts (Device.report fault) known (.ok ()) (known.report fault) :=
  printLine _

/-- A light that is turned on or off leaves the facts as they are. -/
theorem setLight (slot : Slot) (lit : Bool) :
    Leads cuts (Device.setLight slot lit) known (.ok ()) known := by
  rintro device ready rfl
  refine .ok (Board.continues_settle_setLight ready slot lit) ?_
  exact congrArg (fun traces => (⟨traces, device.vault, device.credentials⟩ : Facts σ))
    (Board.traces_settle_setLight ..)

/-- The light makes no difference to what is done under it. -/
theorem withLight {slot : Slot} {body : DeviceAct σ α} (leads : Leads cuts body known outcome later) :
    Leads cuts (Device.withLight slot body) known outcome later :=
  bind (setLight slot true) (bind (attempt leads) (bind (setLight slot false) (ofExcept outcome)))

/-- A number leads to the slot that it chooses, or to the fault. -/
theorem slotOf (number : Nat) :
    Leads cuts (Device.slotOf number) known (Slot.select number) known :=
  ofExcept _

/-- A number without a slot leads to the fault that says so. -/
theorem slotOf_of_error {number : Nat} {fault : Fault} (none : Slot.select number = .error fault) :
    Leads cuts (Device.slotOf number) known (.error fault) known := by
  rw [← none]
  exact slotOf _

/-- The number of a slot leads to that slot. -/
theorem slotOf_val (slot : Slot) : Leads cuts (Device.slotOf slot.val) known (.ok slot) known := by
  rw [← Slot.select_val]
  exact slotOf _

/-- The credential of a slot is handed out as it is. -/
theorem credential (slot : Slot) :
    Leads cuts (Device.credential slot) known (.ok (known.credentials.get slot)) known := by
  rintro device ready rfl
  exact .ok (.refl ready) rfl

/-- The credential of a slot is replaced in memory. -/
theorem setCredential (slot : Slot) (credential : Credential) :
    Leads cuts (Device.setCredential slot credential) known (.ok ())
      (known.setCredential slot credential) := by
  rintro device ready rfl
  exact .ok (.refl ready) rfl

/-- A secret is opened as the vault opens it, and the facts stay. -/
theorem openSecret [Vault σ] {credential : Credential} {answer : Except Fault Bytes}
    (opened : Vault.openSecret known.vault credential.iv credential.sealedSecret = answer) :
    Leads cuts (Device.openSecret credential) known answer known := by
  rintro device ready rfl
  unfold Device.openSecret
  have same : Vault.openSecret device.vault credential.iv credential.sealedSecret = answer := opened
  rw [same]
  cases answer with
  | ok secret => exact .ok (.refl ready) rfl
  | error fault => exact .fault (.refl ready) rfl

end Leads

/-- On every ready device with the known facts and a reliable supply, an act stops with a trap, and
leaves other facts. -/
def Stops (act : DeviceAct σ α) (known : Facts σ) (trap : Trap) (later : Facts σ) : Prop :=
  ∀ device : Device σ, device.board.Ready → device.board.charge = none → device.facts = known →
    ∃ after, act device = .error (.trap trap) after ∧ after.facts = later

namespace Stops

variable {trap : Trap}

/-- An act that meets a trap stops with it at once. -/
theorem ofTrapped : Stops (Act.ofTrapped (.error trap) : DeviceAct σ α) known trap known :=
  fun device _ _ same => ⟨device, rfl, same⟩

/-- An act stops in its second part when the first has led there. -/
theorem bind {act : DeviceAct σ α} {next : α → DeviceAct σ β} {value : α}
    (first : Leads (fun _ => True) act known (.ok value) mid)
    (second : Stops (next value) mid trap later) :
    Stops (act >>= next) known trap later := by
  intro device ready supplied same
  obtain ⟨between, ran, continues, left⟩ := (first device ready same).eq_ok supplied
  rw [bind_of_ok ran]
  exact second between continues.ready (continues.supplied supplied) left

/-- An act that stops in its first part does not begin the second. -/
theorem bind_left {act : DeviceAct σ α} {next : α → DeviceAct σ β}
    (stops : Stops act known trap later) : Stops (act >>= next) known trap later := by
  intro device ready supplied same
  obtain ⟨after, ran, left⟩ := stops device ready supplied same
  exact ⟨after, bind_of_error ran, left⟩

/-- An attempt does not catch what stops an act. -/
theorem attempt {act : DeviceAct σ α} (stops : Stops act known trap later) :
    Stops (Act.attempt act) known trap later := by
  intro device ready supplied same
  obtain ⟨after, ran, left⟩ := stops device ready supplied same
  exact ⟨after, attempt_of_trap ran, left⟩

/-- An act that stops under a light stops with the same facts. -/
theorem withLight {slot : Slot} {body : DeviceAct σ α} (stops : Stops body known trap later) :
    Stops (Device.withLight slot body) known trap later :=
  bind (Leads.setLight slot true) (bind_left (attempt stops))

end Stops

end Device

end OtpToken
