import OtpToken.Act

/-!
# Contracts of acts

A contract says what an act may make of the state it is begun in, where it hands out a
value and where it ends with a failure. That a whole act keeps to it follows from its
parts, by rules that are given here once, for every contract under which one act can go
on after another (`Contract.IsClosed`).
-/

namespace OtpToken.Act

variable {σ α β : Type}

/-- The state that an act has ended in. -/
def ending : EStateM.Result Failure σ α → σ
  | .ok _ after | .error _ after => after

/-- The failure that an act has ended with, if it has not handed out a value. -/
def failure? : EStateM.Result Failure σ α → Option Failure
  | .ok _ _ => none
  | .error failure _ => some failure

/-- What may become of a state, without a failure or with one. -/
abbrev Contract (σ : Type) := σ → Option Failure → σ → Prop

/-- From every state, an act keeps to the contract. -/
def Follows (contract : Contract σ) (act : Act σ α) : Prop :=
  ∀ state, contract state (failure? (act state)) (ending (act state))

/-- A contract allows an act to do nothing, to go on from where another has come to, and to raise or
catch a fault there. -/
class Contract.IsClosed (contract : Contract σ) : Prop where
  refl : ∀ state, contract state none state
  trans : ∀ {before between after failure}, contract before none between →
    contract between failure after → contract before failure after
  fault : ∀ {before after} fault,
    contract before (some (.fault fault)) after ↔ contract before none after

namespace Follows

variable {contract : Contract σ} {act : Act σ α} {next : α → Act σ β}

/-- What keeps to a contract keeps to a wider one. -/
theorem mono {wider : Contract σ} (follows : Follows contract act)
    (wide : ∀ {before failure after}, contract before failure after → wider before failure after) :
    Follows wider act := fun state => wide (follows state)

/-- The second of two acts goes on from where the first has come to, and each may have a contract of
its own. -/
theorem bind_of {one two : Contract σ} (first : Follows one act)
    (second : ∀ value, Follows two (next value))
    (onward : ∀ {before between after failure}, one before none between →
      two between failure after → contract before failure after)
    (early : ∀ {before after failure}, one before (some failure) after →
      contract before (some failure) after) : Follows contract (act >>= next) := by
  intro state
  have begun := first state
  show contract state (failure? (EStateM.bind act next state))
    (ending (EStateM.bind act next state))
  unfold EStateM.bind
  cases ran : act state with
  | ok value between =>
    rw [ran] at begun
    exact onward begun (second value between)
  | error failure after =>
    rw [ran] at begun
    exact early begun

/-- An act that cleans up keeps to a contract if the cleaning leads from an end that is allowed to
one that is. -/
theorem releasing {release : σ → σ} (follows : Follows contract act)
    (releases : ∀ {before failure after}, contract before failure after →
      contract before failure (release after)) : Follows contract (Act.releasing release act) := by
  intro state
  have done := follows state
  unfold Act.releasing
  cases ran : act state <;> (rw [ran] at done; exact releases done)

/-- An act that is stopped at once keeps to a contract that allows it. -/
theorem stop (stopped : ∀ state trap, contract state (some (.trap trap)) state) (trap : Trap) :
    Follows contract (Act.stop trap : Act σ α) := fun state => stopped state trap

variable [closed : contract.IsClosed]

/-- To hand out a value changes nothing. -/
theorem pure (value : α) : Follows contract (Pure.pure value : Act σ α) := closed.refl

/-- A fault may occur at once. -/
theorem fail (fault : Fault) : Follows contract (Act.fail fault : Act σ α) :=
  fun state => (closed.fault fault).mpr (closed.refl state)

/-- An answer is handed out, or its fault occurs. -/
theorem ofExcept (answer : Except Fault α) : Follows contract (Act.ofExcept answer : Act σ α) := by
  cases answer with
  | ok value => exact .pure value
  | error fault => exact .fail fault

/-- An answer is handed out, or its trap stops the act. -/
theorem ofTrapped (stopped : ∀ state trap, contract state (some (.trap trap)) state)
    (answer : Except Trap α) : Follows contract (Act.ofTrapped answer : Act σ α) := by
  cases answer with
  | ok value => exact .pure value
  | error trap => exact .stop stopped trap

/-- One act after another that keep to the contract keep to it together. -/
theorem bind (first : Follows contract act) (second : ∀ value, Follows contract (next value)) :
    Follows contract (act >>= next) := first.bind_of second closed.trans id

/-- A fault is caught where it occurs. -/
theorem attempt (follows : Follows contract act) : Follows contract (Act.attempt act) := by
  intro state
  have done := follows state
  unfold Act.attempt
  cases ran : act state with
  | ok value after =>
    rw [ran] at done
    exact done
  | error failure after =>
    rw [ran] at done
    cases failure with
    | fault fault => exact (closed.fault fault).mp done
    | trap trap => exact done

/-- Another fault may occur in place of one. -/
theorem mapFault (change : Fault → Fault) (follows : Follows contract act) :
    Follows contract (Act.mapFault change act) := by
  intro state
  have done := follows state
  unfold Act.mapFault
  cases ran : act state with
  | ok value after =>
    rw [ran] at done
    exact done
  | error failure after =>
    rw [ran] at done
    cases failure with
    | fault fault => exact (closed.fault _).mpr ((closed.fault fault).mp done)
    | trap trap => exact done

/-- One step after another, an act goes through a list. -/
theorem foldlM {step : β → α → Act σ β} (items : List α) (start : β)
    (steps : ∀ before item, Follows contract (step before item)) :
    Follows contract (items.foldlM step start) := by
  induction items generalizing start with
  | nil => exact .pure start
  | cons item items ih =>
    rw [List.foldlM_cons]
    exact .bind (steps start item) ih

end Follows

/-- An act leaves what is seen of the state in a view as it was, whichever way it ends. -/
def Contract.leaving {τ : Type} (view : σ → τ) : Contract σ :=
  fun before _ after => view after = view before

/-- An act leaves a state as it should be that has been so, unless it is stopped. -/
def Contract.keeping (right : σ → Prop) : Contract σ := fun before failure after =>
  right before → match failure with
    | some (.trap _) => True
    | _ => right after

instance {τ : Type} (view : σ → τ) : (Contract.leaving view).IsClosed where
  refl _ := rfl
  trans first second := Eq.trans second first
  fault _ := Iff.rfl

instance (right : σ → Prop) : (Contract.keeping right).IsClosed where
  refl _ held := held
  trans first second held := second (first held)
  fault _ := Iff.rfl

end OtpToken.Act
