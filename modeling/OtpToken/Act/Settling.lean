import OtpToken.Act.Contract

/-!
# Acts that settle

A measure of the state that an act never raises, and lowers by some gain when it
hands out a value, is the reason why a loop over that act ends. Acts that settle a
measure keep to a contract, so the property passes from the parts of an act to the whole.
-/

namespace OtpToken.Act

variable {σ α β : Type} {measure : σ → Nat} {gain : Nat}

/-- The measure becomes lower by at least `gain`. It does not become higher where the act ends early,
and may become anything where the act is stopped. -/
def Contract.settling (measure : σ → Nat) (gain : Nat) : Contract σ := fun before failure after =>
  match failure with
  | none => measure after + gain ≤ measure before
  | some (.fault _) => measure after ≤ measure before
  | some (.trap _) => True

instance : (Contract.settling measure 0).IsClosed where
  refl _ := Nat.le_refl _
  trans {_ _ _ failure} first second := by
    cases failure with
    | none => exact Nat.le_trans second first
    | some failure =>
      cases failure with
      | fault => exact Nat.le_trans second first
      | trap => trivial
  fault _ := Iff.rfl

/-- The act lowers the measure by at least `gain`, and raises it in no case. -/
abbrev Settles (measure : σ → Nat) (gain : Nat) (act : Act σ α) : Prop :=
  Follows (.settling measure gain) act

namespace Settles

/-- An answer is handed out, or its trap stops the act. -/
theorem ofTrapped (answer : Except Trap α) : Settles measure 0 (Act.ofTrapped answer) :=
  Follows.ofTrapped (fun _ _ => trivial) answer

/-- What the first of two acts gains is not lost with the second. -/
theorem bind {act : Act σ α} {next : α → Act σ β} (first : Settles measure gain act)
    (second : ∀ value, Settles measure 0 (next value)) : Settles measure gain (act >>= next) := by
  refine first.bind_of second ?_ id
  intro before between after failure gained kept
  simp only [Contract.settling] at gained kept ⊢
  cases failure with
  | none => dsimp only at kept ⊢; omega
  | some failure =>
    cases failure with
    | fault => dsimp only at kept ⊢; omega
    | trap => trivial

/-- Who gains something loses nothing. -/
theorem weaken {act : Act σ α} (settles : Settles measure gain act) : Settles measure 0 act := by
  refine settles.mono fun {before failure after} gained => ?_
  cases failure with
  | none => exact Nat.le_trans (Nat.le_add_right _ _) gained
  | some failure => cases failure <;> exact gained

/-- To clean up loses nothing if it never raises the measure. -/
theorem releasing {act : Act σ α} {release : σ → σ} (settles : Settles measure gain act)
    (releases : ∀ state, measure (release state) ≤ measure state) :
    Settles measure gain (Act.releasing release act) := by
  refine Follows.releasing settles fun {before failure after} done => ?_
  cases failure with
  | none => exact Nat.le_trans (Nat.add_le_add_right (releases after) gain) done
  | some failure =>
    cases failure with
    | fault => exact Nat.le_trans (releases after) done
    | trap => trivial

end Settles

/-- The measure becomes lower, unless the act is stopped or ends with the fault of an exhausted
input. -/
def Contract.advancing (measure : σ → Nat) : Contract σ := fun before failure after =>
  match failure with
  | none => measure after < measure before
  | some (.fault fault) => fault = .halted ∨ measure after < measure before
  | some (.trap _) => True

/-- The act lowers the measure, unless it is stopped or ends with the fault of an exhausted
input. -/
abbrev Advances (measure : σ → Nat) (act : Act σ α) : Prop := Follows (.advancing measure) act

/-- An act that has advanced may settle. -/
theorem Advances.bind {act : Act σ α} {next : α → Act σ β} (first : Advances measure act)
    (second : ∀ value, Settles measure 0 (next value)) : Advances measure (act >>= next) := by
  refine first.bind_of second ?_ id
  intro before between after failure lower kept
  cases failure with
  | none => exact Nat.lt_of_le_of_lt kept lower
  | some failure =>
    cases failure with
    | fault => exact .inr (Nat.lt_of_le_of_lt kept lower)
    | trap => trivial

end OtpToken.Act
