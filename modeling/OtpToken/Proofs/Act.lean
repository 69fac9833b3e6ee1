import OtpToken.Act

/-!
# Carrying out acts

What a composed act does follows from how its parts end, part by part.
-/

namespace OtpToken

/-- What follows a step was handed a value if the whole was accepted. -/
theorem bind_eq_ok {ε α β : Type} {answer : Except ε α} {next : α → Except ε β} {value : β}
    (h : (answer >>= next) = .ok value) :
    ∃ middle, answer = .ok middle ∧ next middle = .ok value := by
  cases answer with
  | error error => cases h
  | ok middle => exact ⟨middle, rfl, h⟩

namespace Act

variable {σ α β : Type} {act : Act σ α} {next : α → Act σ β} {state after : σ} {value : α}
  {failure : Failure}

/-- An act that hands out a value is followed by the next one. -/
theorem bind_of_ok (ran : act state = .ok value after) : (act >>= next) state = next value after := by
  change EStateM.bind act next state = _
  rw [EStateM.bind, ran]

/-- An act that fails is not followed by the next one. -/
theorem bind_of_error (ran : act state = .error failure after) :
    (act >>= next) state = .error failure after := by
  change EStateM.bind act next state = _
  rw [EStateM.bind, ran]

/-- To attempt an act hands out its value. -/
theorem attempt_of_ok (ran : act state = .ok value after) :
    attempt act state = .ok (.ok value) after := by
  rw [attempt, ran]

/-- To attempt an act hands out its fault. -/
theorem attempt_of_fault {fault : Fault} (ran : act state = .error (.fault fault) after) :
    attempt act state = .ok (.error fault) after := by
  rw [attempt, ran]

/-- An attempt does not catch a trap. -/
theorem attempt_of_trap {trap : Trap} (ran : act state = .error (.trap trap) after) :
    attempt act state = .error (.trap trap) after := by
  rw [attempt, ran]

/-- To change the faults of an act leaves its value. -/
theorem mapFault_of_ok {change : Fault → Fault} (ran : act state = .ok value after) :
    mapFault change act state = .ok value after := by
  rw [mapFault, ran]

/-- To change the faults of an act leaves its trap. -/
theorem mapFault_of_trap {change : Fault → Fault} {trap : Trap}
    (ran : act state = .error (.trap trap) after) :
    mapFault change act state = .error (.trap trap) after := by
  rw [mapFault, ran]

/-- To change the faults of an act changes the one that has occurred. -/
theorem mapFault_of_fault {change : Fault → Fault} {fault : Fault}
    (ran : act state = .error (.fault fault) after) :
    mapFault change act state = .error (.fault (change fault)) after := by
  rw [mapFault, ran]

/-- Cleaning up follows an act that hands out a value. -/
theorem releasing_of_ok {release : σ → σ} (ran : act state = .ok value after) :
    releasing release act state = .ok value (release after) := by
  rw [releasing, ran]

/-- Cleaning up follows an act that fails, which still fails. -/
theorem releasing_of_error {release : σ → σ} (ran : act state = .error failure after) :
    releasing release act state = .error failure (release after) := by
  rw [releasing, ran]

end Act

end OtpToken
