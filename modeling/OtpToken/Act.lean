import OtpToken.Fault

/-!
# Acts

An act works on a state and ends with a value, or early with a failure; what it has
done to the state by then stays done. Faults can be caught and acts can clean up
after themselves, but nothing goes on after a trap.
-/

namespace OtpToken

/-- What is done to a state. -/
abbrev Act (σ α : Type) := EStateM Failure σ α

namespace Act

variable {σ α β : Type}

/-- Ends with a fault. -/
def fail (fault : Fault) : Act σ α := throw (.fault fault)

/-- Ends with a trap. -/
def stop (trap : Trap) : Act σ α := throw (.trap trap)

/-- Hands out a value, or ends with a fault. -/
def ofExcept : Except Fault α → Act σ α
  | .ok value => pure value
  | .error fault => fail fault

/-- Hands out a value, or ends with a trap. -/
def ofTrapped : Except Trap α → Act σ α
  | .ok value => pure value
  | .error trap => stop trap

/-- Hands out the fault of an act in place of its value. -/
def attempt (body : Act σ α) : Act σ (Except Fault α) := fun state =>
  match body state with
  | .ok value after => .ok (.ok value) after
  | .error (.fault fault) after => .ok (.error fault) after
  | .error (.trap trap) after => .error (.trap trap) after

/-- Ends with another fault in place of the one an act ends with. -/
def mapFault (change : Fault → Fault) (body : Act σ α) : Act σ α := fun state =>
  match body state with
  | .error (.fault fault) after => .error (.fault (change fault)) after
  | outcome => outcome

/-- Cleans up after an act, whichever way it ends. -/
def releasing (release : σ → σ) (body : Act σ α) : Act σ α := fun state =>
  match body state with
  | .ok value after => .ok value (release after)
  | .error failure after => .error failure (release after)

end Act

end OtpToken
