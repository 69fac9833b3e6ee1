import OtpToken.Credential

/-!
# Sessions with a credential

A session starts from the blank credential of a slot and takes steps with it. A
trap ends the session.
-/

namespace OtpToken.Bench

/-- A step with a credential. -/
inductive CredentialStep
  | install (secret : Sealed)
  | clear
  | advance
  /-- Reads a record for a slot, in place of the present credential. -/
  | parse (slot : Nat) (record : Bytes)

/-- What a step with a credential hands out. -/
inductive CredentialReply
  | installed (result : Except Fault Unit)
  | cleared
  /-- The counter that was used. -/
  | used (counter : UInt64)
  | parsed (isRecord : Bool)

namespace CredentialSession

/-- Takes a step. -/
def take (credential : Credential) :
    CredentialStep → Except Trap (CredentialReply × Credential)
  | .install secret =>
    match credential.install secret with
    | .ok credential => .ok (.installed (.ok ()), credential)
    | .error fault => .ok (.installed (.error fault), credential)
  | .clear => .ok (.cleared, credential.clear)
  | .advance => do
    let (counter, credential) ← credential.advance
    return (.used counter, credential)
  | .parse slot record => do
    match ← Credential.parse slot record with
    | some credential => return (.parsed true, credential)
    | none => return (.parsed false, credential)

/-- What a step leaves: its reply and the credential after it, or the trap. -/
abbrev Line := Except Trap (CredentialReply × Credential)

/-- Takes steps one after the other, each of which leaves a line. -/
def takeAll (credential : Credential) : List CredentialStep → List Line
  | [] => []
  | step :: rest =>
    match take credential step with
    | .ok (reply, credential) => .ok (reply, credential) :: takeAll credential rest
    | .error trap => [.error trap]

/-- Takes steps with the blank credential of a slot, and hands out that credential and the lines. -/
def run (slot : Nat) (steps : List CredentialStep) : Except Trap (Credential × List Line) := do
  let slot ← Slot.ofIndex slot
  return (Credential.blank slot, takeAll (Credential.blank slot) steps)

end CredentialSession

end OtpToken.Bench
