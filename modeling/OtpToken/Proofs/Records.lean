import OtpToken.Proofs.Credential

/-!
# Records and what a slot can hold

Reading and writing records are inverse to each other. Every string of 89 bytes whose first byte is
no longer than the field makes a credential, and this credential makes the string again, the bytes
behind the secret included. Every credential that a slot can come to hold is read back from its own
record, and the slot that it is read for decides the digits and nothing else (`parse_codec`).
-/

namespace OtpToken

namespace Slot

/-- The third slot. -/
def third : Slot := ⟨2, by decide⟩

/-- The number of a slot stands for that slot. -/
theorem ofIndex_val (slot : Slot) : ofIndex slot.val = .ok slot := by
  rw [ofIndex, ofNat?, dif_pos slot.isLt]

end Slot

namespace Credential

variable {slot : Slot} {bytes : Bytes} {credential : Credential}

/-- For a slot that exists, reading comes to a credential or to none. -/
theorem parse_slot (slot : Slot) (bytes : Bytes) :
    parse slot.val bytes = .ok (ofRecord? slot bytes) := by
  rw [parse, Slot.ofIndex_val]
  by_cases valid : IsRecord bytes
  · rw [if_pos valid]
    rfl
  · rw [if_neg valid, ofRecord?, dif_neg valid]
    rfl

/-- What is read makes the bytes that it was read from. -/
theorem record_of_parse (read : parse slot.val bytes = .ok (some credential)) :
    credential.record = bytes := by
  rw [parse_slot, Except.ok.injEq] at read
  exact record_ofRecord? read

/-- The bytes that are read are the records. -/
theorem parse_eq_some_iff (slot : Slot) (bytes : Bytes) :
    (∃ credential, parse slot.val bytes = .ok (some credential)) ↔ IsRecord bytes := by
  constructor
  · rintro ⟨credential, read⟩
    rw [← record_of_parse read]
    exact isRecord_record credential
  · intro valid
    exact ⟨_, by rw [parse_slot, ofRecord?, dif_pos valid]⟩

/-- Bytes that are no record are read as none. -/
theorem parse_of_not_isRecord (invalid : ¬ IsRecord bytes) :
    parse slot.val bytes = .ok none := by
  rw [parse_slot, ofRecord?, dif_neg invalid]

/-- The credential after an installation; one that is refused leaves it as it was. -/
def afterInstall (credential : Credential) (secret : Sealed) : Credential :=
  match credential.install secret with
  | .ok installed => installed
  | .error _ => credential

/-- Installing a secret keeps the digits. -/
theorem digits_afterInstall (credential : Credential) (secret : Sealed) :
    (credential.afterInstall secret).digits = credential.digits := by
  rw [afterInstall, install]
  by_cases fits : 1 ≤ secret.ciphertext.length ∧ secret.ciphertext.length ≤ Secret.maxLength
  · rw [dif_pos fits]
  · rw [dif_neg fits]

/-- What a slot can come to hold. Reading takes any bytes, so the record of what another slot holds
is among them. -/
inductive Held (slot : Slot) : Credential → Prop
  /-- Nothing has been stored yet. -/
  | blank : Held slot (blank slot)
  /-- The bytes were read for the slot. -/
  | read {bytes : Bytes} {credential : Credential}
      (accepted : parse slot.val bytes = .ok (some credential)) : Held slot credential
  /-- A secret was given to the slot, whether it was refused or not. -/
  | installed {credential : Credential} (held : Held slot credential) (secret : Sealed) :
      Held slot (credential.afterInstall secret)
  /-- The secret was removed. -/
  | cleared {credential : Credential} (held : Held slot credential) : Held slot credential.clear
  /-- A counter was handed out. -/
  | advanced {credential after : Credential} {used : UInt64} (held : Held slot credential)
      (moved : credential.advance = .ok (used, after)) : Held slot after

/-- Using up a counter keeps the digits. -/
theorem digits_advance {after : Credential} {used : UInt64}
    (moved : credential.advance = .ok (used, after)) : after.digits = credential.digits := by
  unfold advance at moved
  split at moved <;> cases moved
  rfl

/-- Nothing that happens to a credential changes its digits. -/
theorem Held.digits_eq (held : Held slot credential) : credential.digits = slot.digits := by
  induction held with
  | blank => rfl
  | read accepted =>
    rw [parse_slot, Except.ok.injEq] at accepted
    exact digits_ofRecord? accepted
  | installed _ secret ih => rw [digits_afterInstall, ih]
  | cleared _ ih => exact ih
  | advanced _ moved ih => rw [digits_advance moved, ih]

/-- A record is read back for any slot, with the digits of that slot. -/
theorem parse_record (slot : Slot) (credential : Credential) :
    parse slot.val credential.record = .ok (some { credential with digits := slot.digits }) := by
  rw [parse_slot, ofRecord?_record]

/-- What a slot holds is read back for it. -/
theorem Held.parse_record (held : Held slot credential) :
    parse slot.val credential.record = .ok (some credential) := by
  rw [Credential.parse_record, ← held.digits_eq]

/-- Reading accepts the strings of 89 bytes that start with a length of at most 64, and no others,
and gives back what writing is given, in both directions. -/
theorem parse_codec (slot : Slot) :
    (∀ bytes : Bytes,
      if bytes.length = 89 ∧ (bytes.headD 0).toNat ≤ 64 then
        ∃ credential, parse slot.val bytes = .ok (some credential) ∧ credential.record = bytes
      else parse slot.val bytes = .ok none) ∧
    ∀ credential, Held slot credential →
      parse slot.val credential.record = .ok (some credential) ∧
      ∀ other : Slot, parse other.val credential.record =
        .ok (some { credential with digits := other.digits }) := by
  refine ⟨fun bytes => ?_, fun credential held => ⟨held.parse_record, fun other =>
    parse_record other credential⟩⟩
  split
  next valid =>
    obtain ⟨credential, read⟩ := (parse_eq_some_iff slot bytes).mpr valid
    exact ⟨credential, read, record_of_parse read⟩
  next invalid => exact parse_of_not_isRecord invalid

/-- A sealed secret of twenty bytes. -/
def twenty : Sealed := ⟨⟨List.replicate ivSize 9, rfl⟩, List.replicate 20 0xab⟩

/-- The third slot after twenty bytes, a refused secret of none, and one code. -/
def settled : Credential :=
  (((blank Slot.third).afterInstall twenty).afterInstall ⟨twenty.iv, []⟩).next

/-- That credential is read back from its record, and on another slot with the digits of that slot.
-/
theorem parse_codec_settled :
    Held Slot.third settled ∧ settled.secretLength = 20 ∧
      parse Slot.third.val settled.record = .ok (some settled) ∧
      parse Slot.first.val settled.record = .ok (some { settled with digits := 6 }) := by
  have held : Held Slot.third settled :=
    ((Held.blank.installed twenty).installed ⟨twenty.iv, []⟩).advanced (advance_of_lt (by decide))
  obtain ⟨own, others⟩ := (parse_codec Slot.third).2 settled held
  exact ⟨held, by decide, own, others Slot.first⟩

end Credential

end OtpToken
