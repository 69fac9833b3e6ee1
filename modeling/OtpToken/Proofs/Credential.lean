import OtpToken.Keystore
import OtpToken.Proofs.Bytes

/-!
# Records of credentials

A record gives back the credential it was made of, in the slot that it is read for,
and a credential that was read from a record makes that record again
(`ofRecord?_record`, `record_ofRecord?`). Each slot has a key of its own.
-/

namespace OtpToken

namespace Credential

variable {slot : Slot} {bytes : Bytes} {credential : Credential}

/-- All records are of one size. -/
theorem length_record (credential : Credential) : credential.record.length = recordSize := by
  have vector : credential.iv.val.length = ivSize := credential.iv.property
  have field : credential.field.val.length = Secret.maxLength := credential.field.property
  simp only [record, List.cons_append, List.length_cons, List.length_append, length_littleEndian,
    vector, field]
  rfl

/-- The first byte of a record is the length of the secret. -/
theorem headD_record (credential : Credential) :
    (credential.record.headD 0).toNat = credential.secretLength := by
  have short : credential.secretLength < 256 :=
    Nat.lt_of_le_of_lt credential.secretLength_le (by decide)
  exact UInt8.toNat_ofNat_of_lt' short

/-- The last bytes of a record are the counter, least significant byte first. -/
theorem drop_record (credential : Credential) :
    credential.record.drop counterOffset = littleEndian 8 credential.counter.toNat := by
  have front : (UInt8.ofNat credential.secretLength :: credential.iv.val ++
      credential.field.val).length = counterOffset := by
    rw [List.cons_append, List.length_cons, List.length_append, credential.iv.property,
      credential.field.property]
    rfl
  rw [record, List.drop_left' front]

/-- The record of a credential is valid. -/
theorem isRecord_record (credential : Credential) : IsRecord credential.record :=
  ⟨length_record credential, Nat.le_trans (Nat.le_of_eq (headD_record credential))
    credential.secretLength_le⟩

/-- A record gives back its credential, with the digits of the slot that it is read for. -/
theorem ofRecord?_record (slot : Slot) (credential : Credential) :
    ofRecord? slot credential.record = some { credential with digits := slot.digits } := by
  have counter : UInt64.ofNat (ofLittleEndian (credential.record.drop counterOffset)) =
      credential.counter := by
    rw [drop_record, ofLittleEndian_littleEndian, Nat.mod_eq_of_lt credential.counter.toNat_lt]
    exact UInt64.ofNat_toNat
  have second : [UInt8.ofNat credential.secretLength].length = 1 := rfl
  have third : (UInt8.ofNat credential.secretLength :: credential.iv.val).length = fieldOffset := by
    rw [List.length_cons, credential.iv.property]
    rfl
  have vector := Block.slice_of_append [UInt8.ofNat credential.secretLength]
    (credential.field.val ++ littleEndian 8 credential.counter.toNat) credential.iv second
  have field := Block.slice_of_append (UInt8.ofNat credential.secretLength :: credential.iv.val)
    (littleEndian 8 credential.counter.toNat) credential.field third
  rw [ofRecord?, dif_pos (isRecord_record credential)]
  simp only [Option.some.injEq, mk.injEq, and_true, headD_record, counter, true_and]
  refine ⟨?_, field _⟩
  have whole : [UInt8.ofNat credential.secretLength] ++ credential.iv.val ++
      (credential.field.val ++ littleEndian 8 credential.counter.toNat) = credential.record := by
    simp [record]
  simp only [whole] at vector
  exact vector (by rw [length_record]; decide)

/-- A credential that was read from a record makes that record. -/
theorem record_ofRecord? (read : ofRecord? slot bytes = some credential) :
    credential.record = bytes := by
  unfold ofRecord? at read
  split at read
  next valid =>
    cases read
    have length : bytes.length = 89 := valid.1
    cases bytes with
    | nil => cases length
    | cons first rest =>
      have length : rest.length = 88 := Nat.succ.inj length
      have counter : ∀ tail : Bytes, tail.length = 8 →
          littleEndian 8 (UInt64.ofNat (ofLittleEndian tail)).toNat = tail := by
        intro tail eight
        have bound := ofLittleEndian_lt tail
        rw [eight] at bound
        rw [UInt64.toNat_ofNat_of_lt' bound]
        exact (congrArg (littleEndian · _) eight.symm).trans (littleEndian_ofLittleEndian tail)
      have tail : ((first :: rest).drop counterOffset).length = 8 := by
        rw [List.length_drop, List.length_cons, length]
        rfl
      simp only [record, Block.slice, List.headD_cons, UInt8.ofNat_toNat, counter _ tail]
      have vector : List.drop 1 (first :: rest) = rest := rfl
      have field : List.drop fieldOffset (first :: rest) = rest.drop ivSize := by
        rw [fieldOffset, Nat.add_comm, List.drop_succ_cons]
      have last : List.drop counterOffset (first :: rest) =
          (rest.drop ivSize).drop Secret.maxLength := by
        rw [List.drop_drop, counterOffset, fieldOffset, Nat.add_assoc, Nat.add_comm 1,
          List.drop_succ_cons]
      rw [vector, field, last, List.cons_append, List.cons_append, List.append_assoc,
        List.take_append_drop, List.take_append_drop]
  next => cases read

/-- A credential that is read has the digits of the slot that it is read for. -/
theorem digits_ofRecord? (read : ofRecord? slot bytes = some credential) :
    credential.digits = slot.digits := by
  unfold ofRecord? at read
  split at read <;> cases read
  rfl

/-- The sealed secret is as long as the credential says. -/
theorem length_sealedSecret (credential : Credential) :
    credential.sealedSecret.length = credential.secretLength := by
  rw [sealedSecret, List.length_take, credential.field.property]
  exact Nat.min_eq_left credential.secretLength_le

/-- The credential with the next counter. -/
def next (credential : Credential) : Credential :=
  { credential with counter := credential.counter + 1 }

/-- Below its limit a counter is used up, and the next one follows. -/
theorem advance_of_lt (below : credential.counter.toNat + 1 < UInt64.size) :
    credential.advance = .ok (credential.counter, credential.next) := if_pos below

/-- Below the limit the next counter is larger by one. -/
theorem toNat_counter_next (below : credential.counter.toNat + 1 < UInt64.size) :
    credential.next.counter.toNat = credential.counter.toNat + 1 := by
  rw [next, UInt64.toNat_add]
  exact Nat.mod_eq_of_lt below

end Credential

namespace Slot

/-- Every slot has a number of digits that codes may have. -/
theorem digits_mem (slot : Slot) : 1 ≤ slot.digits ∧ slot.digits ≤ Code.maxDigits := by
  revert slot
  decide

end Slot

namespace Keystore

/-- No slot has an empty key. -/
theorem recordKey_ne_nil (slot : Slot) : recordKey slot ≠ [] := by
  revert slot
  decide +kernel

/-- Different slots have different keys. -/
theorem recordKey_injective {slot other : Slot} (same : recordKey slot = recordKey other) :
    slot = other := by
  revert slot other
  decide +kernel

end Keystore

end OtpToken
