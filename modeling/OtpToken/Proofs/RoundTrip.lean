import OtpToken.Proofs.Records
import OtpToken.Proofs.Sealing

/-!
# Secrets from sealing to opening

A secret is sealed, installed, counted with, written as a record, read back and opened. Whatever the
slot held before, a longer secret included, it is the same secret that comes out, as long as the
counter lasts. A vector and bytes that nobody has sealed can be tried as well: whether they open is
decided by the number of bytes and by the block that the vector starts from (`round_trip`).
-/

namespace OtpToken

namespace Credential

/-- The credential after as many codes as are asked for. -/
def advanceBy : Nat → Credential → Except Trap Credential
  | 0, credential => .ok credential
  | count + 1, credential => do
    let (_, moved) ← credential.advance
    moved.advanceBy count

variable {credential : Credential} {count : Nat}

/-- Advancing moves the counter and nothing else. -/
theorem advanceBy_of_lt (below : credential.counter.toNat + count < UInt64.size) :
    credential.advanceBy count =
      .ok { credential with counter := UInt64.ofNat (credential.counter.toNat + count) } := by
  induction count generalizing credential with
  | zero => rw [advanceBy, Nat.add_zero, UInt64.ofNat_toNat]
  | succ count ih =>
    have first : credential.counter.toNat + 1 < UInt64.size := by omega
    have moved := toNat_counter_next first
    have rest : credential.next.counter.toNat + count < UInt64.size := by omega
    have total : credential.next.counter.toNat + count = credential.counter.toNat + (count + 1) := by
      omega
    rw [advanceBy, advance_of_lt first]
    exact (ih rest).trans (by rw [total]; rfl)

/-- The counter never wraps around. -/
theorem advanceBy_of_le (beyond : UInt64.size ≤ credential.counter.toNat + count) :
    credential.advanceBy count = .error .counterOverflow := by
  induction count generalizing credential with
  | zero => exact absurd credential.counter.toNat_lt (Nat.not_lt.mpr beyond)
  | succ count ih =>
    by_cases first : credential.counter.toNat + 1 < UInt64.size
    · have moved := toNat_counter_next first
      have rest : UInt64.size ≤ credential.next.counter.toNat + count := by omega
      rw [advanceBy, advance_of_lt first]
      exact ih rest
    · -- The counter is at its last value already.
      rw [advanceBy, advance, if_neg first]
      rfl

/-- A counter that starts over counts the codes. -/
theorem advanceBy_of_fresh (fresh : credential.counter = 0) (below : count < UInt64.size) :
    credential.advanceBy count = .ok { credential with counter := UInt64.ofNat count } := by
  have start : credential.counter.toNat + count = count := by
    rw [fresh]
    exact Nat.zero_add count
  rw [advanceBy_of_lt (by rwa [start]), start]

end Credential

namespace DeviceKey

/-- A secret survives being sealed, installed over any credential of a slot, counted with as often
as the counter can be advanced, written and read back. Any bytes at all are opened unless they are
too many, or there are some and the vector starts from the last block; opening keeps their number,
undoes itself, and gives the first bytes without the others. -/
theorem round_trip (key : DeviceKey) :
    (∀ (nonce : Nonce) (secret : Bytes) (slot : Slot) (before : Credential) (count : Nat),
      1 ≤ secret.length → secret.length ≤ 64 → before.digits = slot.digits →
      ∃ stored installed, key.sealSecret nonce secret = .ok stored ∧
        before.install stored = .ok installed ∧
        if count < UInt64.size then
          ∃ advanced restored, installed.advanceBy count = .ok advanced ∧
            Credential.parse slot.val advanced.record = .ok (some restored) ∧
            key.apply restored.iv restored.sealedSecret = .ok secret ∧
            restored.secretLength = secret.length ∧ restored.counter.toNat = count ∧
            restored.digits = slot.digits
        else installed.advanceBy count = .error .counterOverflow) ∧
    ∀ (iv : Block ivSize) (data : Bytes),
      ((∃ result, key.apply iv data = .ok result) ↔
        data.length ≤ 64 ∧ (data = [] ∨ ofLittleEndian (iv.val.take 4) < UInt32.size - 1)) ∧
      ∀ result, key.apply iv data = .ok result →
        result.length = data.length ∧ key.apply iv result = .ok data ∧
        ∀ count, key.apply iv (data.take count) = .ok (result.take count) := by
  refine ⟨?_, fun iv data => ⟨apply_isOk_iff, fun result applied =>
    ⟨length_apply applied, apply_apply applied, fun count => apply_take count applied⟩⟩⟩
  intro nonce secret slot before count filled short own
  obtain ⟨stored, sealed, length, opened⟩ := key.sealSecret_eq_ok nonce short
  have fits : 1 ≤ stored.ciphertext.length ∧ stored.ciphertext.length ≤ Secret.maxLength :=
    ⟨length ▸ filled, length ▸ short⟩
  obtain ⟨installed, done, -, vector, kept, counter, digits⟩ := before.install_eq_ok fits
  refine ⟨stored, installed, sealed, done, ?_⟩
  split
  next below =>
    let advanced : Credential := { installed with counter := UInt64.ofNat count }
    have moved : installed.advanceBy count = .ok advanced :=
      Credential.advanceBy_of_fresh counter below
    have read : Credential.parse slot.val advanced.record = .ok (some advanced) := by
      rw [Credential.parse_record, ← own, ← digits]
    have size : installed.secretLength = secret.length := by
      rw [← Credential.length_sealedSecret, kept, length]
    have secretKept : key.apply advanced.iv advanced.sealedSecret = .ok secret := by
      rw [← opened, ← vector, ← kept]
      rfl
    exact ⟨advanced, advanced, moved, read, secretKept, size, UInt64.toNat_ofNat_of_lt' below,
      digits.trans own⟩
  next beyond =>
    refine Credential.advanceBy_of_le (Nat.le_trans (Nat.not_lt.mp beyond) ?_)
    exact Nat.le_add_left count _

/-- Three bytes over a slot that holds twenty, and a vector that has no room. -/
theorem round_trip_over_longer :
    let key : DeviceKey := ⟨List.replicate 32 7, rfl⟩
    (∃ stored installed advanced restored,
      key.sealSecret (Block.zero ChaCha20.nonceSize) [1, 2, 3] = .ok stored ∧
      Credential.settled.install stored = .ok installed ∧ installed.advanceBy 5 = .ok advanced ∧
      Credential.parse 2 advanced.record = .ok (some restored) ∧
      key.apply restored.iv restored.sealedSecret = .ok [1, 2, 3] ∧
      restored.counter.toNat = 5) ∧
    ¬ ∃ result, key.apply ⟨List.replicate 16 0xff, rfl⟩ [0] = .ok result := by
  intro key
  obtain ⟨whole, any⟩ := round_trip key
  constructor
  · obtain ⟨stored, installed, sealed, done, rest⟩ :=
      whole (Block.zero ChaCha20.nonceSize) [1, 2, 3] Slot.third Credential.settled 5 (by decide)
        (by decide) (by decide)
    rw [if_pos (by decide)] at rest
    obtain ⟨advanced, restored, moved, read, opened, -, counter, -⟩ := rest
    exact ⟨stored, installed, advanced, restored, sealed, done, moved, read, opened, counter⟩
  · rw [(any ⟨List.replicate 16 0xff, rfl⟩ [0]).1]
    decide

end DeviceKey

end OtpToken
