import OtpToken.Proofs.Credential

/-!
# Sealing and opening

Data that has been combined with a keystream is given back by combining it with the
same keystream again, and its first bytes depend on the first bytes only. What a vector
can open is told by the block that it starts from (`apply_cases`). A secret that fits a
slot can therefore always be sealed, and every vault with the same key opens it
(`sealSecret_keyed`).
-/

namespace OtpToken

namespace ChaCha20

variable {key : Block keySize} {nonce : Block nonceSize} {first : Nat} {data result : Bytes}

/-- The keystream of some blocks is as long as they are together. -/
theorem length_flatMap_keystreamBlock (key : Block keySize) (nonce : Block nonceSize) (first : Nat)
    (places : List Nat) :
    (places.flatMap fun place => (keystreamBlock key nonce (first + place)).val).length =
      places.length * blockSize := by
  induction places with
  | nil => simp
  | cons place rest ih =>
    rw [List.flatMap_cons, List.length_append, ih, List.length_cons,
      (keystreamBlock key nonce (first + place)).property, Nat.succ_mul, Nat.add_comm]

/-- The blocks that some bytes reach into hold them. -/
theorem le_blocksFor_mul (length : Nat) : length ≤ blocksFor length * blockSize := by
  rw [blocksFor, blockSize]
  omega

/-- More data take at least as many blocks. -/
theorem blocksFor_mono {length more : Nat} (fewer : length ≤ more) :
    blocksFor length ≤ blocksFor more :=
  Nat.div_le_div_right (Nat.add_le_add_right fewer _)

/-- A keystream is as long as it has been asked for. -/
theorem length_keystream (key : Block keySize) (nonce : Block nonceSize) (first length : Nat) :
    (keystream key nonce first length).length = length := by
  rw [keystream, List.length_take, length_flatMap_keystreamBlock, List.length_range]
  exact Nat.min_eq_left (le_blocksFor_mul length)

/-- A shorter keystream is the start of a longer one. -/
theorem take_keystream (key : Block keySize) (nonce : Block nonceSize) (first : Nat)
    {length more : Nat} (fewer : length ≤ more) :
    (keystream key nonce first more).take length = keystream key nonce first length := by
  obtain ⟨rest, blocks⟩ := Nat.exists_eq_add_of_le (blocksFor_mono fewer)
  have held : length ≤ ((List.range (blocksFor length)).flatMap fun place =>
      (keystreamBlock key nonce (first + place)).val).length := by
    rw [length_flatMap_keystreamBlock, List.length_range]
    exact le_blocksFor_mul length
  rw [keystream, keystream, List.take_take, Nat.min_eq_left fewer, blocks, List.range_add,
    List.flatMap_append, List.take_append_of_le_length held]

/-- To combine data twice with a stream that is long enough gives the data back. -/
theorem zipWith_xor_zipWith_xor (data stream : Bytes) (long : data.length ≤ stream.length) :
    List.zipWith (· ^^^ ·) (List.zipWith (· ^^^ ·) data stream) stream = data := by
  induction data generalizing stream with
  | nil => rfl
  | cons byte rest ih =>
    cases stream with
    | nil => simp at long
    | cons mask stream =>
      have tail : rest.length ≤ stream.length := Nat.le_of_succ_le_succ long
      simp only [List.zipWith_cons_cons, ih stream tail, UInt8.xor_assoc, UInt8.xor_self,
        UInt8.xor_zero]

/-- What has been combined with the keystream is as long as the data. -/
theorem length_combine? (combined : combine? key nonce first data = some result) :
    result.length = data.length := by
  unfold combine? at combined
  split at combined <;> cases combined
  rw [List.length_zipWith, length_keystream, Nat.min_self]

/-- Combining undoes itself. -/
theorem combine?_combine? (combined : combine? key nonce first data = some result) :
    combine? key nonce first result = some data := by
  have same := length_combine? combined
  unfold combine? at combined ⊢
  split at combined <;> cases combined
  next enough =>
    have stream := length_keystream key nonce first data.length
    rw [same, if_pos enough, zipWith_xor_zipWith_xor _ _ (Nat.le_of_eq stream.symm)]

/-- The first bytes of a combination are the combination of the first bytes. -/
theorem combine?_take (count : Nat) (combined : combine? key nonce first data = some result) :
    combine? key nonce first (data.take count) = some (result.take count) := by
  have shorter : (data.take count).length ≤ data.length := List.length_take_le' count data
  unfold combine? at combined ⊢
  split at combined <;> cases combined
  next enough =>
    have stream : (keystream key nonce first data.length).take count =
        keystream key nonce first (data.take count).length := by
      rw [← take_keystream key nonce first shorter, List.length_take,
        List.take_eq_take_min, length_keystream]
    rw [if_pos (Nat.le_trans (blocksFor_mono shorter) enough), List.take_zipWith, stream]

end ChaCha20

namespace DeviceKey

variable {key : DeviceKey} {iv : Block ivSize} {data result : Bytes}

/-- The cipher accepts data of at most 64 bytes that the keystream from the block of the IV suffices
for. -/
theorem apply_eq_ok (applied : apply key iv data = .ok result) :
    data.length ≤ Secret.maxLength ∧
      ChaCha20.combine? key (nonceOf iv) (startBlock iv) data = some result := by
  unfold apply at applied
  split at applied
  next short =>
    split at applied <;> cases applied
    exact ⟨short, ‹_›⟩
  next => cases applied

/-- The cipher keeps the length of its data. -/
theorem length_apply (applied : apply key iv data = .ok result) : result.length = data.length :=
  ChaCha20.length_combine? (apply_eq_ok applied).2

/-- The cipher undoes what it has done. -/
theorem apply_apply (applied : apply key iv data = .ok result) : apply key iv result = .ok data := by
  obtain ⟨short, combined⟩ := apply_eq_ok applied
  rw [apply, if_pos (by rw [length_apply applied]; exact short), ChaCha20.combine?_combine? combined]

/-- The first bytes of what is opened are what the first bytes open to. -/
theorem apply_take (count : Nat) (applied : apply key iv data = .ok result) :
    apply key iv (data.take count) = .ok (result.take count) := by
  obtain ⟨short, combined⟩ := apply_eq_ok applied
  rw [apply, if_pos (Nat.le_trans (List.length_take_le' count data) short),
    ChaCha20.combine?_take count combined]

/-- The block from which the keystream has no room. -/
def lastBlock : Nat := UInt32.size - 1

/-- No IV starts behind the last block. -/
theorem startBlock_le (iv : Block ivSize) : startBlock iv ≤ lastBlock := by
  have bound := ofLittleEndian_lt (iv.val.take 4)
  rw [List.length_take, iv.property] at bound
  exact Nat.le_of_lt_succ bound

/-- A vector has room for data if there is none, or if it does not start from the last block: one
block is enough for any secret. -/
theorem blocksFor_le_iff (short : data.length ≤ Secret.maxLength) :
    ChaCha20.blocksFor data.length ≤ lastBlock - startBlock iv ↔
      data = [] ∨ startBlock iv < lastBlock := by
  have bound : data.length ≤ 64 := short
  have start := startBlock_le iv
  rw [ChaCha20.blocksFor, ChaCha20.blockSize, ← List.length_eq_zero_iff]
  omega

/-- Opening fails for data that is too long and for a vector that has no room for it. -/
theorem apply_cases (key : DeviceKey) (iv : Block ivSize) (data : Bytes) :
    if data.length ≤ Secret.maxLength ∧ (data = [] ∨ startBlock iv < lastBlock) then
      ∃ result, key.apply iv data = .ok result
    else key.apply iv data = .error .sealing := by
  have size : UInt32.size - 1 = lastBlock := rfl
  rw [apply, ChaCha20.combine?, size]
  by_cases short : data.length ≤ Secret.maxLength
  · by_cases room : data = [] ∨ startBlock iv < lastBlock
    · rw [if_pos ⟨short, room⟩, if_pos short, if_pos ((blocksFor_le_iff short).mpr room)]
      exact ⟨_, rfl⟩
    · have tight := mt (blocksFor_le_iff short).mp room
      rw [if_neg fun both => room both.2, if_pos short, if_neg tight]
  · rw [if_neg fun both => short both.1, if_neg short]

/-- The cipher accepts exactly the data of at most 64 bytes that are empty or do not begin at the
last block. -/
theorem apply_isOk_iff : (∃ result, apply key iv data = .ok result) ↔
    data.length ≤ Secret.maxLength ∧ (data = [] ∨ startBlock iv < lastBlock) := by
  have outcome := apply_cases key iv data
  split at outcome
  next fits => exact ⟨fun _ => fits, fun _ => outcome⟩
  next misfit =>
    refine ⟨fun ⟨result, applied⟩ => ?_, fun fits => absurd fits misfit⟩
    cases applied.symm.trans outcome

/-- A secret can be opened unless its vector starts from the last block. -/
theorem apply_of_short (filled : data ≠ []) (short : data.length ≤ Secret.maxLength) :
    if startBlock iv = lastBlock then key.apply iv data = .error .sealing
    else ∃ result, key.apply iv data = .ok result := by
  have outcome := apply_cases key iv data
  have start := startBlock_le iv
  by_cases last : startBlock iv = lastBlock
  · rw [if_neg fun ⟨_, room⟩ => Nat.ne_of_lt (room.resolve_left filled) last] at outcome
    rwa [if_pos last]
  · rw [if_pos ⟨short, .inr (Nat.lt_of_le_of_ne start last)⟩] at outcome
    rwa [if_neg last]

/-- A drawn vector starts from the first block, from where there is room for any secret. -/
theorem apply_drawn (key : DeviceKey) (nonce : Nonce) (short : data.length ≤ Secret.maxLength) :
    ∃ result, apply key nonce.iv data = .ok result := by
  have start : startBlock nonce.iv = 0 := by
    rw [startBlock, Nonce.iv, List.take_left' (Block.zero 4).property]
    rfl
  exact apply_isOk_iff.mpr ⟨short, .inr (by rw [start]; decide)⟩

/-- A secret that fits a slot is sealed, and the same key opens it. -/
theorem sealSecret_eq_ok (key : DeviceKey) (nonce : Nonce) {secret : Bytes}
    (short : secret.length ≤ Secret.maxLength) :
    ∃ result, key.sealSecret nonce secret = .ok result ∧
      result.ciphertext.length = secret.length ∧
      key.apply result.iv result.ciphertext = .ok secret := by
  obtain ⟨ciphertext, applied⟩ := apply_drawn key nonce short
  refine ⟨⟨nonce.iv, ciphertext⟩, ?_, length_apply applied, apply_apply applied⟩
  rw [sealSecret, applied]
  rfl

end DeviceKey

namespace KeyedVault

/-- A secret that fits a slot is sealed, and opened by every vault with the same key. -/
theorem sealSecret_keyed (vault : KeyedVault) {secret : Bytes}
    (short : secret.length ≤ Secret.maxLength) :
    ∃ result, Vault.sealSecret vault secret = .ok (result, { vault with drawn := vault.drawn + 1 }) ∧
      result.ciphertext.length = secret.length ∧
      Vault.openSecret vault result.iv result.ciphertext = .ok secret := by
  obtain ⟨result, sealed, length, opened⟩ :=
    vault.key.sealSecret_eq_ok (vault.nonces vault.drawn) short
  refine ⟨result, ?_, length, opened⟩
  simp only [Vault.sealSecret, sealed, bind, Except.bind, pure, Except.pure]

end KeyedVault

namespace Credential

/-- An installed secret is what a slot opens, and its counter starts over. -/
theorem install_eq_ok {credential : Credential} {secret : Sealed}
    (fits : 1 ≤ secret.ciphertext.length ∧ secret.ciphertext.length ≤ Secret.maxLength) :
    ∃ installed, credential.install secret = .ok installed ∧ installed.isConfigured = true ∧
      installed.iv = secret.iv ∧ installed.sealedSecret = secret.ciphertext ∧
      installed.counter = 0 ∧ installed.digits = credential.digits := by
  refine ⟨_, dif_pos fits, ?_, rfl, ?_, rfl, rfl⟩
  · simp only [isConfigured, bne_iff_ne]
    omega
  · simp only [sealedSecret, Block.padded]
    rw [List.take_of_length_le fits.2, List.take_left' rfl]

end Credential

end OtpToken
