import OtpToken.Proofs.Blocking.Twins
import OtpToken.Proofs.Device.Running

/-!
# Twin devices

Two devices are twins if each has a device key of its own and they differ at most in how their
secrets are sealed: what the one opens under its key is what the other opens under its own.
Whatever twins do, they do alike. A secret is sealed by either or by neither, is stored in the
place of its twin, comes back as its twin after a restart, and opens to the same bytes when a code
is derived from it, so that no branch and no delay depends on how it is sealed
(`Device.blind_emitCode`, `Device.blind_programSecret`, `Device.blind_run`, `Device.blind_boot`).
-/

namespace OtpToken

open Act BoardAct

variable {one other : DeviceKey}

/-- Every key opens nothing to nothing. -/
theorem DeviceKey.apply_nil (key : DeviceKey) (iv : Block ivSize) : key.apply iv [] = .ok [] := by
  have blocks : ChaCha20.blocksFor 0 = 0 := rfl
  simp [apply, ChaCha20.combine?, blocks]

/-- The same secret, sealed under two keys. -/
def Sealed.Twins (one other : DeviceKey) (first second : Sealed) : Prop :=
  ∃ secret, one.apply first.iv first.ciphertext = .ok secret ∧
    other.apply second.iv second.ciphertext = .ok secret

/-- A secret is sealed in equally many bytes under both keys. -/
theorem Sealed.Twins.length {first second : Sealed} (twins : Sealed.Twins one other first second) :
    second.ciphertext.length = first.ciphertext.length := by
  obtain ⟨secret, opened, found⟩ := twins
  exact (DeviceKey.length_apply found).symm.trans (DeviceKey.length_apply opened)

/-- What a credential holds sealed. -/
def Credential.held (credential : Credential) : Sealed := ⟨credential.iv, credential.sealedSecret⟩

/-- Credentials that differ at most in how the same secret is sealed. -/
structure Credential.Twins (one other : DeviceKey) (credential twin : Credential) : Prop where
  secretLength : twin.secretLength = credential.secretLength
  counter : twin.counter = credential.counter
  digits : twin.digits = credential.digits
  held : Sealed.Twins one other credential.held twin.held

namespace Credential

variable {slot : Slot} {credential twin : Credential}

/-- Bytes of another length are no record. -/
theorem ofRecord?_of_length {bytes : Bytes} (incomplete : bytes.length ≠ recordSize) :
    ofRecord? slot bytes = none :=
  dif_neg fun valid => incomplete valid.1

namespace Twins

/-- Nothing is sealed in one way only. -/
theorem of_empty (empty : credential.secretLength = 0) : Twins one other credential credential := by
  have nothing : credential.sealedSecret = [] := by
    rw [sealedSecret, empty, List.take_zero]
  refine ⟨rfl, rfl, rfl, [], ?_, ?_⟩ <;> rw [Credential.held, nothing, DeviceKey.apply_nil]

/-- Twins that lose their secrets are still twins. -/
theorem clear (twins : Twins one other credential twin) :
    Twins one other credential.clear twin.clear :=
  ⟨rfl, twins.counter, twins.digits, [], DeviceKey.apply_nil .., DeviceKey.apply_nil ..⟩

/-- Both of two twins hold a secret, or neither does. -/
theorem isConfigured (twins : Twins one other credential twin) :
    twin.isConfigured = credential.isConfigured := by
  rw [Credential.isConfigured, twins.secretLength, Credential.isConfigured]

/-- Twins use up the same counter, and stop at the same limit. -/
theorem advance (twins : Twins one other credential twin) :
    Answers (fun used found => found.1 = used.1 ∧ Twins one other used.2 found.2)
      credential.advance twin.advance := by
  unfold Credential.advance
  rw [twins.counter]
  split
  · exact .ok ⟨rfl, { twins with counter := rfl }⟩
  · exact .error _

/-- Either takes its sealed secret, or neither does. -/
theorem install (twins : Twins one other credential twin) {first second : Sealed}
    (sealings : Sealed.Twins one other first second) :
    Answers (Twins one other) (credential.install first) (twin.install second) := by
  have length := sealings.length
  by_cases fits : 1 ≤ first.ciphertext.length ∧ first.ciphertext.length ≤ Secret.maxLength
  · obtain ⟨here, installed, _, iv, ciphertext, counter, digits⟩ :=
      @install_eq_ok credential first fits
    obtain ⟨there, taken, _, ivThere, ciphertextThere, counterThere, digitsThere⟩ :=
      @install_eq_ok twin second (length.symm ▸ fits)
    rw [installed, taken]
    refine .ok ⟨?_, counterThere.trans counter.symm, ?_, ?_⟩
    · rw [← length_sealedSecret, ← length_sealedSecret, ciphertext, ciphertextThere, length]
    · rw [digits, digitsThere, twins.digits]
    · rw [Credential.held, Credential.held, iv, ivThere, ciphertext, ciphertextThere]
      exact sealings
  · rw [Credential.install, Credential.install, dif_neg fits, dif_neg (length.symm ▸ fits)]
    exact .error _

end Twins

end Credential

/-- Stored values that differ at most in how the secret of a record is sealed. -/
structure RecordsAlike (one other : DeviceKey) (value changed : Bytes) : Prop where
  length : changed.length = value.length
  whole : value.length = 0 ∨ value.length = Credential.recordSize
  secretLength : changed.take 1 = value.take 1
  counter : changed.drop Credential.counterOffset = value.drop Credential.counterOffset
  restored : ∀ slot, Option.Rel (Credential.Twins one other) (Credential.ofRecord? slot value)
    (Credential.ofRecord? slot changed)

namespace RecordsAlike

/-- Alike records are of the same length, and a record is written whole or not at all. -/
theorem likeness : Likeness (RecordsAlike one other) where
  empty := ⟨rfl, .inl rfl, rfl, rfl, fun slot => by
    rw [Credential.ofRecord?_of_length (by decide)]
    exact .none⟩
  length := RecordsAlike.length
  whole := RecordsAlike.whole

/-- Zeros are the record of an unconfigured slot, under every key. -/
theorem zeros : RecordsAlike one other (List.replicate Credential.recordSize 0)
    (List.replicate Credential.recordSize 0) := by
  refine ⟨rfl, .inr List.length_replicate, rfl, rfl, fun slot => ?_⟩
  unfold Credential.ofRecord?
  split
  · exact .some (.of_empty rfl)
  · exact .none

/-- The records of twins are alike. -/
theorem record {credential twin : Credential} (twins : Credential.Twins one other credential twin) :
    RecordsAlike one other credential.record twin.record := by
  refine ⟨?_, .inr (Credential.length_record _), ?_, ?_, fun slot => ?_⟩
  · rw [Credential.length_record, Credential.length_record]
  · rw [Credential.record, twins.secretLength]
    rfl
  · rw [Credential.drop_record, Credential.drop_record, twins.counter]
  · rw [Credential.ofRecord?_record, Credential.ofRecord?_record]
    exact .some { twins with digits := rfl }

/-- What is read of alike values is a record on both sides or on neither. -/
theorem take {value changed : Bytes} (alike : RecordsAlike one other value changed) (length : Nat)
    (slot : Slot) :
    Option.Rel (Credential.Twins one other) (Credential.ofRecord? slot (value.take length))
      (Credential.ofRecord? slot (changed.take length)) := by
  by_cases all : value.length ≤ length
  · have allChanged : changed.length ≤ length := alike.length.symm ▸ all
    rw [List.take_of_length_le all, List.take_of_length_le allChanged]
    exact alike.restored slot
  · -- What has been cut short is no record, whatever it was cut from.
    have short : ∀ bytes : Bytes, bytes.length = value.length →
        (bytes.take length).length ≠ Credential.recordSize := by
      intro bytes same
      have whole := alike.whole
      rw [List.length_take]
      omega
    rw [Credential.ofRecord?_of_length (short value rfl),
      Credential.ofRecord?_of_length (short changed alike.length)]
    exact .none

end RecordsAlike

/-- Only secrets that fit a slot are decoded. -/
theorem Secret.answers_decode (text : String) :
    Answers (fun secret found => secret = found ∧ secret.length ≤ maxLength) (decode text)
      (decode text) := by
  cases decoded : decode text with
  | ok secret => exact .ok ⟨rfl, (length_of_decode decoded).2⟩
  | error fault => exact .error fault

/-- The same slots were formatted, and the credentials are twins. -/
structure Restored.Twins (one other : DeviceKey) (restored found : Restored) : Prop where
  credentials : ∀ slot, Credential.Twins one other (restored.credentials.get slot)
    (found.credentials.get slot)
  formatted : found.formatted = restored.formatted

/-- The slots of a device that has not been restored yet are twins. -/
theorem Credential.Twins.blank (slot : Slot) :
    Credential.Twins one other ((Vector.ofFn Credential.blank).get slot)
      ((Vector.ofFn Credential.blank).get slot) := by
  have blank : (Vector.ofFn Credential.blank).get slot = Credential.blank slot :=
    Vector.getElem_ofFn slot.isLt
  rw [blank]
  exact .of_empty rfl

/-- Vectors of twins stay so when twins are put into the same slot. -/
theorem Credential.Twins.set {credentials twins : Vector Credential slotCount}
    (all : ∀ slot, Credential.Twins one other (credentials.get slot) (twins.get slot)) (slot : Slot)
    {credential twin : Credential} (same : Credential.Twins one other credential twin)
    (place : Slot) :
    Credential.Twins one other ((credentials.set slot.val credential slot.isLt).get place)
      ((twins.set slot.val twin slot.isLt).get place) := by
  rw [Keystore.get_set, Keystore.get_set]
  split
  · exact same
  · exact all place

namespace Keystore

/-- What is loaded from twin stores is missing on both, or a credential and its twin. -/
theorem matches_load (slot : Slot) :
    Matches (Board.Twins (RecordsAlike one other)) (Option.Rel (Credential.Twins one other))
      (load slot) (load slot) := by
  refine .bind (.attempt (matches_getValue RecordsAlike.likeness _ RecordsAlike.zeros))
    fun answer found same => ?_
  cases same with
  | ok fronts =>
    obtain ⟨value, changed, alike, read, got⟩ := fronts
    rw [read, got]
    exact .pure (alike.take _ slot)
  | error fault =>
    dsimp only
    split
    · exact .pure .none
    · exact .fail _

/-- A credential is saved by one device as its twin is by the other. -/
theorem matches_save (slot : Nat) {credential twin : Credential}
    (twins : Credential.Twins one other credential twin) :
    Matches (Board.Twins (RecordsAlike one other)) Eq (save slot credential) (save slot twin) :=
  matches_setValue RecordsAlike.likeness _ (.record twins)

/-- A slot is restored on both devices alike. -/
theorem matches_restore (slot : Slot) {restored found : Restored}
    (twins : Restored.Twins one other restored found) :
    Matches (Board.Twins (RecordsAlike one other)) (Restored.Twins one other)
      (restore restored slot) (restore found slot) := by
  have blank : Credential.Twins one other (.blank slot) (.blank slot) := .of_empty rfl
  have formats : Matches (Board.Twins (RecordsAlike one other)) (Restored.Twins one other)
      (do
        let _ ← attempt (save slot (Credential.blank slot))
        return (⟨restored.credentials.set slot.val (Credential.blank slot) slot.isLt,
          restored.formatted ++ [slot]⟩ : Restored))
      (do
        let _ ← attempt (save slot (Credential.blank slot))
        return ⟨found.credentials.set slot.val (Credential.blank slot) slot.isLt,
          found.formatted ++ [slot]⟩) :=
    .bind (.attempt (matches_save slot.val blank)) fun _ _ _ =>
      .pure ⟨Credential.Twins.set twins.credentials slot blank, by rw [twins.formatted]⟩
  refine .bind (.attempt (matches_load slot)) fun answer changed same => ?_
  cases same with
  | ok same =>
    cases same with
    | some same => exact .pure ⟨Credential.Twins.set twins.credentials slot same, twins.formatted⟩
    | none => exact formats
  | error fault => exact formats

/-- All slots are restored on both devices alike. -/
theorem matches_loadAll :
    Matches (Board.Twins (RecordsAlike one other)) (Restored.Twins one other) loadAll loadAll :=
  .foldlM (fun _ _ slot => matches_restore slot) Slot.all ⟨Credential.Twins.blank, rfl⟩

end Keystore

/-- Devices that differ at most in their keys, their nonces, and how their secrets are sealed. -/
structure Device.Twins (one other : DeviceKey) (device twin : Device KeyedVault) : Prop where
  board : Board.Twins (RecordsAlike one other) device.board twin.board
  key : device.vault.key = one
  otherKey : twin.vault.key = other
  credentials : ∀ slot, Credential.Twins one other (device.credentials.get slot)
    (twin.credentials.get slot)

namespace Device

variable {α : Type} {values : α → α → Prop}

/-- An act cannot tell twin devices apart. -/
abbrev Blind (one other : DeviceKey) (act : DeviceAct KeyedVault α) : Prop :=
  Act.Matches (Device.Twins one other) Eq act act

/-- What matches on twin boards matches on the devices over them. -/
theorem matches_onBoard {action changed : BoardAct α}
    (same : Act.Matches (Board.Twins (RecordsAlike one other)) values action changed) :
    Act.Matches (Device.Twins one other) values (onBoard action) (onBoard changed) := by
  intro device twin twins
  have ended := same _ _ twins.board
  unfold onBoard
  generalize action device.board = first, changed twin.board = second at ended
  cases ended with
  | ok same boards => exact .ok same { twins with board := boards }
  | error boards => exact .error { twins with board := boards }

/-- Printing a line cannot tell twin devices apart. -/
theorem blind_printLine (line : String) : Blind one other (printLine line) :=
  matches_onBoard (BoardAct.Blind.printLine line)

/-- The credentials of one slot are twins. -/
theorem matches_credential (slot : Slot) :
    Act.Matches (Device.Twins one other) (Credential.Twins one other) (credential slot)
      (credential slot) :=
  fun _ _ twins => .ok (twins.credentials slot) twins

/-- A slot of one device takes a credential as that of the other takes its twin. -/
theorem matches_setCredential (slot : Slot) {credential twin : Credential}
    (same : Credential.Twins one other credential twin) :
    Act.Matches (Device.Twins one other) Eq (setCredential slot credential)
      (setCredential slot twin) :=
  fun _ _ twins => .ok rfl
    { twins with credentials := Credential.Twins.set twins.credentials slot same }

/-- Twin credentials open to the same secret, or neither opens. -/
theorem matches_openSecret {credential twin : Credential}
    (same : Credential.Twins one other credential twin) :
    Act.Matches (Device.Twins one other) Eq (openSecret credential) (openSecret twin) := by
  intro device found twins
  obtain ⟨secret, opened, equally⟩ := same.held
  rw [← twins.key] at opened
  rw [← twins.otherKey] at equally
  have here : Vault.openSecret device.vault credential.iv credential.sealedSecret = .ok secret :=
    opened
  have there : Vault.openSecret found.vault twin.iv twin.sealedSecret = .ok secret := equally
  unfold openSecret
  rw [here, there]
  exact .ok rfl twins

/-- A secret that fits a slot is sealed by both. -/
theorem matches_sealSecret {secret : Bytes} (short : secret.length ≤ Secret.maxLength) :
    Act.Matches (Device.Twins one other) (Sealed.Twins one other) (sealSecret secret)
      (sealSecret secret) := by
  intro device twin twins
  obtain ⟨first, sealing, _, opened⟩ := device.vault.sealSecret_keyed short
  obtain ⟨second, resealing, _, reopened⟩ := twin.vault.sealSecret_keyed short
  unfold sealSecret
  rw [sealing, resealing]
  exact .ok ⟨secret, twins.key ▸ opened, twins.otherKey ▸ reopened⟩ { twins with }

/-- The light of a slot is turned on and off alike. -/
theorem blind_setLight (slot : Slot) (lit : Bool) : Blind one other (setLight slot lit) :=
  matches_onBoard fun _ _ twins =>
    .ok rfl (settle_twins (BoardAct.Blind.command (elsewhere_setLight slot lit)) twins)

/-- What matches in the dark matches under a light. -/
theorem matches_withLight (slot : Slot) {body changed : DeviceAct KeyedVault α}
    (same : Act.Matches (Device.Twins one other) values body changed) :
    Act.Matches (Device.Twins one other) values (withLight slot body) (withLight slot changed) :=
  .bind_eq (blind_setLight slot true) fun _ => .bind (.attempt same) fun _ _ answers =>
    .bind_eq (blind_setLight slot false) fun _ => .ofExcept answers

/-- A credential is stored as its twin is, or the same fault is reported. -/
theorem matches_storeOrReport (slot : Slot) {credential twin : Credential}
    (same : Credential.Twins one other credential twin) :
    Act.Matches (Device.Twins one other) Eq (storeOrReport slot credential)
      (storeOrReport slot twin) := by
  refine .bind (.attempt (matches_onBoard (Keystore.matches_save slot.val same)))
    fun saved found answers => ?_
  cases answers with
  | ok _ => exact .pure rfl
  | error fault => exact blind_printLine _

/-- A number chooses the same slot on both devices. -/
theorem blind_slotOf (number : Nat) : Blind one other (slotOf number) := .ofExcept (.refl _)

/-- The same code is derived and delivered, under the same counter. -/
theorem blind_nextCode (slot : Slot) : Blind one other (nextCode slot) := by
  refine .bind (matches_credential slot) fun current twin same => ?_
  refine .bind_eq (matches_openSecret same) fun secret => ?_
  rw [same.counter, same.digits]
  refine .bind_eq (matches_onBoard (blind_generateCode RecordsAlike.likeness _ _ _)) fun code => ?_
  refine .bind (.ofTrapped same.advance) fun used found advanced => ?_
  obtain ⟨counter, later⟩ := advanced
  refine .bind_eq (matches_setCredential slot later) fun _ =>
    .bind_eq (matches_storeOrReport slot later) fun _ => ?_
  rw [counter]
  exact .bind_eq (matches_onBoard (blind_deliver RecordsAlike.likeness _ _)) fun _ => .pure rfl

/-- An emission cannot tell twin devices apart: it shows the same code, or ends with the same fault.
-/
theorem blind_emitCode (number : Nat) : Blind one other (emitCode number) := by
  refine .bind_eq (blind_slotOf number) fun slot =>
    .bind (matches_credential slot) fun current twin same => ?_
  rw [same.isConfigured]
  split
  · exact matches_withLight slot (blind_nextCode slot)
  · exact .fail _

/-- A text is installed in twin credentials alike. -/
theorem matches_installText {current twin : Credential}
    (same : Credential.Twins one other current twin) (text : String) :
    Act.Matches (Device.Twins one other) (Credential.Twins one other) (installText current text)
      (installText twin text) := by
  refine .bind (.ofExcept (Secret.answers_decode text)) fun key found short => ?_
  obtain ⟨rfl, short⟩ := short
  exact .bind (matches_sealSecret short) fun first second sealings =>
    .ofExcept (same.install sealings)

/-- Programming a text cannot tell twin devices apart. -/
theorem blind_programSecret (number : Nat) (text : String) :
    Blind one other (programSecret number text) := by
  refine .bind_eq (blind_slotOf number) fun slot =>
    .bind (matches_credential slot) fun current twin same => ?_
  refine .bind (.attempt (matches_installText same text)) fun installed found answers => ?_
  cases answers with
  | ok same =>
    exact .bind_eq (matches_setCredential slot same) fun _ =>
      .bind_eq (matches_onBoard (Keystore.matches_save slot.val same)) fun _ => blind_printLine _
  | error fault => exact .bind_eq (matches_setCredential slot same.clear) fun _ => .fail fault

/-- Asking for a secret and programming it cannot tell twins apart. -/
theorem blind_programNewSecret (number : Nat) : Blind one other (programNewSecret number) := by
  refine .bind_eq (blind_slotOf number) fun slot => matches_withLight slot ?_
  refine .bind_eq (blind_printLine _) fun _ => .bind_eq (blind_printLine _) fun _ =>
    .bind_eq (matches_onBoard (blind_readLine RecordsAlike.likeness)) fun line => ?_
  split
  · exact blind_printLine _
  · exact blind_programSecret number line

/-- A press is handled by twins alike. -/
theorem blind_handle (event : ButtonEvent) : Blind one other (handle event) := by
  unfold handle
  split
  · exact blind_programNewSecret _
  · exact .bind_eq (blind_emitCode _) fun _ => .pure rfl

/-- The next press is found and handled by twins alike. -/
theorem blind_handleNext (watch : ButtonWatch) : Blind one other (handleNext watch) :=
  .bind_eq (matches_onBoard (blind_nextEvent RecordsAlike.likeness watch)) blind_handle

/-- Twins serve the same presses, and are done at the same press. -/
theorem blind_serve (watch : ButtonWatch) : Blind one other (serve watch) := by
  intro device twin twins
  have handles := @blind_handleNext one other watch
  -- The turns of the one device are those of its twin: both are handed the same press, and what
  -- comes of it sends both on or ends both.
  fun_induction serve watch device generalizing twin with
  | case1 device _ after handled ih =>
    obtain ⟨left, run, twins⟩ := handles.eq_ok twins handled
    rw [serve_of_ok run]
    exact ih left twins
  | case2 device trap after handled =>
    obtain ⟨left, run, twins⟩ := handles.eq_error twins handled
    rw [serve_of_trap run]
    exact .error twins
  | case3 device after handled =>
    obtain ⟨left, run, twins⟩ := handles.eq_error twins handled
    rw [serve_of_fault run, if_pos rfl]
    exact .ok rfl twins
  | case4 device fault after handled other ih =>
    obtain ⟨left, run, twins⟩ := handles.eq_error twins handled
    obtain ⟨_, printed, twins⟩ := (blind_printLine (reportLine fault)).eq_ok twins rfl
    cases printed
    rw [serve_of_fault run, if_neg other]
    exact ih _ twins

/-- Twins run alike. -/
theorem blind_run : Blind one other run := by
  refine .bind_eq (blind_printLine usage) fun _ =>
    .bind (.attempt (matches_onBoard blind_begin)) fun begun found answers => ?_
  cases answers with
  | ok same =>
    subst same
    exact blind_serve _
  | error fault => exact .bind_eq (blind_printLine _) fun _ => .fail fault

/-- The default secret is programmed by twins alike. -/
theorem blind_programDefault : Blind one other programDefault := by
  refine .bind (.attempt (matches_withLight Slot.first (blind_programSecret _ defaultSecret)))
    fun programmed found answers => ?_
  cases answers with
  | ok _ => exact .pure rfl
  | error fault => exact blind_printLine _

/-- The same slots are formatted, and twins are restored. -/
theorem blind_boot : Blind one other boot := by
  refine .bind (matches_onBoard Keystore.matches_loadAll) fun restored found same => ?_
  refine .bind_eq (fun _ _ twins => ?_) fun _ => ?_
  · exact .ok rfl { twins with credentials := same.credentials }
  rw [same.formatted]
  split
  · exact blind_programDefault
  · exact .pure rfl

end Device

end OtpToken
