import OtpToken.Proofs.Device.Dark
import OtpToken.Proofs.Device.Untrusted

/-!
# Outcomes of an emission

What an emission comes to is decided by the number it is for and by the credential of the slot: the
length of the secret, the block that its vector starts from, and the counter (`comesTo_emitCode`).
Nothing else can keep a code from being handed out, and a store that refuses the counter does not.
An emission that is refused leaves the whole device as it was, one that is stopped leaves everything
that outlasts it as it was, and one that hands out a code changes the counter of its slot, the
record of that slot and nothing else in memory and storage. This holds of every device that has been
started and used in any way (`emitCode_outcomes`).
-/

namespace OtpToken

open Act

namespace Credential

/-- The counter that no other follows. -/
def lastCounter : Nat := UInt64.size - 1

variable {credential : Credential}

/-- A counter has a next one exactly if it is not the last. -/
theorem hasNext_iff :
    credential.counter.toNat + 1 < UInt64.size ↔ credential.counter.toNat ≠ lastCounter := by
  have bounded := credential.counter.toNat_lt
  have last : UInt64.size = lastCounter + 1 := rfl
  have size : UInt64.size = 2 ^ 64 := rfl
  omega

/-- A slot is configured exactly if its secret has a length. -/
theorem isConfigured_iff : credential.isConfigured = true ↔ credential.secretLength ≠ 0 :=
  bne_iff_ne

/-- The secret of a credential can be opened unless its vector starts from the last block. -/
theorem openSecret_of_configured (vault : KeyedVault) (configured : credential.secretLength ≠ 0) :
    if DeviceKey.startBlock credential.iv = DeviceKey.lastBlock then
      Vault.openSecret vault credential.iv credential.sealedSecret = .error .sealing
    else ∃ secret, Vault.openSecret vault credential.iv credential.sealedSecret = .ok secret := by
  have length := credential.length_sealedSecret
  refine DeviceKey.apply_of_short ?_ (length ▸ credential.secretLength_le)
  exact List.ne_nil_of_length_pos (length ▸ Nat.pos_of_ne_zero configured)

end Credential

namespace Board

variable {board : Board}

/-- To turn a light on or off changes the lights only. -/
theorem settle_setLight_eq (board : Board) (light : Nat) (lit : Bool) :
    board.settle (board.setLight light lit) =
      { board with lights := (board.settle (board.setLight light lit)).lights } := by
  unfold settle setLight
  cases board.lights.set light lit <;> rfl

/-- Where all lights were off, a light that is turned on and off again leaves nothing behind. -/
theorem settle_setLight_settle {count : Nat} (dark : board.lights = .initial count) (light : Nat) :
    let lit := board.settle (board.setLight light true)
    lit.settle (lit.setLight light false) = board := by
  intro lit
  have restored := @lights_settle_setLight board lit count dark light rfl
  rw [settle_setLight_eq lit, restored]
  exact congrArg (fun after : Board => { after with lights := board.lights })
    (settle_setLight_eq board light true)

end Board

namespace Device

variable {device : Device KeyedVault}

/-- How an emission for a number comes out, case by case. -/
inductive ComesTo (device : Device KeyedVault) (number : Nat) :
    EStateM.Result Failure (Device KeyedVault) Code → Prop
  /-- There is no slot of this number. -/
  | noSuchSlot (beyond : slotCount ≤ number) :
      ComesTo device number (.error (.fault (.noSuchSlot number)) device)
  /-- The slot has no secret. -/
  | notConfigured {slot : Slot} (named : number = slot.val)
      (blank : (device.credentials.get slot).secretLength = 0) :
      ComesTo device number (.error (.fault (.notConfigured number)) device)
  /-- The vector of the secret leaves no room for the keystream. -/
  | sealing {slot : Slot} (named : number = slot.val)
      (configured : (device.credentials.get slot).secretLength ≠ 0)
      (last : DeviceKey.startBlock (device.credentials.get slot).iv = DeviceKey.lastBlock) :
      ComesTo device number (.error (.fault .sealing) device)
  /-- The counter cannot be advanced. -/
  | limit {slot : Slot} {after : Device KeyedVault} (named : number = slot.val)
      (configured : (device.credentials.get slot).secretLength ≠ 0)
      (room : DeviceKey.startBlock (device.credentials.get slot).iv ≠ DeviceKey.lastBlock)
      (full : (device.credentials.get slot).counter.toNat = Credential.lastCounter)
      (left : after.facts = device.facts) :
      ComesTo device number (.error (.trap .counterOverflow) after)
  /-- A code is handed out. -/
  | emitted {slot : Slot} {code : Code} {after : Device KeyedVault} (named : number = slot.val)
      (configured : (device.credentials.get slot).secretLength ≠ 0)
      (room : DeviceKey.startBlock (device.credentials.get slot).iv ≠ DeviceKey.lastBlock)
      (below : (device.credentials.get slot).counter.toNat ≠ Credential.lastCounter)
      (used : after.credentials =
        (device.remember slot (device.credentials.get slot).next).credentials)
      (others : ∀ key, key ≠ Keystore.recordKey slot →
        after.board.store.get? key = device.board.store.get? key)
      (dark : after.Dark) : ComesTo device number (.ok code after)

/-- A device between two uses: it may be used, its lights are off, and its supply lasts. -/
structure Prepared (device : Device KeyedVault) : Prop where
  able : device.Able
  dark : device.Dark
  supplied : device.board.charge = none

namespace Prepared

variable {slot : Slot}

/-- A secret that cannot be opened ends an emission with the device as it was. -/
theorem emitCode_of_sealed (prepared : device.Prepared) {fault : Fault}
    (configured : (device.credentials.get slot).isConfigured = true)
    (refused : Vault.openSecret device.vault (device.credentials.get slot).iv
      (device.credentials.get slot).sealedSecret = .error fault) :
    emitCode slot.val device = .error (.fault fault) device := by
  let lit : Device KeyedVault :=
    { device with board := device.board.settle (device.board.setLight slot true) }
  have looked : credential slot device = .ok (device.credentials.get slot) device := rfl
  have turned : setLight slot true device = .ok () lit := rfl
  have held : credential slot lit = .ok (device.credentials.get slot) lit := rfl
  have failed : openSecret (device.credentials.get slot) lit = .error (.fault fault) lit := by
    have same : Vault.openSecret lit.vault (device.credentials.get slot).iv
        (device.credentials.get slot).sealedSecret = .error fault := refused
    rw [openSecret, same]
  have body : nextCode slot lit = .error (.fault fault) lit := by
    rw [nextCode, bind_of_ok held, bind_of_error failed]
  obtain ⟨count, off⟩ := prepared.dark
  have gone : lit.board.settle (lit.board.setLight slot false) = device.board :=
    Board.settle_setLight_settle off slot
  have restored : setLight slot false lit = .ok () device := by
    change EStateM.Result.ok () { lit with board := lit.board.settle _ } = _
    rw [gone]
  rw [emitCode, bind_of_ok (slotOf_eq_ok slot device), bind_of_ok looked, if_pos configured,
    withLight, bind_of_ok turned, bind_of_ok (attempt_of_fault body), bind_of_ok restored]
  rfl

/-- A slot whose secret can be opened has a code. -/
theorem exists_prospect (prepared : device.Prepared)
    (configured : (device.credentials.get slot).secretLength ≠ 0)
    (room : DeviceKey.startBlock (device.credentials.get slot).iv ≠ DeviceKey.lastBlock) :
    ∃ code, prospect device.vault device.credentials slot = .ok code := by
  have holds := Credential.isConfigured_iff.mpr configured
  have opens := Credential.openSecret_of_configured device.vault configured
  rw [if_neg room] at opens
  obtain ⟨secret, opened⟩ := opens
  have digits : (device.credentials.get slot).digits = slot.digits := prepared.able.fits slot
  have derived := Credential.derive_of_opened digits holds opened
  rw [prospect_of_configured device.vault holds, opened]
  exact ⟨_, derived⟩

/-- A counter at its limit stops an emission with all that outlasts it as it was. -/
theorem emitCode_of_limit (prepared : device.Prepared) {code : Code}
    (yields : prospect device.vault device.credentials slot = .ok code)
    (limit : ¬(device.credentials.get slot).counter.toNat + 1 < UInt64.size) :
    ∃ after, emitCode slot.val device = .error (.trap .counterOverflow) after ∧
      after.facts = device.facts := by
  obtain ⟨configured, secret, opened, derived⟩ := prospect_eq_ok yields
  have stops : Stops (emitCode slot.val) device.facts .counterOverflow device.facts :=
    .emitCode configured opened (prepared.able.digits_mem slot) derived limit
  exact stops device prepared.able.quiet.ready prepared.supplied rfl

/-- What has changed after a counter has been used up and a write of it has been tried. -/
theorem of_replay_used {after : Device KeyedVault} {counter : UInt64} {write : Turn}
    (writes : write.Writes slot)
    (replays : replay [.used slot counter, write] device.holding = some after.holding) :
    after.credentials = (device.remember slot (device.credentials.get slot).next).credentials ∧
      ∀ key, key ≠ Keystore.recordKey slot →
        after.board.store.get? key = device.board.store.get? key := by
  rw [replay_cons] at replays
  obtain ⟨used, advanced, written⟩ := Option.bind_eq_some_iff.mp replays
  obtain ⟨_, _, rfl⟩ := Turn.take_used advanced
  rw [replay_cons] at written
  obtain ⟨later, written, last⟩ := Option.bind_eq_some_iff.mp written
  cases last
  cases writes with
  | saved credential =>
    obtain ⟨_, store, put, same⟩ := Turn.take_saved written
    have stored : after.board.store = store := congrArg Holding.store same
    refine ⟨congrArg Holding.memory same, fun key apart => ?_⟩
    rw [stored, Store.get?_put put, if_neg apart.symm]
    rfl
  | missed =>
    have same := Turn.take_missed written
    have stored : after.board.store = device.board.store := congrArg Holding.store same
    exact ⟨congrArg Holding.memory same, fun key _ => by rw [stored]⟩

/-- A code that is handed out has used up one counter, and has touched one record at most. -/
theorem emitCode_of_below (prepared : device.Prepared) {code : Code}
    (yields : prospect device.vault device.credentials slot = .ok code)
    (below : (device.credentials.get slot).counter.toNat + 1 < UInt64.size) :
    ∃ after, emitCode slot.val device = .ok code after ∧
      after.credentials = (device.remember slot (device.credentials.get slot).next).credentials ∧
      (∀ key, key ≠ Keystore.recordKey slot →
        after.board.store.get? key = device.board.store.get? key) ∧ after.Dark := by
  have emits := emitCode_of_prospect prepared.able prepared.supplied yields
  rw [if_pos below] at emits
  obtain ⟨after, ran⟩ := emits
  obtain ⟨turns, emits, tells⟩ := told_emitCode prepared.able slot.val
  have dark := (StaysDark.emitCode slot.val).dark prepared.dark
  rw [ran] at emits tells dark
  cases emits with
  | emitted named _ _ writes =>
    cases Fin.ext named
    obtain ⟨used, others⟩ := of_replay_used writes tells.replays
    exact ⟨after, ran, used, others, dark rfl⟩

/-- An emission comes to what its number and its credential decide. -/
theorem comesTo_emitCode (prepared : device.Prepared) (number : Nat) :
    ComesTo device number (emitCode number device) := by
  by_cases inside : number < slotCount
  · let slot : Slot := ⟨number, inside⟩
    have named : number = slot.val := rfl
    have looked : credential slot device = .ok (device.credentials.get slot) device := rfl
    by_cases blank : (device.credentials.get slot).secretLength = 0
    · have unset : ¬(device.credentials.get slot).isConfigured = true := fun set =>
        Credential.isConfigured_iff.mp set blank
      have refused : emitCode slot.val device = .error (.fault (.notConfigured slot.val)) device := by
        rw [emitCode, bind_of_ok (slotOf_eq_ok slot device), bind_of_ok looked, if_neg unset]
        rfl
      rw [show emitCode number device = _ from refused]
      exact .notConfigured named blank
    · have configured := Credential.isConfigured_iff.mpr blank
      by_cases last : DeviceKey.startBlock (device.credentials.get slot).iv = DeviceKey.lastBlock
      · have opens := Credential.openSecret_of_configured device.vault blank
        rw [if_pos last] at opens
        rw [show emitCode number device = _ from prepared.emitCode_of_sealed configured opens]
        exact .sealing named blank last
      · obtain ⟨code, yields⟩ := prepared.exists_prospect blank last
        by_cases full : (device.credentials.get slot).counter.toNat = Credential.lastCounter
        · have limit := fun below => Credential.hasNext_iff.mp below full
          obtain ⟨after, stopped, left⟩ := prepared.emitCode_of_limit yields limit
          rw [show emitCode number device = _ from stopped]
          exact .limit named blank last full left
        · have below := Credential.hasNext_iff.mpr full
          obtain ⟨after, ran, used, others, dark⟩ := prepared.emitCode_of_below yields below
          rw [show emitCode number device = _ from ran]
          exact .emitted named blank last full used others dark
  · have none : Slot.select number = .error (.noSuchSlot number) := by
      rw [Slot.select, Slot.ofNat?, dif_neg inside]
    rw [emitCode, bind_of_error (slotOf_eq_error none device)]
    exact .noSuchSlot (Nat.le_of_not_lt inside)

end Prepared

/-- What decides the outcome of an emission for a number, and what the emission changes. -/
structure Decided (device : Device KeyedVault) (number : Nat)
    (result : EStateM.Result Failure (Device KeyedVault) Code) : Prop where
  noSuchSlot : outcome result = .error (.fault (.noSuchSlot number)) ↔ slotCount ≤ number
  notConfigured : outcome result = .error (.fault (.notConfigured number)) ↔
    ∃ slot : Slot, number = slot.val ∧ (device.credentials.get slot).secretLength = 0
  sealing : outcome result = .error (.fault .sealing) ↔
    ∃ slot : Slot, number = slot.val ∧ (device.credentials.get slot).secretLength ≠ 0 ∧
      DeviceKey.startBlock (device.credentials.get slot).iv = DeviceKey.lastBlock
  stopped : (∃ trap, outcome result = .error (.trap trap)) ↔
    ∃ slot : Slot, number = slot.val ∧ (device.credentials.get slot).secretLength ≠ 0 ∧
      DeviceKey.startBlock (device.credentials.get slot).iv ≠ DeviceKey.lastBlock ∧
      (device.credentials.get slot).counter.toNat = Credential.lastCounter
  emitted : (∃ code, outcome result = .ok code) ↔
    ∃ slot : Slot, number = slot.val ∧ (device.credentials.get slot).secretLength ≠ 0 ∧
      DeviceKey.startBlock (device.credentials.get slot).iv ≠ DeviceKey.lastBlock ∧
      (device.credentials.get slot).counter.toNat ≠ Credential.lastCounter
  /-- There are no other faults, and a fault changes nothing at all. -/
  after_fault : ∀ fault after, result = .error (.fault fault) after →
    (fault = .noSuchSlot number ∨ fault = .notConfigured number ∨ fault = .sealing) ∧ after = device
  /-- There is no other trap, and it leaves the credentials, the store, the transcript and the texts
  that were typed. -/
  after_trap : ∀ trap after, result = .error (.trap trap) after →
    trap = .counterOverflow ∧ after.facts = device.facts
  /-- A code moves the counter of its slot on, and changes nothing else but the slot's record. -/
  after_code : ∀ code after, result = .ok code after → ∃ slot : Slot, number = slot.val ∧
    (after.credentials.get slot).counter.toNat = (device.credentials.get slot).counter.toNat + 1 ∧
    after.credentials.get slot = (device.credentials.get slot).next ∧
    (∀ other, other ≠ slot → after.credentials.get other = device.credentials.get other) ∧
    (∀ key, key ≠ Keystore.recordKey slot →
      after.board.store.get? key = device.board.store.get? key) ∧
    after.board.lights.isLit slot = false

/-- The cases of an emission exclude each other. -/
theorem ComesTo.decided {number : Nat} {result : EStateM.Result Failure (Device KeyedVault) Code}
    (comes : ComesTo device number result) : Decided device number result := by
  have inside : ∀ slot : Slot, ¬slotCount ≤ slot.val := fun slot => Nat.not_le_of_lt slot.isLt
  cases comes with
  | noSuchSlot beyond =>
    have unnamed : ∀ slot : Slot, number ≠ slot.val := fun slot named => inside slot (named ▸ beyond)
    constructor <;> simp [outcome, beyond, unnamed]
  | notConfigured named blank =>
    subst named
    constructor <;> simp [outcome, inside, Fin.val_inj, blank]
  | sealing named configured last =>
    subst named
    constructor <;> simp [outcome, inside, Fin.val_inj, configured, last]
  | limit named configured room full left =>
    subst named
    constructor <;> simp [outcome, inside, Fin.val_inj, configured, room, full, left]
  | @emitted slot code after named configured room below used others dark =>
    subst named
    constructor
    case after_code =>
      rintro code after ⟨rfl, rfl⟩
      have advanced : after.credentials.get slot = (device.credentials.get slot).next := by
        rw [used, get_remember_self]
      refine ⟨slot, rfl, ?_, advanced, fun other apart => ?_, others, dark.isLit_eq_false slot⟩
      · rw [advanced, Credential.toNat_counter_next (Credential.hasNext_iff.mpr below)]
      · rw [used, remember, Keystore.get_set, if_neg apart.symm]
    all_goals simp [outcome, inside, Fin.val_inj, configured, room, below]

end Device

open Device

/-- A device whose program is running is prepared for its next use, if its supply lasts. -/
theorem Life.prepared {store : Store} {vault : KeyedVault} {events : List (Life.Event KeyedVault)}
    (running : (Life.live events (.fresh store vault)).running = true) :
    ((Life.live events (.fresh store vault)).device.lasting none).Prepared := by
  obtain ⟨able, dark⟩ := Life.live_able_dark events (.fresh store vault)
    (fun running => by cases running) (fun running => by cases running) running
  exact ⟨⟨able.quiet.withCharge none, able.fits⟩, dark, rfl⟩

/-- On every device that has been started and used in any way, over any store, the outcome of an
emission is decided by the credential of its slot, and it changes no more than the outcome says. -/
theorem emitCode_outcomes (store : Store) (vault : KeyedVault)
    (events : List (Life.Event KeyedVault))
    (running : (Life.live events (.fresh store vault)).running = true) (number : Nat) :
    let device := (Life.live events (.fresh store vault)).device.lasting none
    Decided device number (emitCode number device) :=
  ((Life.prepared running).comesTo_emitCode number).decided

/-- Over a locked store with a secret that can be used, one that cannot be opened, one whose counter
is at its limit, and a slot without a secret, every outcome is met with. -/
theorem emitCode_outcomes_locked :
    let store : Store := { Store.inMemory with
      table := [(Keystore.recordKey 0, 2 :: List.replicate 88 7),
        (Keystore.recordKey 1, 20 :: (List.replicate 4 255 ++ List.replicate 84 1)),
        (Keystore.recordKey 2, 64 :: (List.replicate 80 9 ++ List.replicate 8 255)),
        (Keystore.recordKey 3, 0 :: List.replicate 88 255)] }
    let vault : KeyedVault := ⟨Block.zero _, fun _ => Block.zero _, 0⟩
    let life := Life.live [.boot [] 4 true none vault, .lock true] (.fresh store vault)
    let device := life.device.lasting none
    life.running = true ∧ (∃ code, outcome (emitCode 0 device) = .ok code) ∧
      outcome (emitCode 1 device) = .error (.fault .sealing) ∧
      (∃ trap, outcome (emitCode 2 device) = .error (.trap trap)) ∧
      outcome (emitCode 3 device) = .error (.fault (.notConfigured 3)) ∧
      outcome (emitCode 4 device) = .error (.fault (.noSuchSlot 4)) := by
  intro store vault life device
  have kinds : ∀ slot : Slot, ((store.credential? slot).any fun credential =>
      (credential.secretLength = 0 ↔ slot.val = 3) ∧
      (DeviceKey.startBlock credential.iv = DeviceKey.lastBlock ↔ slot.val = 1 ∨ slot.val = 3) ∧
      (credential.counter.toNat = Credential.lastCounter ↔ slot.val = 2 ∨ slot.val = 3)) = true := by
    decide +kernel
  have stored : ∀ slot, ∃ kept, store.credential? slot = some kept := fun slot =>
    let ⟨kept, found, _⟩ := (Option.any_eq_true _ _).mp (kinds slot)
    ⟨kept, found⟩
  obtain ⟨booted, started, held⟩ :=
    start_of_stored (Store.writable_of_memory rfl rfl) stored [] 4 true vault
  let lock : Life.Event KeyedVault := .lock true
  have lives : life = lock.take ⟨booted, true⟩ :=
    congrArg lock.take (congrArg Life.after started)
  have running : life.running = true := congrArg Life.running lives
  have same : device.credentials = booted.credentials :=
    congrArg (fun life : Life KeyedVault => life.device.credentials) lives
  have kinds : ∀ slot : Slot,
      ((device.credentials.get slot).secretLength = 0 ↔ slot.val = 3) ∧
      (DeviceKey.startBlock (device.credentials.get slot).iv = DeviceKey.lastBlock ↔
        slot.val = 1 ∨ slot.val = 3) ∧
      ((device.credentials.get slot).counter.toNat = Credential.lastCounter ↔
        slot.val = 2 ∨ slot.val = 3) := by
    intro slot
    have kind := kinds slot
    rw [held, Option.any_some, decide_eq_true_eq, ← same] at kind
    exact kind
  have decided : ∀ number, Decided device number (emitCode number device) :=
    emitCode_outcomes store vault _ running
  refine ⟨running,
    (decided 0).emitted.mpr ⟨⟨0, by decide⟩, rfl, mt (kinds _).1.mp ?_, mt (kinds _).2.1.mp ?_,
      mt (kinds _).2.2.mp ?_⟩,
    (decided 1).sealing.mpr ⟨⟨1, by decide⟩, rfl, mt (kinds _).1.mp ?_, (kinds _).2.1.mpr ?_⟩,
    (decided 2).stopped.mpr ⟨⟨2, by decide⟩, rfl, mt (kinds _).1.mp ?_, mt (kinds _).2.1.mp ?_,
      (kinds _).2.2.mpr ?_⟩,
    (decided 3).notConfigured.mpr ⟨⟨3, by decide⟩, rfl, (kinds _).1.mpr rfl⟩,
    (decided 4).noSuchSlot.mpr (by decide)⟩
  all_goals decide

end OtpToken
