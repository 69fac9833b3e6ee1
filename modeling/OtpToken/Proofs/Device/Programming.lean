import OtpToken.Proofs.Device.Outcomes
import OtpToken.Proofs.Device.Running

/-!
# Outcomes of programming

Programming a text into a slot comes out in one of three ways (`ProgramsTo`). A text that cannot
be decoded leaves the slot without a secret in memory, and changes nothing else at all. A text that
is decoded is installed in memory, with the counter starting over; then the store takes the record,
which is announced, or refuses it, which leaves the store as it was. A new secret that is asked for
is programmed in the same way, unless its line is empty or breaks off, which changes neither memory
nor storage. This holds of every device that has been started and used in any way
(`programming_outcomes`).
-/

namespace OtpToken

open Act

/-- The facts after a line has been taken from the input, which shows what it takes. -/
def Facts.enters {σ : Type} (facts : Facts σ) (entry : String × Bytes × Bool) : Facts σ :=
  { facts with
    traces := { facts.traces with
      transcript := facts.traces.transcript ++ entry.1 ++ (if entry.2.2 then "\r\n" else "")
      input := entry.2.1 } }

namespace Device

variable {slot : Slot} {text : String} {known later : Facts KeyedVault}

/-- A credential has been installed for a key: its counter starts over, and the vault opens its
secret to the key. -/
structure Holds (vault : KeyedVault) (credential : Credential) (key : Bytes) : Prop where
  counter : credential.counter = 0
  length : credential.secretLength = key.length
  opens : Vault.openSecret vault credential.iv credential.sealedSecret = .ok key

/-- What programming a text into a slot comes to, and what it makes of the facts. -/
inductive ProgramsTo (slot : Slot) (text : String) (known : Facts KeyedVault) :
    Except Fault Unit → Facts KeyedVault → Prop
  /-- The text cannot be decoded. -/
  | malformed (undecoded : Secret.decode text = .error .malformedSecret) :
      ProgramsTo slot text known (.error .malformedSecret)
        (known.setCredential slot (known.credentials.get slot).clear)
  /-- The store refuses the record. -/
  | unstored {key : Bytes} {vault : KeyedVault} {installed : Credential} {error : StoreError}
      (decoded : Secret.decode text = .ok key) (holds : Holds vault installed key)
      (refused : known.traces.store.put (Keystore.recordKey slot) installed.record = .error error) :
      ProgramsTo slot text known (.error (.storage .fail))
        ((known.setVault vault).setCredential slot installed)
  /-- The store takes the record. -/
  | stored {key : Bytes} {vault : KeyedVault} {installed : Credential} {store : Store}
      (decoded : Secret.decode text = .ok key) (holds : Holds vault installed key)
      (put : known.traces.store.put (Keystore.recordKey slot) installed.record = .ok store) :
      ProgramsTo slot text known (.ok ())
        ((((known.setVault vault).setCredential slot installed).setStore store).printLine
          ("Programmed slot " ++ toString slot.val))

namespace Leads

variable {σ : Type}

/-- A record that the store refuses leaves everything as it was. -/
theorem save_of_error {known : Facts σ} {credential : Credential} {error : StoreError}
    (refused : known.traces.store.put (Keystore.recordKey slot) credential.record = .error error) :
    Leads (· = known.traces) (Device.onBoard (Keystore.save slot credential)) known
      (.error (.storage .fail)) known := by
  refine onBoard fun board ready same => ?_
  have written := BoardAct.ends_setValue ready credential.record (Keystore.recordKey_ne_nil slot)
  have put : board.store.put (Keystore.recordKey slot) credential.record = .error error := by
    rw [← refused, ← same]
    rfl
  rw [put] at written
  rw [← same]
  exact written

/-- A text that can be installed is, also where the store refuses the record. -/
theorem programSecret_of_refused [Vault σ] {known : Facts σ} {vault : σ} {installed : Credential}
    {error : StoreError}
    (accepted : installing known.vault (known.credentials.get slot) text = (.ok installed, vault))
    (refused : known.traces.store.put (Keystore.recordKey slot) installed.record = .error error) :
    Leads (· = known.traces) (Device.programSecret slot.val text) known (.error (.storage .fail))
      ((known.setVault vault).setCredential slot installed) := by
  have attempted : Leads (· = known.traces)
      (Device.installText (known.credentials.get slot) text) known _ _ := installText _ _
  rw [accepted] at attempted
  let mid := (known.setVault vault).setCredential slot installed
  have unsaved : Leads (· = known.traces) (Device.onBoard (Keystore.save slot.val installed)) mid
      (.error (.storage .fail)) mid := save_of_error refused
  refine bind (slotOf_val slot) (bind (credential slot) (bind (attempt attempted) ?_))
  exact bind (setCredential slot installed) (bind_fault unsaved)

end Leads

/-- Programming comes out in one of its ways. -/
theorem exists_programsTo (known : Facts KeyedVault) (slot : Slot) (text : String) :
    ∃ ended later, ProgramsTo slot text known ended later ∧
      Leads (fun _ => True) (programSecret slot.val text) known ended later := by
  cases decoded : Secret.decode text with
  | error fault =>
    obtain rfl := Secret.fault_of_decode decoded
    have refused : installing known.vault (known.credentials.get slot) text =
        (.error .malformedSecret, known.vault) := by
      rw [installing, decoded]
    exact ⟨_, _, .malformed decoded, .programSecret_of_error refused⟩
  | ok key =>
    obtain ⟨installed, accepted, _, opens, counter⟩ :=
      installing_keyed known.vault (known.credentials.get slot) decoded
    have length : installed.secretLength = key.length :=
      (installed.length_sealedSecret).symm.trans (DeviceKey.length_apply opens).symm
    have holds : Holds { known.vault with drawn := known.vault.drawn + 1 } installed key :=
      ⟨counter, length, opens⟩
    cases put : known.traces.store.put (Keystore.recordKey slot) installed.record with
    | error error =>
      exact ⟨_, _, .unstored decoded holds put, (Leads.programSecret_of_refused accepted put).any⟩
    | ok store => exact ⟨_, _, .stored decoded holds put, (Leads.programSecret accepted put).any⟩

/-- A text that cannot be decoded clears the secret of the slot in memory, and that is all. -/
theorem programSecret_of_malformed (device : Device KeyedVault) (slot : Slot)
    (undecoded : Secret.decode text = .error .malformedSecret) :
    programSecret slot.val text device = .error (.fault .malformedSecret)
      (device.remember slot (device.credentials.get slot).clear) := by
  have looked : credential slot device = .ok (device.credentials.get slot) device := rfl
  have failed : installText (device.credentials.get slot) text device =
      .error (.fault .malformedSecret) device := by
    rw [installText, undecoded]
    rfl
  rw [programSecret, bind_of_ok (slotOf_eq_ok slot device), bind_of_ok looked,
    bind_of_ok (attempt_of_fault failed)]
  rfl

/-- What decides how programming a text into a slot comes out, and what it makes of the facts. -/
structure Programmed (slot : Slot) (text : String) (known : Facts KeyedVault)
    (ended : Except Failure Unit) (later : Facts KeyedVault) : Prop where
  malformed : ended = .error (.fault .malformedSecret) ↔
    ∃ fault, Secret.decode text = .error fault
  unstored : ended = .error (.fault (.storage .fail)) ↔
    (∃ key, Secret.decode text = .ok key) ∧ ∃ error, known.traces.store.put
      (Keystore.recordKey slot) (later.credentials.get slot).record = .error error
  stored : ended = .ok () ↔
    (∃ key, Secret.decode text = .ok key) ∧ ∃ store, known.traces.store.put
      (Keystore.recordKey slot) (later.credentials.get slot).record = .ok store
  /-- A text that cannot be decoded takes the length of the secret, and nothing else. -/
  after_malformed : ended = .error (.fault .malformedSecret) →
    later = known.setCredential slot
      { known.credentials.get slot with secretLength := 0, secretLength_le := Nat.zero_le _ }
  /-- Any other text is in memory, whether it is stored or not. -/
  holds : ∀ key, Secret.decode text = .ok key →
    Holds later.vault (later.credentials.get slot) key
  /-- A refused record leaves storage, and nothing is printed. -/
  after_unstored : ended = .error (.fault (.storage .fail)) → later.traces = known.traces
  /-- What has been programmed is stored and announced. -/
  after_stored : ended = .ok () →
    later.traces.store.get? (Keystore.recordKey slot) = some (later.credentials.get slot).record ∧
    later.traces.transcript =
      known.traces.transcript ++ ("Programmed slot " ++ toString slot.val ++ "\r\n")
  others : ∀ other, other ≠ slot → later.credentials.get other = known.credentials.get other
  keys : ∀ key, key ≠ Keystore.recordKey slot →
    later.traces.store.get? key = known.traces.store.get? key

/-- The ways in which programming comes out exclude each other. -/
theorem ProgramsTo.programmed {ended : Except Fault Unit}
    (programs : ProgramsTo slot text known ended later) :
    Programmed slot text known (ended.mapError .fault) later := by
  have mine : ∀ (facts : Facts KeyedVault) (credential : Credential),
      (facts.setCredential slot credential).credentials.get slot = credential := fun _ _ =>
    (Keystore.get_set slot slot _).trans (if_pos rfl)
  have theirs : ∀ (facts : Facts KeyedVault) (credential : Credential) (other : Slot),
      other ≠ slot → (facts.setCredential slot credential).credentials.get other =
        facts.credentials.get other := fun _ _ other apart =>
    (Keystore.get_set slot other _).trans (if_neg apart.symm)
  cases programs with
  | malformed undecoded =>
    constructor
    case others => exact theirs known _
    all_goals simp [Except.mapError, undecoded, Credential.clear, Facts.setCredential]
  | @unstored key vault installed error decoded holds refused =>
    have held := mine (known.setVault vault) installed
    constructor
    case others => exact theirs (known.setVault vault) installed
    case holds =>
      intro other same
      cases decoded.symm.trans same
      rw [held]
      exact holds
    all_goals rw [held] at *
    all_goals simp [Except.mapError, decoded, refused, Facts.setCredential, Facts.setVault]
  | @stored key vault installed store decoded holds put =>
    have held : (((((known.setVault vault).setCredential slot installed).setStore store).printLine
        ("Programmed slot " ++ toString slot.val)).credentials.get slot) = installed :=
      mine (known.setVault vault) installed
    constructor
    case others => exact theirs (known.setVault vault) installed
    case keys => exact fun key apart => (Store.get?_put put key).trans (if_neg apart.symm)
    case holds =>
      intro other same
      cases decoded.symm.trans same
      rw [held]
      exact holds
    case after_stored =>
      intro _
      rw [held]
      exact ⟨(Store.get?_put put _).trans (if_pos rfl), rfl⟩
    case unstored =>
      rw [held, put]
      simp [Except.mapError]
    case stored =>
      rw [held, put]
      simp [Except.mapError, decoded]
    all_goals simp [Except.mapError, decoded]

/-- Nothing has been touched but what a number names, and all lights are off. -/
structure TouchesOnly (device : Device KeyedVault) (number : Nat) (after : Device KeyedVault) :
    Prop where
  others : ∀ other : Slot, other.val ≠ number →
    after.credentials.get other = device.credentials.get other
  keys : ∀ key, (∀ slot : Slot, slot.val = number → key ≠ Keystore.recordKey slot) →
    after.board.store.get? key = device.board.store.get? key
  dark : ∀ light, after.board.lights.isLit light = false

/-- What decides the outcome of programming a text, and what programming it changes. -/
structure ProgramDecided (device : Device KeyedVault) (number : Nat) (text : String)
    (result : EStateM.Result Failure (Device KeyedVault) Unit) : Prop where
  noSuchSlot : outcome result = .error (.fault (.noSuchSlot number)) ↔ slotCount ≤ number
  after_noSuchSlot : slotCount ≤ number → ending result = device
  programmed : ∀ slot : Slot, number = slot.val →
    Programmed slot text device.facts (outcome result) (ending result).facts
  /-- Nothing at all is changed but the length of one secret in memory. -/
  after_malformed : ∀ slot : Slot, number = slot.val →
    (∃ fault, Secret.decode text = .error fault) →
      ending result = device.remember slot (device.credentials.get slot).clear
  touches : TouchesOnly device number (ending result)

/-- What decides the outcome of asking for a new secret for a slot, and what asking changes. The
entry is what the input holds up to the end of a line, the rest of it, and whether there is such an
end. -/
structure Asked (device : Device KeyedVault) (slot : Slot) (entry : String × Bytes × Bool)
    (result : EStateM.Result Failure (Device KeyedVault) Unit) : Prop where
  halted : outcome result = .error (.fault .halted) ↔ entry.2.2 = false
  after_halted : entry.2.2 = false →
    (ending result).facts = (device.facts.ask slot).enters entry
  /-- An empty line is answered. -/
  aborted : entry.2.2 = true → entry.1 = "" →
    outcome result = .ok () ∧
    (ending result).facts = ((device.facts.ask slot).enters entry).printLine "Aborted"
  /-- Without an entry, memory and storage stay as they are. -/
  unentered : entry.2.2 = false ∨ entry.1 = "" →
    (ending result).credentials = device.credentials ∧
    (ending result).board.store = device.board.store
  /-- Any other line is programmed. -/
  programmed : entry.2.2 = true → entry.1 ≠ "" →
    Programmed slot entry.1 ((device.facts.ask slot).enters entry) (outcome result)
      (ending result).facts

/-- What decides the outcome of asking for a new secret for a number, and what asking changes. -/
structure AskDecided (device : Device KeyedVault) (number : Nat)
    (result : EStateM.Result Failure (Device KeyedVault) Unit) : Prop where
  noSuchSlot : outcome result = .error (.fault (.noSuchSlot number)) ↔ slotCount ≤ number
  after_noSuchSlot : slotCount ≤ number → ending result = device
  asked : ∀ slot : Slot, number = slot.val →
    Asked device slot (SecretEntry.scan 0 device.board.console.input) result
  touches : TouchesOnly device number (ending result)

/-- A text is not a secret, or its credential cannot be saved, or it is programmed. -/
theorem Programmed.cases {ended : Except Failure Unit}
    (programmed : Programmed slot text known ended later) :
    ended = .error (.fault .malformedSecret) ∨ ended = .error (.fault (.storage .fail)) ∨
      ended = .ok () := by
  cases decoded : Secret.decode text with
  | error fault => exact .inl (programmed.malformed.mpr ⟨fault, decoded⟩)
  | ok key =>
    cases put : known.traces.store.put (Keystore.recordKey slot)
        (later.credentials.get slot).record with
    | error error => exact .inr (.inl (programmed.unstored.mpr ⟨⟨key, decoded⟩, error, put⟩))
    | ok store => exact .inr (.inr (programmed.stored.mpr ⟨⟨key, decoded⟩, store, put⟩))

namespace TouchesOnly

variable {device after : Device KeyedVault} {number : Nat}

/-- To do nothing touches no slot. -/
theorem refl (dark : device.Dark) (number : Nat) : TouchesOnly device number device :=
  ⟨fun _ _ => rfl, fun _ _ => rfl, dark.isLit_eq_false⟩

/-- Where memory and storage are the same. -/
theorem of_eq (memory : after.credentials = device.credentials)
    (storage : after.board.store = device.board.store) (dark : after.Dark) (number : Nat) :
    TouchesOnly device number after :=
  ⟨fun _ _ => by rw [memory], fun _ _ => by rw [storage], dark.isLit_eq_false⟩

/-- Programming a slot touches that slot only. -/
theorem of_programmed {ended : Except Failure Unit}
    (programmed : Programmed slot text known ended after.facts)
    (memory : known.credentials = device.credentials)
    (storage : known.traces.store = device.board.store) (dark : after.Dark) :
    TouchesOnly device slot.val after where
  others other apart := by
    rw [← memory]
    exact programmed.others other fun same => apart (congrArg Fin.val same)
  keys key apart := by
    rw [← storage]
    exact programmed.keys key (apart slot rfl)
  dark := dark.isLit_eq_false

end TouchesOnly

namespace Asked

variable {device : Device KeyedVault} {entry : String × Bytes × Bool}
  {result : EStateM.Result Failure (Device KeyedVault) Unit}

/-- The input ends before the line does. -/
theorem of_unended (unended : entry.2.2 = false)
    (halted : outcome result = .error (.fault .halted))
    (left : (ending result).facts = (device.facts.ask slot).enters entry) :
    Asked device slot entry result := by
  constructor
  case halted => exact ⟨fun _ => unended, fun _ => halted⟩
  case after_halted => exact fun _ => left
  case unentered =>
    exact fun _ => ⟨congrArg Facts.credentials left, congrArg (·.traces.store) left⟩
  all_goals simp [unended]

/-- Where nothing has been entered, asking says so, and changes nothing else. -/
theorem of_empty (ended : entry.2.2 = true) (empty : entry.1 = "")
    (aborted : outcome result = .ok ())
    (left : (ending result).facts = ((device.facts.ask slot).enters entry).printLine "Aborted") :
    Asked device slot entry result := by
  constructor
  case aborted => exact fun _ _ => ⟨aborted, left⟩
  case unentered =>
    exact fun _ => ⟨congrArg Facts.credentials left, congrArg (·.traces.store) left⟩
  all_goals simp [aborted, ended, empty]

/-- Where a secret has been entered, asking ends as programming does. -/
theorem of_programmed (ended : entry.2.2 = true) (filled : entry.1 ≠ "")
    (programmed : Programmed slot entry.1 ((device.facts.ask slot).enters entry) (outcome result)
      (ending result).facts) : Asked device slot entry result := by
  constructor
  case programmed => exact fun _ _ => programmed
  case halted =>
    rcases programmed.cases with same | same | same <;> simp [same, ended]
  all_goals simp [ended, filled]

end Asked

namespace Brings

/-- A line is taken from the input, or the input ends in it. -/
theorem readEntry (known : Facts KeyedVault) :
    let entry := SecretEntry.scan 0 known.traces.input
    Brings (onBoard SecretEntry.readLine) known
      (if entry.2.2 then .ok entry.1 else .error .halted) (known.enters entry) := by
  rintro entry device rest rfl
  obtain ⟨after, ran, continues, _, left⟩ := SecretEntry.readLine_eq rest
  have same : entry = SecretEntry.scan 0 device.board.console.input := rfl
  rw [← same] at ran left
  unfold onBoard
  rw [ran]
  cases ended : entry.2.2 with
  | true => exact .ok continues (by rw [facts, left]; rfl)
  | false => exact .fault continues (by rw [facts, left]; rfl)

end Brings

/-- How an act has ended on a reliable supply. -/
theorem Ends.settled {device : Device KeyedVault} {cuts : Traces → Prop}
    {ended : Except Fault Unit} {result : EStateM.Result Failure (Device KeyedVault) Unit}
    (ends : device.Ends cuts later ended result) (supplied : device.board.charge = none) :
    outcome result = ended.mapError .fault ∧ (ending result).facts = later := by
  cases ends with
  | ok _ left => exact ⟨rfl, left⟩
  | fault _ left => exact ⟨rfl, left⟩
  | cut charged _ => exact absurd supplied charged

/-- A number names a slot, or it is beyond all slots. -/
theorem slot_or_beyond (number : Nat) :
    (∃ slot : Slot, number = slot.val) ∨
      slotCount ≤ number ∧ Slot.select number = .error (.noSuchSlot number) := by
  rcases Nat.lt_or_ge number slotCount with inside | beyond
  · exact .inl ⟨⟨number, inside⟩, rfl⟩
  · exact .inr ⟨beyond, by rw [Slot.select, Slot.ofNat?, dif_neg (Nat.not_lt_of_le beyond)]⟩

/-- No slot is named by a number beyond all slots. -/
theorem ne_of_beyond {number : Nat} (beyond : slotCount ≤ number) (slot : Slot) :
    number ≠ slot.val := fun named => absurd slot.isLt (Nat.not_lt_of_le (named ▸ beyond))

/-- A fault does not keep the program from going on. -/
theorem goesOn_mapError (ended : Except Fault Unit) : goesOn (ended.mapError .fault) = true := by
  cases ended <;> rfl

namespace Prepared

variable {device : Device KeyedVault}

/-- On a prepared device every call to program a slot is decided by its number and its text. -/
theorem programDecided (prepared : device.Prepared) (number : Nat) (text : String) :
    ProgramDecided device number text (programSecret number text device) := by
  rcases slot_or_beyond number with ⟨slot, rfl⟩ | ⟨beyond, none⟩
  · obtain ⟨ended, later, programs, leads⟩ := exists_programsTo device.facts slot text
    obtain ⟨ending, left⟩ := (leads device prepared.able.quiet.ready rfl).settled prepared.supplied
    have programmed := programs.programmed
    rw [← ending, ← left] at programmed
    have dark := (StaysDark.of_leaves (.programSecret slot.val text)).dark prepared.dark
      (by rw [ending]; exact goesOn_mapError ended)
    have inside : ¬slotCount ≤ slot.val := Nat.not_le_of_lt slot.isLt
    refine ⟨?_, fun beyond => absurd beyond inside, ?_, ?_, .of_programmed programmed rfl rfl dark⟩
    · rcases programmed.cases with same | same | same <;> simp [same, inside]
    · intro other same
      cases Fin.ext same
      exact programmed
    · rintro other same ⟨fault, undecoded⟩
      cases Fin.ext same
      cases Secret.fault_of_decode undecoded
      rw [programSecret_of_malformed device slot undecoded]
      rfl
  · have refused : programSecret number text device =
        .error (.fault (.noSuchSlot number)) device := bind_of_error (slotOf_eq_error none device)
    have unnamed := ne_of_beyond beyond
    rw [refused]
    exact ⟨⟨fun _ => beyond, fun _ => rfl⟩, fun _ => rfl,
      fun slot named => absurd named (unnamed slot),
      fun slot named => absurd named (unnamed slot), .refl prepared.dark number⟩

/-- Asking for a secret goes on from what the prompts leave. -/
theorem programNewSecret_settled (prepared : device.Prepared) {slot : Slot}
    {ended : Except Fault Unit} {later : Facts KeyedVault}
    (brings : Brings (onBoard SecretEntry.readLine >>= entering slot) (device.facts.ask slot) ended
      later) :
    outcome (programNewSecret slot.val device) = ended.mapError .fault ∧
      (ending (programNewSecret slot.val device)).facts = later ∧
      (ending (programNewSecret slot.val device)).Dark := by
  have asks : Brings (programNewSecret slot.val) device.facts ended later :=
    .bind (.of_leads (.slotOf_val slot)) (.withLight
      (.bind (.of_leads (.printLine _)) (.bind (.of_leads (.printLine _)) brings)))
  have rest : device.board.AtRest :=
    ⟨prepared.able.quiet.ready, prepared.supplied, prepared.able.quiet.unread⟩
  obtain ⟨ending, left⟩ := (asks device rest rfl).settled prepared.supplied
  exact ⟨ending, left, (StaysDark.programNewSecret slot.val).dark prepared.dark
    (by rw [ending]; exact goesOn_mapError ended)⟩

/-- Asking for a secret comes to what the input decides. -/
theorem asked (prepared : device.Prepared) (slot : Slot) :
    let result := programNewSecret slot.val device
    Asked device slot (SecretEntry.scan 0 device.board.console.input) result ∧
      outcome result ≠ .error (.fault (.noSuchSlot slot.val)) ∧
      TouchesOnly device slot.val (ending result) := by
  intro result
  have reads := Brings.readEntry (device.facts.ask slot)
  have input : (device.facts.ask slot).traces.input = device.board.console.input := rfl
  dsimp only at reads
  rw [input] at reads
  generalize SecretEntry.scan 0 device.board.console.input = entry at reads ⊢
  cases ended : entry.2.2 with
  | false =>
    rw [ended] at reads
    obtain ⟨halted, left, dark⟩ := prepared.programNewSecret_settled (.bind_fault reads)
    refine ⟨.of_unended ended halted left, ?_, .of_eq (congrArg Facts.credentials left)
      (congrArg (·.traces.store) left) dark slot.val⟩
    simp [result, halted, Except.mapError]
  | true =>
    rw [ended] at reads
    by_cases empty : entry.1 = ""
    · have aborts : Brings (entering slot entry.1) ((device.facts.ask slot).enters entry) (.ok ())
          (((device.facts.ask slot).enters entry).printLine "Aborted") := by
        rw [entering, if_pos empty]
        exact .of_leads (.printLine _)
      obtain ⟨aborted, left, dark⟩ := prepared.programNewSecret_settled (.bind reads aborts)
      refine ⟨.of_empty ended empty aborted left, ?_, .of_eq (congrArg Facts.credentials left)
        (congrArg (·.traces.store) left) dark slot.val⟩
      simp [result, aborted, Except.mapError]
    · obtain ⟨programs, later, comes, leads⟩ :=
        exists_programsTo ((device.facts.ask slot).enters entry) slot entry.1
      have enters : Brings (entering slot entry.1) ((device.facts.ask slot).enters entry) programs
          later := by
        rw [entering, if_neg empty]
        exact .of_leads leads
      obtain ⟨settled, left, dark⟩ := prepared.programNewSecret_settled (.bind reads enters)
      have programmed := comes.programmed
      rw [← settled, ← left] at programmed
      refine ⟨.of_programmed ended empty programmed, ?_, .of_programmed programmed rfl rfl dark⟩
      rcases programmed.cases with same | same | same <;> simp [result, same]

/-- On a prepared device every request for a secret is decided by its number and by what is entered.
-/
theorem askDecided (prepared : device.Prepared) (number : Nat) :
    AskDecided device number (programNewSecret number device) := by
  rcases slot_or_beyond number with ⟨slot, rfl⟩ | ⟨beyond, none⟩
  · obtain ⟨asked, named, touches⟩ := prepared.asked slot
    have inside : ¬slotCount ≤ slot.val := Nat.not_le_of_lt slot.isLt
    refine ⟨⟨fun same => absurd same named, fun beyond => absurd beyond inside⟩,
      fun beyond => absurd beyond inside, fun other same => ?_, touches⟩
    cases Fin.ext same
    exact asked
  · have refused : programNewSecret number device =
        .error (.fault (.noSuchSlot number)) device := bind_of_error (slotOf_eq_error none device)
    rw [refused]
    exact ⟨⟨fun _ => beyond, fun _ => rfl⟩, fun _ => rfl,
      fun slot named => absurd named (ne_of_beyond beyond slot), .refl prepared.dark number⟩

end Prepared

end Device

open Device

/-- On every device that has been started and used in any way, over any store, the outcome of
programming a text, and of asking for a new secret, is decided by the text or by the entry, and by
whether the store takes the record; neither changes more than the outcome says. -/
theorem programming_outcomes (store : Store) (vault : KeyedVault)
    (events : List (Life.Event KeyedVault))
    (running : (Life.live events (.fresh store vault)).running = true) (number : Nat) :
    let device := (Life.live events (.fresh store vault)).device.lasting none
    (∀ text, ProgramDecided device number text (programSecret number text device)) ∧
      AskDecided device number (programNewSecret number device) :=
  ⟨fun text => (Life.prepared running).programDecided number text,
    (Life.prepared running).askDecided number⟩

/-- Over a store with a record for every slot, which is locked later, every outcome is met with. -/
theorem programming_outcomes_locked :
    let store : Store := { Store.inMemory with
      table := Slot.all.map fun slot : Slot => (Keystore.recordKey slot, 2 :: List.replicate 88 7) }
    let vault : KeyedVault := ⟨Block.zero _, fun _ => Block.zero _, 0⟩
    let free := Life.live [.boot [0x0a] 4 true none vault] (.fresh store vault)
    let locked := Life.live [.boot [0x37] 4 true none vault, .lock true] (.fresh store vault)
    free.running = true ∧ locked.running = true ∧
      outcome (programSecret 4 "test" (free.device.lasting none)) =
        .error (.fault (.noSuchSlot 4)) ∧
      outcome (programSecret 3 "0189" (free.device.lasting none)) =
        .error (.fault .malformedSecret) ∧
      outcome (programSecret 3 "test" (locked.device.lasting none)) =
        .error (.fault (.storage .fail)) ∧
      outcome (programSecret 3 "test" (free.device.lasting none)) = .ok () ∧
      outcome (programNewSecret 3 (free.device.lasting none)) = .ok () ∧
      outcome (programNewSecret 3 (locked.device.lasting none)) = .error (.fault .halted) := by
  intro store vault free locked
  have writable : store.Writable := Store.writable_of_memory rfl rfl
  have stored : store.credential? Slot.first ≠ none := by decide +kernel
  have started : ∀ input : Bytes, ∃ booted : Device KeyedVault,
      start ((Board.initial store input 4 true).withCharge none) vault = .ok () booted ∧
      booted.board.console.input = input ∧ booted.board.store.Writable := by
    intro input
    obtain ⟨restored, after, _, traces, restores, starts⟩ :=
      start_eq (.initial store input 4 true) rfl writable vault
    exact ⟨_, starts.trans (if_neg stored), congrArg Traces.input traces, restores.writable⟩
  obtain ⟨first, begun, line, takes⟩ := started [0x0a]
  obtain ⟨second, begins, part, _⟩ := started [0x37]
  let lock : Life.Event KeyedVault := .lock true
  have freed : free = ⟨first, true⟩ := congrArg Life.after begun
  have lockedLater : locked = lock.take ⟨second, true⟩ :=
    congrArg lock.take (congrArg Life.after begins)
  have freeRuns : free.running = true := congrArg Life.running freed
  have lockedRuns : locked.running = true := congrArg Life.running lockedLater
  have decoded : Secret.decode "test" = .ok [0x99, 0x25] := by decide +kernel
  have undecoded : Secret.decode "0189" = .error .malformedSecret := by decide +kernel
  have onFree := programming_outcomes store vault _ freeRuns
  have onLocked := programming_outcomes store vault _ lockedRuns
  have device : free.device.lasting none = first.lasting none :=
    congrArg (fun life : Life KeyedVault => life.device.lasting none) freed
  have later : locked.device.lasting none = (lock.take ⟨second, true⟩).device.lasting none :=
    congrArg (fun life : Life KeyedVault => life.device.lasting none) lockedLater
  have line : (free.device.lasting none).board.console.input = [0x0a] := by
    rw [device, ← line]
    rfl
  have part : (locked.device.lasting none).board.console.input = [0x37] := by
    rw [later, ← part]
    rfl
  have ends : SecretEntry.scan 0 [0x0a] = ("", [], true) := rfl
  have breaks : SecretEntry.scan 0 [0x37] = ("7", [], false) := by decide +kernel
  let last : Slot := ⟨3, by decide⟩
  have empty := (onFree 3).2.asked last rfl
  have broken := (onLocked 3).2.asked last rfl
  rw [line, ends] at empty
  rw [part, breaks] at broken
  refine ⟨freeRuns, lockedRuns, ((onFree 4).1 "test").noSuchSlot.mpr (by decide),
    (((onFree 3).1 "0189").programmed last rfl).malformed.mpr ⟨_, undecoded⟩,
    (((onLocked 3).1 "test").programmed last rfl).unstored.mpr ⟨⟨_, decoded⟩, .readOnly, ?_⟩,
    (((onFree 3).1 "test").programmed last rfl).stored.mpr ⟨⟨_, decoded⟩, ?_⟩,
    (empty.aborted rfl rfl).1, broken.halted.mpr rfl⟩
  · have refuses : (locked.device.lasting none).board.store.readOnly = true := by
      rw [later]
      rfl
    exact if_pos refuses
  · have accepts : (free.device.lasting none).board.store.Writable := by
      rw [device]
      exact takes
    obtain ⟨after, put, _⟩ := accepts.put _ _
    exact ⟨after, put⟩

end OtpToken
