import OtpToken.Proofs.Device.Keyed

/-!
# The ledger of a device

Seen from outside, a slot is a page with two accounts, one in memory and one in
storage, each a secret and the counter of its next code. Programming and emitting turn
the page of one slot alone, and a restart goes back to what is in storage. Whatever is
done with a device over a writable store, it answers as its ledger says, and its
credentials and its records stay what the ledger has for them
(`follow_perform`). A ledger can be followed to the end of every history for which its
counters have room (`Ledger.follow_of_room`).
-/

namespace OtpToken

/-- What a configured slot stands for: what its sealed secret opens to, and how many codes have been
emitted under it. -/
structure Account where
  secret : Except Fault Bytes
  counter : Nat

/-- The accounts of a slot, if it is configured. -/
structure Page where
  memory : Option Account
  storage : Option Account

/-- The pages of all slots. -/
abbrev Ledger := Slot → Page

/-- What is done with a device; a restart comes with a new board and new nonces. -/
inductive Transaction
  | program (slot : Slot) (text : String)
  | emit (slot : Slot)
  | restart (input : Bytes) (buttons : Nat) (hasKeyboard : Bool) (nonces : Nat → Nonce)

/-- How a transaction is answered. -/
inductive Response
  | done
  | code (code : Code)
  | failed (fault : Fault)
  /-- The program has ended. -/
  | stopped (trap : Trap)
  deriving DecidableEq

namespace Page

/-- A secret is programmed if it can be decoded; otherwise the slot has none in memory. -/
def program (page : Page) (text : String) : Response × Page :=
  match Secret.decode text with
  | .ok key => (.done, ⟨some ⟨.ok key, 0⟩, some ⟨.ok key, 0⟩⟩)
  | .error fault => (.failed fault, { page with memory := none })

/-- The code of the counter is emitted, and the next counter is in memory and in storage. There is no
code without a secret, and none after the last counter. -/
def emit (page : Page) (slot : Slot) : Response × Page :=
  match page.memory with
  | none => (.failed (.notConfigured slot.val), page)
  | some ⟨.error fault, _⟩ => (.failed fault, page)
  | some ⟨.ok key, counter⟩ =>
    if counter + 1 < UInt64.size then
      (.code (slot.code (Hmac.mac key (bigEndian 8 counter))),
        ⟨some ⟨.ok key, counter + 1⟩, some ⟨.ok key, counter + 1⟩⟩)
    else (.stopped .counterOverflow, page)

/-- What is in storage comes back into memory. -/
def restart (page : Page) : Page := ⟨page.storage, page.storage⟩

end Page

namespace Ledger

/-- The ledger with another page for a slot. -/
def turn (ledger : Ledger) (slot : Slot) (page : Page) : Ledger :=
  fun other => if slot = other then page else ledger other

/-- The response to a transaction, and the ledger after it. -/
def step (transaction : Transaction) (ledger : Ledger) : Response × Ledger :=
  match transaction with
  | .program slot text =>
    (((ledger slot).program text).1, ledger.turn slot ((ledger slot).program text).2)
  | .emit slot => (((ledger slot).emit slot).1, ledger.turn slot ((ledger slot).emit slot).2)
  | .restart .. => (.done, fun slot => (ledger slot).restart)

end Ledger

/-- The account of a credential under a device key. -/
def DeviceKey.account (key : DeviceKey) (credential : Credential) : Option Account :=
  if credential.isConfigured then
    some ⟨key.apply credential.iv credential.sealedSecret, credential.counter.toNat⟩
  else none

/-- The ledger that a device starts with over a store. A first slot without a record counts as
programmed with the default secret. -/
def Ledger.initial (key : DeviceKey) (store : Store) : Ledger :=
  let restored : Ledger := fun slot =>
    ⟨(store.credential? slot).bind key.account, (store.credential? slot).bind key.account⟩
  if store.credential? Slot.first = none then
    restored.turn Slot.first ((restored Slot.first).program Device.defaultSecret).2
  else restored

/-- The ledger of certain facts. -/
def Facts.ledger (facts : Facts KeyedVault) : Ledger := fun slot =>
  ⟨facts.vault.key.account (facts.credentials.get slot),
    (facts.traces.store.credential? slot).bind facts.vault.key.account⟩

/-- A response from how an act has ended, and the device that it has left. -/
def Response.of {σ α : Type} (answer : α → Response) :
    EStateM.Result Failure (Device σ) α → Response × Device σ
  | .ok value after => (answer value, after)
  | .error (.fault fault) after => (.failed fault, after)
  | .error (.trap trap) after => (.stopped trap, after)

/-- Performs a transaction on a device. A restart keeps the store and the device key. -/
def Transaction.perform (transaction : Transaction) (device : Device KeyedVault) :
    Response × Device KeyedVault :=
  match transaction with
  | program slot text => Response.of (fun _ => .done) (device.programSecret slot.val text)
  | emit slot => Response.of .code (device.emitCode slot.val)
  | restart input buttons hasKeyboard nonces =>
    Response.of (fun _ => .done) (Device.start (.initial device.board.store input buttons hasKeyboard)
      ⟨device.vault.key, nonces, 0⟩)

/-- The responses to transactions, one after the other, until the program ends. -/
def follow {state : Type} (step : Transaction → state → Response × state) :
    List Transaction → state → List Response × state
  | [], current => ([], current)
  | transaction :: rest, current =>
    match step transaction current with
    | (.stopped trap, after) => ([.stopped trap], after)
    | (response, after) => (response :: (follow step rest after).1, (follow step rest after).2)

/-- The only fault that an account keeps is that its secret cannot be opened. -/
theorem DeviceKey.fault_of_account {key : DeviceKey} {credential : Credential} {fault : Fault}
    {counter : Nat} (sealed : key.account credential = some ⟨.error fault, counter⟩) :
    fault = .sealing := by
  unfold account at sealed
  split at sealed
  next =>
    obtain ⟨refused, _⟩ := Account.mk.inj (Option.some.inj sealed)
    exact fault_of_apply refused
  next => cases sealed

namespace Ledger

/-- To turn to a page as it is changes nothing. -/
theorem turn_self (ledger : Ledger) (slot : Slot) : ledger.turn slot (ledger slot) = ledger := by
  funext other
  by_cases same : slot = other
  · rw [turn, if_pos same, same]
  · rw [turn, if_neg same]

end Ledger

namespace Page

variable {page : Page} {count less : Nat}

/-- A counter of the page, or one that starts anew, can be used so many times before it comes to its
limit. -/
def HasRoom (page : Page) (count : Nat) : Prop :=
  count < UInt64.size ∧ ∀ account, page.memory = some account ∨ page.storage = some account →
    account.counter + count < UInt64.size

/-- A page with room for a number of uses has room for fewer. -/
theorem HasRoom.mono (room : page.HasRoom count) (le : less ≤ count) : page.HasRoom less := by
  refine ⟨Nat.lt_of_le_of_lt le room.1, fun account held => ?_⟩
  have bound := room.2 account held
  omega

/-- A restart leaves a page its room. -/
theorem HasRoom.restart (room : page.HasRoom count) : page.restart.HasRoom count :=
  ⟨room.1, fun account held => room.2 account (.inr (held.elim id id))⟩

/-- Programming a page stops nothing, and leaves it its room. -/
theorem HasRoom.program (room : page.HasRoom count) (text : String) :
    (∀ trap, (page.program text).1 ≠ .stopped trap) ∧ (page.program text).2.HasRoom count := by
  cases decoded : Secret.decode text with
  | error fault =>
    simp only [Page.program, decoded]
    refine ⟨fun trap same => (nomatch same), room.1, fun account held => room.2 account ?_⟩
    exact .inr (held.resolve_left fun none => nomatch none)
  | ok key =>
    simp only [Page.program, decoded]
    refine ⟨fun trap same => (nomatch same), room.1, ?_⟩
    rintro account (held | held) <;> cases held <;> simpa using room.1

/-- An emission on a page with room stops nothing, and takes room for one use at most. -/
theorem HasRoom.emit (room : page.HasRoom (count + 1)) (slot : Slot) :
    (∀ trap, (page.emit slot).1 ≠ .stopped trap) ∧ (page.emit slot).2.HasRoom count := by
  have same := room.mono (Nat.le_succ count)
  cases memory : page.memory with
  | none =>
    simp only [Page.emit, memory]
    exact ⟨fun trap same => (nomatch same), same⟩
  | some account =>
    obtain ⟨secret, counter⟩ := account
    have bound : counter + (count + 1) < UInt64.size := room.2 _ (.inl memory)
    cases secret with
    | error fault =>
      simp only [Page.emit, memory]
      exact ⟨fun trap same => (nomatch same), same⟩
    | ok key =>
      have below : counter + 1 < UInt64.size := by omega
      simp only [Page.emit, memory, if_pos below]
      refine ⟨fun trap same => (nomatch same), same.1, ?_⟩
      have next : counter + 1 + count < UInt64.size := by omega
      rintro account (held | held) <;> cases held <;> exact next

end Page

namespace Ledger

variable {ledger : Ledger} {count : Nat}

/-- If all pages have room, and the one that is turned to has, all have room afterwards. -/
theorem hasRoom_turn {slot : Slot} {page : Page} (room : ∀ slot, (ledger slot).HasRoom count)
    (turned : page.HasRoom count) (other : Slot) : (ledger.turn slot page other).HasRoom count := by
  by_cases same : slot = other
  · rw [turn, if_pos same]
    exact turned
  · rw [turn, if_neg same]
    exact room other

/-- A transaction for which every page has room is answered, and uses up no more room than that. -/
theorem step_of_room (room : ∀ slot, (ledger slot).HasRoom (count + 1)) (transaction : Transaction) :
    (∀ trap, (step transaction ledger).1 ≠ .stopped trap) ∧
      ∀ slot, ((step transaction ledger).2 slot).HasRoom count := by
  have same : ∀ slot, (ledger slot).HasRoom count := fun slot => (room slot).mono (Nat.le_succ count)
  cases transaction with
  | program slot text =>
    obtain ⟨answered, turned⟩ := (same slot).program text
    exact ⟨answered, hasRoom_turn same turned⟩
  | emit slot =>
    obtain ⟨answered, turned⟩ := (room slot).emit slot
    exact ⟨answered, hasRoom_turn same turned⟩
  | restart input buttons hasKeyboard nonces =>
    exact ⟨fun trap same => (nomatch same), fun slot => (same slot).restart⟩

/-- The first ledger has the room that the records in the store have. -/
theorem hasRoom_initial {key : DeviceKey} {store : Store} (anew : count < UInt64.size)
    (room : ∀ slot credential, store.credential? slot = some credential →
      credential.counter.toNat + count < UInt64.size) (slot : Slot) :
    (initial key store slot).HasRoom count := by
  have restored : ∀ slot : Slot, Page.HasRoom
      ⟨(store.credential? slot).bind key.account, (store.credential? slot).bind key.account⟩
      count := by
    refine fun slot => ⟨anew, fun account held => ?_⟩
    obtain ⟨credential, found, opened⟩ := Option.bind_eq_some_iff.mp (held.elim id id)
    rw [DeviceKey.account] at opened
    split at opened <;> cases opened
    exact room slot credential found
  unfold initial
  split
  next => exact hasRoom_turn restored ((restored Slot.first).program Device.defaultSecret).2 slot
  next => exact restored slot

/-- No history stops where every page has room for all of it. -/
theorem follow_of_room (transactions : List Transaction)
    (room : ∀ slot, (ledger slot).HasRoom transactions.length) (trap : Trap) :
    .stopped trap ∉ (follow step transactions ledger).1 := by
  induction transactions generalizing ledger with
  | nil => exact List.not_mem_nil
  | cons transaction rest ih =>
    obtain ⟨answered, left⟩ := step_of_room room transaction
    have further := ih left
    simp only [follow]
    generalize step transaction ledger = stepped at answered further
    obtain ⟨response, after⟩ := stepped
    cases response with
    | stopped other => exact absurd rfl (answered other)
    | done | code _ | failed _ =>
      exact fun member => (List.mem_cons.mp member).elim (fun same => (nomatch same)) further

end Ledger

namespace Facts

variable {known later : Facts KeyedVault} {slot : Slot} {credential : Credential} {store : Store}

/-- A credential that is in memory and in the store turns the page of its slot. -/
theorem ledger_of_replace (key : later.vault.key = known.vault.key)
    (held : later.credentials = (known.setCredential slot credential).credentials)
    (digits : credential.digits = slot.digits)
    (put : known.traces.store.put (Keystore.recordKey slot) credential.record = .ok store)
    (stored : later.traces.store = store) :
    later.ledger = known.ledger.turn slot
      ⟨known.vault.key.account credential, known.vault.key.account credential⟩ := by
  funext other
  have own : later.credentials.get other =
      if slot = other then credential else known.credentials.get other := by
    rw [held]
    exact Keystore.get_set ..
  rw [ledger, Ledger.turn, key, own, stored, Store.credential?_put put]
  by_cases same : slot = other
  · simp only [if_pos same, Option.bind_some, ← digits]
  · simp only [if_neg same, ledger]

/-- A slot without a secret has no account. -/
theorem ledger_of_clear (key : later.vault.key = known.vault.key)
    (held : later.credentials = (known.setCredential slot (known.credentials.get slot).clear).credentials)
    (stored : later.traces.store = known.traces.store) :
    later.ledger = known.ledger.turn slot { known.ledger slot with memory := none } := by
  funext other
  have own : later.credentials.get other =
      if slot = other then (known.credentials.get slot).clear else known.credentials.get other := by
    rw [held]
    exact Keystore.get_set ..
  rw [ledger, Ledger.turn, key, own, stored]
  by_cases same : slot = other
  · subst same
    simp only [if_pos, ledger]
    rfl
  · simp only [if_neg same, ledger]

end Facts

namespace Response

variable {σ α : Type}

/-- The response of an act that has not been stopped. -/
def ofOutcome (answer : α → Response) : Except Fault α → Response
  | .ok value => answer value
  | .error fault => .failed fault

end Response

namespace Device

open Act

variable {σ α : Type} {device : Device σ} {cuts : Traces → Prop} {outcome : Except Fault α}
  {later : Facts σ} {act : DeviceAct σ α} {answer : α → Response}

/-- On a board that is ready and whose supply does not fail, the response is the outcome that the
act leads to. -/
theorem Leads.response (leads : Leads cuts act device.facts outcome later)
    (ready : device.board.Ready) (supplied : device.board.charge = none) :
    ∃ after, Response.of answer (act device) = (Response.ofOutcome answer outcome, after) ∧
      after.facts = later := by
  have ends := leads device ready rfl
  cases outcome with
  | ok value =>
    obtain ⟨after, ran, _, left⟩ := ends.eq_ok supplied
    exact ⟨after, by rw [ran]; rfl, left⟩
  | error fault =>
    obtain ⟨after, ran, _, left⟩ := ends.eq_fault supplied
    exact ⟨after, by rw [ran]; rfl, left⟩

/-- A response after which the program runs on leaves a durable device. -/
theorem Survives.response {result : EStateM.Result Failure (Device σ) α}
    (survives : Survives result)
    (running : ∀ trap, (Response.of answer result).1 ≠ .stopped trap) :
    (Response.of answer result).2.Durable := by
  cases result with
  | ok value after => exact survives
  | error failure after =>
    cases failure with
    | fault fault => exact survives
    | trap trap => exact absurd rfl (running trap)

end Device

namespace Device

variable {known : Facts KeyedVault} {slot : Slot}

/-- An emission goes as the page of its slot says, and changes nothing if it is refused. -/
theorem emitCode_page (kept : known.Kept) (slot : Slot) :
    (∃ outcome later, Leads (fun _ => True) (emitCode slot.val) known outcome later ∧
      Response.ofOutcome .code outcome = ((known.ledger slot).emit slot).1 ∧
      later.ledger = known.ledger.turn slot ((known.ledger slot).emit slot).2 ∧
      ∀ fault, outcome = .error fault → later = known) ∨
    Stops (emitCode slot.val) known .counterOverflow known ∧
      (known.ledger slot).emit slot = (.stopped .counterOverflow, known.ledger slot) := by
  let current := known.credentials.get slot
  have account : (known.ledger slot).memory = known.vault.key.account current := rfl
  cases emission kept slot with
  | blank unconfigured leads =>
    rw [DeviceKey.account, if_neg (by rw [unconfigured]; exact Bool.false_ne_true)] at account
    refine .inl ⟨_, known, leads, ?_, ?_, fun _ _ => rfl⟩
    · rw [Page.emit, account]
      rfl
    · rw [Page.emit, account, Ledger.turn_self]
  | refused configured opened leads =>
    rw [DeviceKey.account, if_pos configured, opened] at account
    refine .inl ⟨_, known, leads, ?_, ?_, fun _ _ => rfl⟩
    · rw [Page.emit, account]
      rfl
    · rw [Page.emit, account, Ledger.turn_self]
  | limit configured opened above stops =>
    rw [DeviceKey.account, if_pos configured, opened] at account
    refine .inr ⟨stops, ?_⟩
    rw [Page.emit, account]
    exact if_neg above
  | @emitted secret store configured opened below put leads =>
    have bound : current.counter.toNat + 1 < UInt64.size := below
    rw [DeviceKey.account, if_pos configured, opened] at account
    have next : known.vault.key.account current.next =
        some ⟨.ok secret, current.counter.toNat + 1⟩ := by
      rw [← opened, ← Credential.toNat_counter_next bound]
      exact if_pos configured
    let after := ((known.setCredential slot current.next).setStore store).deliver
      (slot.code (Hmac.mac secret (Code.movingFactor current.counter))) current.counter
    have replaced : after.ledger = known.ledger.turn slot _ :=
      Facts.ledger_of_replace rfl rfl (kept.digits slot) put (Traces.store_deliver ..)
    refine .inl ⟨_, after, leads, ?_, ?_, fun _ failed => nomatch failed⟩
    · rw [Page.emit, account]
      simp only [if_pos bound]
      rfl
    · rw [replaced, next, Page.emit, account]
      simp only [if_pos bound]

/-- What the page of a slot refuses is refused, and changes nothing. -/
theorem emitCode_of_failed (kept : known.Kept) {fault : Fault}
    (refused : ((known.ledger slot).emit slot).1 = .failed fault) :
    Leads (fun _ => True) (emitCode slot.val) known (.error fault) known := by
  rcases emitCode_page kept slot with ⟨outcome, later, leads, answered, _, unchanged⟩ | ⟨_, page⟩
  · rw [refused] at answered
    cases outcome with
    | ok code => cases answered
    | error other =>
      cases answered
      rwa [unchanged _ rfl] at leads
  · rw [page] at refused
    cases refused

/-- Programming goes as the page of its slot says. -/
theorem programSecret_page (kept : known.Kept) (slot : Slot) (text : String) :
    ∃ outcome later, Leads (fun _ => True) (programSecret slot.val text) known outcome later ∧
      Response.ofOutcome (fun _ => .done) outcome = ((known.ledger slot).program text).1 ∧
      later.ledger = known.ledger.turn slot ((known.ledger slot).program text).2 := by
  cases decoded : Secret.decode text with
  | error fault =>
    have refused : installing known.vault (known.credentials.get slot) text =
        (.error fault, known.vault) := by
      rw [installing, decoded]
    let after := (known.setVault known.vault).setCredential slot (known.credentials.get slot).clear
    have cleared : after.ledger = known.ledger.turn slot _ := Facts.ledger_of_clear rfl rfl rfl
    refine ⟨_, after, Leads.programSecret_of_error refused, ?_, ?_⟩
    · rw [Page.program, decoded]
      rfl
    · rw [cleared, Page.program, decoded]
  | ok key =>
    obtain ⟨installed, accepted, configured, opens, counter⟩ :=
      installing_keyed known.vault (known.credentials.get slot) decoded
    obtain ⟨store, put, writable, _⟩ := kept.writable.put (Keystore.recordKey slot) installed.record
    have digits : installed.digits = slot.digits :=
      (fields_of_installing accepted).1.trans (kept.digits slot)
    have account : known.vault.key.account installed = some ⟨.ok key, 0⟩ := by
      rw [DeviceKey.account, if_pos configured, counter]
      exact congrArg (fun secret => some (Account.mk secret 0)) opens
    let after := (((known.setVault { known.vault with drawn := known.vault.drawn + 1 }).setCredential
      slot installed).setStore store).printLine ("Programmed slot " ++ toString slot.val)
    have replaced : after.ledger = known.ledger.turn slot _ :=
      Facts.ledger_of_replace rfl rfl digits put rfl
    refine ⟨_, after, (Leads.programSecret accepted put).any, ?_, ?_⟩
    · rw [Page.program, decoded]
      rfl
    · rw [replaced, account, Page.program, decoded]

/-- A start finds the ledger of its store. -/
theorem start_ledger {store : Store} (writable : store.Writable) (input : Bytes) (buttons : Nat)
    (hasKeyboard : Bool) (vault : KeyedVault) :
    ∃ booted, start (.initial store input buttons hasKeyboard) vault = .ok () booted ∧
      booted.Durable ∧ booted.facts.ledger = Ledger.initial vault.key store := by
  have rest := Board.AtRest.initial store input buttons hasKeyboard
  have same : (Board.initial store input buttons hasKeyboard).store = store := rfl
  obtain ⟨found, awake, key, begins⟩ := start_awake rest writable vault
  have durable := awake.durable
  have ledger : found.facts.ledger = fun slot =>
      ⟨(store.credential? slot).bind vault.key.account,
        (store.credential? slot).bind vault.key.account⟩ := by
    funext slot
    have held : found.facts.credentials.get slot = _ := awake.credentials slot
    have stored : found.facts.traces.store.credential? slot =
        some (found.facts.credentials.get slot) := awake.stored slot
    have keyed : found.facts.vault.key = vault.key := congrArg KeyedVault.key key
    rw [Facts.ledger, stored, held, Option.bind_some, keyed, same]
    cases store.credential? slot <;> rfl
  rw [same] at begins
  by_cases none : store.credential? Slot.first = none
  · rw [if_pos none] at begins
    obtain ⟨outcome, later, leads, _, turned⟩ :=
      programSecret_page durable.kept Slot.first defaultSecret
    obtain ⟨booted, ran, _, same⟩ :=
      (Leads.programDefault leads found durable.rest.ready rfl).eq_ok durable.rest.supplied
    have kept := Keeps.programDefault found durable
    rw [ran] at kept
    have defaulted : booted.facts.ledger = later.ledger := by
      rw [same]
      cases outcome <;> rfl
    refine ⟨booted, begins.trans ran, kept, ?_⟩
    rw [defaulted, turned, ledger, Ledger.initial, if_pos none]
  · rw [if_neg none] at begins
    refine ⟨found, begins, durable, ?_⟩
    rw [ledger, Ledger.initial, if_neg none]

/-- Each transaction goes as the ledger says. -/
theorem perform_eq_step {device : Device KeyedVault} (durable : device.Durable)
    (transaction : Transaction) :
    (transaction.perform device).1 = (Ledger.step transaction device.facts.ledger).1 ∧
      (transaction.perform device).2.facts.ledger =
        (Ledger.step transaction device.facts.ledger).2 ∧
      ((∀ trap, (transaction.perform device).1 ≠ .stopped trap) →
        (transaction.perform device).2.Durable) := by
  have ready := durable.rest.ready
  have supplied := durable.rest.supplied
  cases transaction with
  | program slot text =>
    obtain ⟨outcome, later, leads, answered, turned⟩ := programSecret_page durable.kept slot text
    obtain ⟨after, ran, left⟩ :=
      @Leads.response _ _ _ _ _ _ _ (fun _ => Response.done) leads ready supplied
    refine ⟨?_, ?_, ((Keeps.programSecret slot.val text).survives durable).response⟩
    · rw [Transaction.perform, ran, Ledger.step, answered]
    · rw [Transaction.perform, ran, Ledger.step, left, turned]
  | emit slot =>
    have survives := (Keeps.emitCode slot.val).survives durable
    rcases emitCode_page durable.kept slot with
      ⟨outcome, later, leads, answered, turned, _⟩ | ⟨stops, page⟩
    · obtain ⟨after, ran, left⟩ :=
        @Leads.response _ _ _ _ _ _ _ Response.code leads ready supplied
      refine ⟨?_, ?_, survives.response⟩
      · rw [Transaction.perform, ran, Ledger.step, answered]
      · rw [Transaction.perform, ran, Ledger.step, left, turned]
    · obtain ⟨after, ran, left⟩ := stops device ready supplied rfl
      refine ⟨?_, ?_, survives.response⟩
      · rw [Transaction.perform, ran, Ledger.step, page]
        rfl
      · rw [Transaction.perform, ran, Ledger.step, page, Ledger.turn_self, ← left]
        rfl
  | restart input buttons hasKeyboard nonces =>
    obtain ⟨booted, started, restored, ledger⟩ :=
      start_ledger durable.kept.writable input buttons hasKeyboard ⟨device.vault.key, nonces, 0⟩
    have stored : device.facts.traces.store.credential? Slot.first ≠ none := by
      obtain ⟨kept, found, _⟩ := durable.kept.stored Slot.first
      exact fun none => Option.some_ne_none _ (found.symm.trans none)
    have same : Transaction.perform (.restart input buttons hasKeyboard nonces) device =
        (.done, booted) := congrArg (Response.of _) started
    rw [same]
    refine ⟨rfl, ?_, fun _ => restored⟩
    rw [ledger]
    exact if_neg stored

/-- Every history goes as the ledger says. -/
theorem follow_perform {device : Device KeyedVault} (durable : device.Durable)
    (transactions : List Transaction) :
    (follow Transaction.perform transactions device).1 =
        (follow Ledger.step transactions device.facts.ledger).1 ∧
      (follow Transaction.perform transactions device).2.facts.ledger =
        (follow Ledger.step transactions device.facts.ledger).2 ∧
      ((∀ trap, .stopped trap ∉ (follow Transaction.perform transactions device).1) →
        (follow Transaction.perform transactions device).2.Durable) := by
  induction transactions generalizing device with
  | nil => exact ⟨rfl, rfl, fun _ => durable⟩
  | cons transaction rest ih =>
    obtain ⟨answered, turned, kept⟩ := perform_eq_step durable transaction
    simp only [follow]
    generalize transaction.perform device = performed at answered turned kept
    generalize Ledger.step transaction device.facts.ledger = stepped at answered turned
    obtain ⟨response, after⟩ := performed
    obtain ⟨_, ledger⟩ := stepped
    cases answered
    cases turned
    cases response with
    | stopped trap => exact ⟨rfl, rfl, fun running => absurd List.mem_cons_self (running trap)⟩
    | done | code _ | failed _ =>
      obtain ⟨answered, turned, last⟩ := ih (kept (by simp))
      refine ⟨congrArg _ answered, turned, fun running => last fun trap member => ?_⟩
      exact running trap (List.mem_cons_of_mem _ member)

end Device

/-- A device that starts over a writable store answers every history of programming, emitting and
restarting as its ledger does, and holds in memory and in storage what the ledger holds, as long as
no code is asked for after the last counter. Emitting on a slot that has no secret, or whose secret
cannot be opened, is refused and changes nothing. -/
theorem history_eq_ledger {store : Store} (writable : store.Writable) (vault : KeyedVault)
    (input : Bytes) (buttons : Nat) (hasKeyboard : Bool) (transactions : List Transaction)
    (running : ∀ trap,
      .stopped trap ∉ (follow Ledger.step transactions (Ledger.initial vault.key store)).1) :
    ∃ started, Device.start (.initial store input buttons hasKeyboard) vault = .ok () started ∧
      let device := follow Transaction.perform transactions started
      let ledger := follow Ledger.step transactions (Ledger.initial vault.key store)
      device.1 = ledger.1 ∧ device.2.facts.ledger = ledger.2 ∧
      (∀ slot, (ledger.2 slot).memory = none →
        ∃ after, device.2.emitCode slot.val = .error (.fault (.notConfigured slot.val)) after ∧
          after.facts = device.2.facts) ∧
      ∀ slot fault counter, (ledger.2 slot).memory = some ⟨.error fault, counter⟩ →
        fault = .sealing ∧ ∃ after, device.2.emitCode slot.val = .error (.fault .sealing) after ∧
          after.facts = device.2.facts := by
  obtain ⟨started, ran, durable, initial⟩ :=
    Device.start_ledger writable input buttons hasKeyboard vault
  obtain ⟨answered, turned, kept⟩ := Device.follow_perform durable transactions
  rw [initial] at answered turned
  have durable := kept (answered ▸ running)
  have refuses : ∀ slot fault,
      (((follow Transaction.perform transactions started).2.facts.ledger slot).emit slot).1 =
        .failed fault →
      ∃ after, (follow Transaction.perform transactions started).2.emitCode slot.val =
          .error (.fault fault) after ∧
        after.facts = (follow Transaction.perform transactions started).2.facts := by
    intro slot fault refused
    have leads := Device.emitCode_of_failed durable.kept refused
    obtain ⟨after, failed, _, left⟩ :=
      (leads _ durable.rest.ready rfl).eq_fault durable.rest.supplied
    exact ⟨after, failed, left⟩
  refine ⟨started, ran, answered, turned, fun slot blank => ?_, fun slot fault counter sealed => ?_⟩
  · rw [← turned] at blank
    exact refuses slot _ (by rw [Page.emit, blank])
  · rw [← turned] at sealed
    obtain rfl := DeviceKey.fault_of_account sealed
    exact ⟨rfl, refuses slot _ (by rw [Page.emit, sealed])⟩

/-- The first device of all has the default secret, whose codes go on after a restart. -/
theorem history_eq_ledger_inMemory :
    let vault : KeyedVault := ⟨Block.zero _, fun _ => Block.zero _, 0⟩
    let transactions : List Transaction := [.emit Slot.first, .program Slot.first "1",
      .restart [] 4 true fun _ => Block.zero _, .emit Slot.first]
    (∀ trap,
      .stopped trap ∉ (follow Ledger.step transactions (Ledger.initial vault.key .inMemory)).1) ∧
    ∃ started, Device.start (.initial .inMemory [] 4 false) vault = .ok () started ∧
      (follow Transaction.perform transactions started).1 =
        (follow Ledger.step transactions (Ledger.initial vault.key .inMemory)).1 := by
  intro vault transactions
  have writable : Store.inMemory.Writable := Store.writable_of_memory rfl rfl
  have running := Ledger.follow_of_room transactions
    (@Ledger.hasRoom_initial _ vault.key .inMemory (by decide) fun _ _ found => nomatch found)
  obtain ⟨started, ran, answered, _⟩ :=
    history_eq_ledger writable vault [] 4 false transactions running
  exact ⟨running, started, ran, answered⟩

/-- There is no code for two slots that are configured: the secret of one cannot be opened, and the
counter of the other is at its limit. -/
theorem emit_without_code :
    let last : Slot := ⟨3, by decide⟩
    let locked : Credential := { Credential.blank Slot.first with
      secretLength := 2, iv := ⟨List.replicate 16 0xff, rfl⟩, secretLength_le := by decide }
    let used : Credential := { Credential.blank last with
      secretLength := 2, counter := 0xffffffffffffffff, secretLength_le := by decide }
    let store : Store := { Store.inMemory with
      table := Slot.all.map fun slot : Slot =>
        (Keystore.recordKey slot, if slot = last then used.record else locked.record) }
    let vault : KeyedVault := ⟨Block.zero _, fun _ => Block.zero _, 0⟩
    ∃ started, Device.start (.initial store [] 4 false) vault = .ok () started ∧
      started.credentials.get Slot.first = locked ∧ locked.isConfigured = true ∧
      ((Transaction.emit Slot.first).perform started).1 = .failed .sealing ∧
      started.credentials.get last = used ∧ used.isConfigured = true ∧
      ((Transaction.emit last).perform started).1 = .stopped .counterOverflow := by
  intro last locked used store vault
  have writable : store.Writable := Store.writable_of_memory rfl rfl
  have records : store.get? (Keystore.recordKey Slot.first) = some locked.record ∧
      store.get? (Keystore.recordKey last) = some used.record ∧
      ∀ slot, (store.credential? slot).isSome = true := by
    decide +kernel
  obtain ⟨started, ran, held⟩ := Device.start_of_stored writable
    (fun slot => Option.isSome_iff_exists.mp (records.2.2 slot)) [] 4 false vault
  have durable := Device.durable_of_start writable ran
  have answers : ∀ slot credential, started.credentials.get slot = credential →
      ((Transaction.emit slot).perform started).1 =
        (Page.emit ⟨started.vault.key.account credential, (started.facts.ledger slot).storage⟩
          slot).1 := by
    rintro slot _ rfl
    exact (Device.perform_eq_step durable (.emit slot)).1
  have first : started.credentials.get Slot.first = locked := by
    have found := held Slot.first
    rw [Store.credential?, records.1] at found
    exact Option.some.inj (found.symm.trans (Credential.ofRecord?_record Slot.first locked))
  have other : started.credentials.get last = used := by
    have found := held last
    rw [Store.credential?, records.2.1] at found
    exact Option.some.inj (found.symm.trans (Credential.ofRecord?_record last used))
  refine ⟨started, ran, first, rfl, ?_, other, rfl, ?_⟩
  · have starts : DeviceKey.startBlock locked.iv = DeviceKey.lastBlock := by decide
    have outcome := @DeviceKey.apply_of_short started.vault.key locked.iv locked.sealedSecret
      (by decide) (by decide)
    rw [if_pos starts] at outcome
    have unopened : started.vault.key.account locked = some ⟨.error .sealing, 0⟩ := by
      rw [← outcome]
      rfl
    rw [answers _ _ first, Page.emit, unopened]
  · have short : used.sealedSecret.length ≤ Secret.maxLength := by decide
    have drawn : used.iv = Nonce.iv (Block.zero _) := by decide
    obtain ⟨key, opened⟩ := DeviceKey.apply_drawn started.vault.key (Block.zero _) short
    have atLimit : started.vault.key.account used = some ⟨.ok key, UInt64.size - 1⟩ := by
      rw [← opened, ← drawn]
      rfl
    rw [answers _ _ other, Page.emit, atLimit]
    rfl

end OtpToken
