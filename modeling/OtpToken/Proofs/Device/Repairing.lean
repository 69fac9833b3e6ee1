import OtpToken.Proofs.Blocking.StoreAccess
import OtpToken.Proofs.Device.Keyed

/-!
# Booting repairs the store

A boot restores every slot that keeps a valid record, formats the others, and programs
the default secret if the first slot is among these. Over a writable store this happens
once: what is left keeps a credential for every slot, and every later boot restores just
these and writes nothing. A boot that finds the key-value unit busy leaves the store
alone (`boot_repairs`).
-/

namespace OtpToken

open Act Board

namespace Device

variable {σ α : Type} {device : Device σ} {busy : Bool} {store later : Store} {vault left : σ}
  {credentials kept : Vector Credential slotCount} {outcome : Except Fault α}

/-- A device with a certain vault and certain credentials, and a board over a certain store. -/
structure IsOver (device : Device σ) (busy : Bool) (store : Store) (vault : σ)
    (credentials : Vector Credential slotCount) : Prop where
  board : device.board.Over busy store
  vault : device.vault = vault
  credentials : device.credentials = credentials

namespace IsOver

/-- What an action does to the board is done to that of the device, and nothing else is touched. -/
theorem onBoard {action : BoardAct α} (atop : device.IsOver busy store vault credentials)
    (ends : EndsIn (·.Over busy later) outcome (action device.board)) :
    EndsIn (·.IsOver busy later vault credentials) outcome (Device.onBoard action device) := by
  generalize ran : action device.board = result at ends
  unfold Device.onBoard
  rw [ran]
  cases ends with
  | ok holds => exact .ok ⟨holds, atop.vault, atop.credentials⟩
  | fault holds => exact .fault ⟨holds, atop.vault, atop.credentials⟩

/-- Printing a line leaves the device over its store. -/
theorem printLine (atop : device.IsOver busy store vault credentials) (line : String) :
    EndsIn (·.IsOver busy store vault credentials) (.ok ()) (Device.printLine line device) :=
  atop.onBoard (.ok (atop.board.print _))

/-- Turning a light on or off leaves the device over its store. -/
theorem setLight (atop : device.IsOver busy store vault credentials) (slot : Slot) (lit : Bool) :
    EndsIn (·.IsOver busy store vault credentials) (.ok ()) (Device.setLight slot lit device) :=
  atop.onBoard (.ok (atop.board.setLight _ _))

/-- Handing out an answer leaves the device over its store. -/
theorem ofExcept (atop : device.IsOver busy store vault credentials) (answer : Except Fault α) :
    EndsIn (·.IsOver busy store vault credentials) answer (Act.ofExcept answer device) :=
  by
  cases answer with
  | ok value => exact .ok atop
  | error fault => exact .fault atop

/-- The light makes no difference to what is done under it. -/
theorem withLight {body : DeviceAct σ α} (atop : device.IsOver busy store vault credentials)
    (slot : Slot) (ends : ∀ between : Device σ, between.IsOver busy store vault credentials →
      EndsIn (·.IsOver busy later left kept) outcome (body between)) :
    EndsIn (·.IsOver busy later left kept) outcome (Device.withLight slot body device) :=
  (atop.setLight slot true).bind fun between holds => (ends between holds).attempt.bind
    fun _ done => (done.setLight slot false).bind fun _ holds => holds.ofExcept _

/-- A credential is put in its slot in memory, and nothing else is touched. -/
theorem setCredential (atop : device.IsOver busy store vault credentials) (slot : Slot)
    (credential : Credential) :
    EndsIn (·.IsOver busy store vault (credentials.set slot.val credential slot.isLt)) (.ok ())
      (Device.setCredential slot credential device) := by
  refine .ok ⟨atop.board, atop.vault, ?_⟩
  rw [← atop.credentials]

/-- What a slot number stands for and what the slot holds. -/
theorem credential {next : Slot → Credential → DeviceAct σ α} {slot : Slot}
    (atop : device.IsOver busy store vault credentials)
    (goes : EndsIn (·.IsOver busy later left kept) outcome
      (next slot (credentials.get slot) device)) :
    EndsIn (·.IsOver busy later left kept) outcome ((do
      let slot ← Device.slotOf slot.val
      let current ← Device.credential slot
      next slot current) device) := by
  have here : (Device.slotOf slot.val : DeviceAct σ Slot) device = .ok slot device := by
    rw [Device.slotOf, Slot.select_val]
    rfl
  rw [bind_of_ok here]
  rw [← atop.credentials] at goes
  exact goes

variable [Vault σ]

/-- Installing the text of a secret ends as the vault and the decoding have it, and leaves the board
and the memory. -/
theorem installText {current : Credential} {text : String} {installed : Except Fault Credential}
    (atop : device.IsOver busy store vault credentials)
    (came : installing vault current text = (installed, left)) :
    EndsIn (·.IsOver busy store left credentials) installed
      (Device.installText current text device) := by
  unfold installing at came
  unfold Device.installText
  cases decoded : Secret.decode text with
  | error fault =>
    rw [decoded] at came
    cases came
    exact (atop.ofExcept (.error fault)).bind_fault
  | ok key =>
    refine (atop.ofExcept (.ok key)).bind fun between holds => ?_
    cases accepted : Vault.sealSecret vault key with
    | error fault =>
      have refused : Device.sealSecret key between = .error (.fault fault) between := by
        rw [Device.sealSecret, holds.vault, accepted]
      simp only [decoded, accepted] at came
      cases came
      rw [bind_of_error refused]
      exact .fault holds
    | ok result =>
      have sealing : Device.sealSecret key between =
          .ok result.1 { between with vault := result.2 } := by
        rw [Device.sealSecret, holds.vault, accepted]
      simp only [decoded, accepted] at came
      cases came
      have drawn : ({ between with vault := result.2 } : Device σ).IsOver busy store result.2
        credentials := ⟨holds.board, rfl, holds.credentials⟩
      rw [bind_of_ok sealing]
      exact drawn.ofExcept _

/-- A text that can be installed is, in memory and as far as the store takes it. -/
theorem programSecret {slot : Slot} {text : String} {installed : Credential}
    (atop : device.IsOver busy store vault credentials)
    (accepted : installing vault (credentials.get slot) text = (.ok installed, left)) :
    EndsIn (·.IsOver busy (store.writing busy (Keystore.recordKey slot) installed.record).2 left
        (credentials.set slot.val installed slot.isLt))
      (store.writing busy (Keystore.recordKey slot) installed.record).1
      (Device.programSecret slot.val text device) := by
  refine atop.credential ((atop.installText accepted).attempt.bind fun between holds => ?_)
  refine (holds.setCredential slot installed).bind fun last done => ?_
  have saved := done.onBoard (Keystore.endsIn_save done.board slot installed)
  cases put : (store.writing busy (Keystore.recordKey slot) installed.record).1 with
  | error fault =>
    rw [put] at saved
    exact saved.bind_fault
  | ok _ =>
    rw [put] at saved
    exact saved.bind fun _ stored => stored.printLine _

/-- A text that cannot be installed leaves the slot without a secret in memory. -/
theorem programSecret_of_error {slot : Slot} {text : String} {fault : Fault}
    (atop : device.IsOver busy store vault credentials)
    (refused : installing vault (credentials.get slot) text = (.error fault, left)) :
    EndsIn (·.IsOver busy store left
        (credentials.set slot.val (credentials.get slot).clear slot.isLt))
      (.error fault) (Device.programSecret slot.val text device) := by
  refine atop.credential ((atop.installText refused).attempt.bind fun between holds => ?_)
  exact (holds.setCredential slot _).bind fun _ cleared => .fault cleared

/-- What goes wrong with the default secret is reported. -/
theorem programDefault {outcome : Except Fault Unit}
    (atop : device.IsOver busy store vault credentials)
    (ends : ∀ between : Device σ, between.IsOver busy store vault credentials →
      EndsIn (·.IsOver busy later left kept) outcome
        (Device.programSecret Slot.first.val defaultSecret between)) :
    EndsIn (·.IsOver busy later left kept) (.ok ()) (Device.programDefault device) := by
  refine (atop.withLight Slot.first ends).attempt.bind fun between holds => ?_
  cases outcome with
  | ok _ => exact .ok holds
  | error fault => exact holds.printLine _

end IsOver

/-- To put back what a slot holds changes nothing. -/
theorem set_of_get {slot : Slot} {credential : Credential}
    (held : credentials.get slot = credential) :
    credentials.set slot.val credential slot.isLt = credentials := by
  rw [← held]
  exact Vector.set_getElem_self slot.isLt

/-- An action that hands out a value on the board does so on the device. -/
theorem onBoard_of_ok {action : BoardAct α} {value : α} {after : Board}
    (ran : action device.board = .ok value after) :
    (onBoard action : DeviceAct σ α) device =
      .ok value ⟨after, device.vault, device.credentials⟩ := by
  simp only [onBoard, ran]

variable [Vault σ]

/-- Once the slots have been loaded, the default secret is programmed if the first of them has been
formatted. -/
theorem boot_of_formatted {restored : Restored} {loaded : Board}
    (loads : Keystore.loadAll device.board = .ok restored loaded)
    (formatted : Slot.first ∈ restored.formatted) :
    boot device = programDefault ⟨loaded, device.vault, restored.credentials⟩ := by
  unfold boot
  rw [bind_of_ok (onBoard_of_ok loads)]
  simp only [if_pos formatted]
  rfl

/-- Unless the first slot has been formatted, a boot does no more than load the slots. -/
theorem boot_of_unformatted {restored : Restored} {loaded : Board}
    (loads : Keystore.loadAll device.board = .ok restored loaded)
    (unformatted : Slot.first ∉ restored.formatted) :
    boot device = .ok () ⟨loaded, device.vault, restored.credentials⟩ := by
  unfold boot
  rw [bind_of_ok (onBoard_of_ok loads)]
  simp only [if_neg unformatted]
  rfl

/-- What programming the default secret comes to where the first slot is blank: it is installed, in
memory and as far as the store takes it, or else the slot stays blank. -/
inductive Refills (busy : Bool) (store : Store) (vault : σ)
    (credentials : Vector Credential slotCount) (booted : Device σ) : Prop
  | installed {credential : Credential} {left : σ}
      (accepted : installing vault (.blank Slot.first) defaultSecret = (.ok credential, left))
      (atop : booted.IsOver busy
        (store.writing busy (Keystore.recordKey Slot.first) credential.record).2 left
        (credentials.set Slot.first.val credential Slot.first.isLt))
  | refused {fault : Fault} {left : σ}
      (rejected : installing vault (.blank Slot.first) defaultSecret = (.error fault, left))
      (atop : booted.IsOver busy store left credentials)

/-- Programming the default secret into a blank first slot hands out nothing, and installs the
secret or leaves the slot blank. -/
theorem refills_programDefault (atop : device.IsOver busy store vault credentials)
    (blank : credentials.get Slot.first = .blank Slot.first) :
    ∃ booted, programDefault device = .ok () booted ∧
      Refills busy store vault credentials booted := by
  obtain ⟨came, left, installs⟩ :
      ∃ came left, installing vault (.blank Slot.first) defaultSecret = (came, left) :=
    ⟨_, _, rfl⟩
  cases came with
  | ok credential =>
    obtain ⟨booted, programmed, holds⟩ := (atop.programDefault fun between holds =>
      holds.programSecret (blank ▸ installs)).eq_ok
    exact ⟨booted, programmed, .installed installs holds⟩
  | error fault =>
    obtain ⟨booted, programmed, holds⟩ := (atop.programDefault fun between holds =>
      holds.programSecret_of_error (blank ▸ installs)).eq_ok
    have cleared : credentials.get Slot.first = (credentials.get Slot.first).clear := by
      rw [blank]
      rfl
    rw [set_of_get cleared] at holds
    exact ⟨booted, programmed, .refused installs holds⟩

/-- Under a device key the default secret is always installed, and can be opened. -/
theorem Refills.keyed {vault : KeyedVault} {booted : Device KeyedVault}
    (refills : Refills busy store vault credentials booted) :
    ∃ credential secret, Secret.decode defaultSecret = .ok secret ∧
      credential.isConfigured = true ∧
      vault.key.apply credential.iv credential.sealedSecret = .ok secret ∧
      booted.IsOver busy
        (store.writing busy (Keystore.recordKey Slot.first) credential.record).2
        { vault with drawn := vault.drawn + 1 }
        (credentials.set Slot.first.val credential Slot.first.isLt) := by
  have decoded : Secret.decode defaultSecret = .ok [0x99, 0x25] := by decide +kernel
  obtain ⟨credential, came, configured, opens, -⟩ :=
    installing_keyed vault (.blank Slot.first) decoded
  cases refills with
  | refused rejected atop =>
    rw [rejected] at came
    cases came
  | installed accepted atop =>
    rw [accepted] at came
    cases came
    exact ⟨_, _, decoded, configured, opens, atop⟩

/-- What a boot comes to, once the slots have been loaded. -/
structure BootsOver (device : Device σ) (busy : Bool) (restored : Restored) (loaded : Board)
    (booted : Device σ) : Prop where
  loads : Keystore.loadAll device.board = .ok restored loaded
  ends : boot device = .ok () booted
  /-- Unless the first slot has been formatted, nothing else is done. -/
  kept : Slot.first ∉ restored.formatted → booted = ⟨loaded, device.vault, restored.credentials⟩
  /-- Otherwise the default secret is programmed into it. -/
  refilled : Slot.first ∈ restored.formatted →
    Refills busy loaded.store device.vault restored.credentials booted

/-- A boot over any store, whether or not its unit is busy, loads the slots and ends, with the store
repaired where it is not busy. -/
theorem bootsOver (atop : device.board.Over busy store) :
    ∃ loaded booted, BootsOver device busy (.ofFound (store.seen busy)) loaded booted ∧
      loaded.store = if busy then store else store.repaired := by
  obtain ⟨loaded, loads, left⟩ := (Keystore.endsIn_loadAll atop).eq_ok
  by_cases formatted : Slot.first ∈ (Restored.ofFound (store.seen busy)).formatted
  · have blank : (Restored.ofFound (store.seen busy)).credentials.get Slot.first =
        .blank Slot.first := by
      rw [Restored.get_ofFound, Restored.mem_formatted.mp formatted]
      rfl
    have ready : (⟨loaded, device.vault, (Restored.ofFound (store.seen busy)).credentials⟩ :
        Device σ).IsOver busy loaded.store device.vault
          (Restored.ofFound (store.seen busy)).credentials :=
      ⟨⟨left.reachable, left.pending, rfl⟩, rfl, rfl⟩
    obtain ⟨booted, programmed, refills⟩ := refills_programDefault ready blank
    exact ⟨loaded, booted, ⟨loads, (boot_of_formatted loads formatted).trans programmed, fun apart => absurd formatted apart,
      fun _ => refills⟩, left.stored⟩
  · have begins := boot_of_unformatted loads formatted
    exact ⟨loaded, _, ⟨loads, begins, fun _ => rfl, fun here => absurd here formatted⟩, left.stored⟩

/-- A boot over a writable store leaves every slot with a record of what it has in memory. -/
theorem BootsOver.stored {loaded : Board} {booted : Device σ}
    (boots : BootsOver device false (.ofFound store.credential?) loaded booted)
    (repairs : store.Repairs loaded.store) (slot : Slot) :
    booted.board.store.credential? slot = some (booted.credentials.get slot) := by
  have restored := repairs.stored slot
  by_cases formatted : Slot.first ∈ (Restored.ofFound store.credential?).formatted
  · cases boots.refilled formatted with
    | refused rejected atop => rw [atop.board.stored, atop.credentials, restored]
    | @installed credential left accepted atop =>
      obtain ⟨after, put, -⟩ :=
        repairs.writable.put (Keystore.recordKey Slot.first) credential.record
      have digits : credential.digits = Slot.first.digits := (fields_of_installing accepted).1
      rw [atop.board.stored, atop.credentials, Store.writing_idle, Store.written_of_ok put,
        Store.credential?_put put, Keystore.get_set, ← digits]
      by_cases own : Slot.first = slot
      · rw [if_pos own, if_pos own]
      · rw [if_neg own, if_neg own, restored]
  · rw [boots.kept formatted]
    exact restored

/-- A boot where every slot keeps a credential restores just these and writes nothing. -/
theorem boot_of_stored (atop : device.board.Over false store)
    (stored : ∀ slot, store.credential? slot = some (credentials.get slot)) :
    ∃ after : Board, after.store = store ∧
      boot device = .ok () ⟨after, device.vault, credentials⟩ := by
  obtain ⟨loaded, booted, boots, left⟩ := bootsOver atop
  have unformatted : Slot.first ∉ (Restored.ofFound (store.seen false)).formatted := by
    intro formatted
    have none : store.credential? Slot.first = none := Restored.mem_formatted.mp formatted
    rw [stored] at none
    cases none
  have restored : (Restored.ofFound (store.seen false)).credentials = credentials := by
    refine Vector.ext fun place bound => ?_
    have held := @Restored.get_ofFound (store.seen false) ⟨place, bound⟩
    have found : store.seen false ⟨place, bound⟩ = _ := stored ⟨place, bound⟩
    rw [found] at held
    exact held
  refine ⟨loaded, left.trans ?_, ?_⟩
  · exact Store.repaired_of_stored fun slot => Option.isSome_of_eq_some (stored slot)
  · rw [boots.ends, boots.kept unformatted, restored]

/-- On every board that a program can reach, a boot ends and repairs the store. If the key-value
unit is idle, each slot is restored to its valid record or else formatted; where the store can be
written, the blank records and the default secret are all that is written, and whoever boots over
the same records again restores the same credentials and writes nothing. A read-only store, and any
store behind a busy unit, is left alone. -/
theorem boot_repairs (device : Device σ) (reachable : device.board.Reachable) :
    (device.board.keyValue.pending = none → ∃ loaded booted,
      BootsOver device false (.ofFound device.board.store.credential?) loaded booted ∧
      (device.board.store.readOnly = true → loaded.store = device.board.store) ∧
      (device.board.store.Writable → device.board.store.Repairs loaded.store ∧
        ∀ again : Device σ, again.board.Reachable → again.board.keyValue.pending = none →
          (∀ slot : Slot, again.board.store.get? (Keystore.recordKey slot) =
            booted.board.store.get? (Keystore.recordKey slot)) →
          ∃ after : Board, after.store = again.board.store ∧
            boot again = .ok () ⟨after, again.vault, booted.credentials⟩)) ∧
    (device.board.keyValue.pending.isSome → ∃ loaded booted,
      BootsOver device true (.ofFound fun _ => none) loaded booted ∧
      loaded.store = device.board.store ∧ booted.board.store = device.board.store) := by
  constructor
  · intro idle
    obtain ⟨loaded, booted, boots, left⟩ := bootsOver (reachable.over_of_idle idle)
    refine ⟨loaded, booted, boots, fun locked => left.trans ?_, fun writable => ?_⟩
    · exact Store.repaired_of_readOnly locked
    · have repairs : device.board.store.Repairs loaded.store := left ▸ writable.repairs
      refine ⟨repairs, fun again reachable idle same => ?_⟩
      exact boot_of_stored (reachable.over_of_idle idle) fun slot =>
        (Store.credential?_congr (same slot)).trans (boots.stored repairs slot)
  · intro busy
    have atop : device.board.Over true device.board.store := ⟨reachable, busy, rfl⟩
    obtain ⟨loaded, booted, boots, left⟩ := bootsOver atop
    refine ⟨loaded, booted, boots, left, ?_⟩
    cases boots.refilled (Restored.mem_formatted.mpr rfl) with
    | installed _ atop => exact atop.board.stored.trans left
    | refused _ atop => exact atop.board.stored.trans left

/-- A board in the middle of things, over a store with a record for the second slot, a short one for
the third, a malformed one for the fourth, and a value that is nobody's record. -/
def littered : Board :=
  Board.crowded.obeyAll [
    .putValue (Keystore.recordKey 1) (20 :: List.replicate 88 7),
    .putValue (Keystore.recordKey 2) [20],
    .putValue (Keystore.recordKey 3) (65 :: List.replicate 88 7),
    .putValue [1] [2]]

/-- The writes and the alarms that are given in its definition lead to that board. -/
theorem reachable_littered : littered.Reachable :=
  Board.reachable_crowded.obeyAll (by simp [Command.subscriber?])

/-- There, three slots are formatted and the default secret is programmed, and the next boot writes
nothing; behind a busy unit nothing is written at all. -/
theorem boot_repairs_littered :
    let vault : KeyedVault := ⟨Block.zero _, fun _ => Block.zero _, 0⟩
    littered.Reachable ∧ littered.keyValue.pending = none ∧ littered.store.Writable ∧
      (Restored.ofFound littered.store.credential?).formatted =
        [⟨0, by decide⟩, ⟨2, by decide⟩, ⟨3, by decide⟩] ∧
      littered.store.writes = 4 ∧
      (∃ booted : Device KeyedVault, boot (initial littered vault) = .ok () booted ∧
        (booted.credentials.get Slot.first).isConfigured = true ∧
        booted.board.store.writes = 8 ∧ ∃ after : Board, after.store = booted.board.store ∧
          boot booted = .ok () ⟨after, booted.vault, booted.credentials⟩) ∧
      BoardAct.engaged.Reachable ∧ BoardAct.engaged.keyValue.pending.isSome ∧
      ∃ booted, boot (initial BoardAct.engaged vault) = .ok () booted ∧
        booted.board.store = BoardAct.engaged.store := by
  intro vault
  have idle : littered.keyValue.pending = none := by decide
  have writable : littered.store.Writable := Store.writable_of_memory rfl rfl
  have writes : littered.store.writes = 4 := by decide
  have formatted : (Restored.ofFound littered.store.credential?).formatted =
      [⟨0, by decide⟩, ⟨2, by decide⟩, ⟨3, by decide⟩] := by decide +kernel
  obtain ⟨loaded, booted, boots, -, lasts⟩ :=
    (boot_repairs (initial littered vault) reachable_littered).1 idle
  obtain ⟨repairs, again⟩ := lasts writable
  have first : Slot.first ∈ (Restored.ofFound littered.store.credential?).formatted := by
    rw [formatted]
    decide
  obtain ⟨credential, secret, -, configured, -, atop⟩ := (boots.refilled first).keyed
  obtain ⟨after, put, -⟩ := repairs.writable.put (Keystore.recordKey Slot.first) credential.record
  have stored : booted.board.store = after := by
    rw [atop.board.stored, Store.writing_idle, Store.written_of_ok put]
  have grown : loaded.store.writes = littered.store.writes +
    (Restored.ofFound littered.store.credential?).formatted.length := repairs.writes
  rw [writes, formatted] at grown
  refine ⟨reachable_littered, idle, writable, formatted, writes,
    ⟨booted, boots.ends, ?_, ?_, again booted atop.board.reachable atop.board.idle fun _ => rfl⟩,
    BoardAct.reachable_engaged, by decide, ?_⟩
  · rw [atop.credentials, Keystore.get_set, if_pos rfl]
    exact configured
  · rw [stored, Store.writes_put put, grown]
    rfl
  · obtain ⟨_, booted, boots, -, left⟩ :=
      (boot_repairs (initial BoardAct.engaged vault) BoardAct.reachable_engaged).2 (by decide)
    exact ⟨booted, boots.ends, left⟩

end Device

end OtpToken
