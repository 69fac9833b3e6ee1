import OtpToken.Proofs.Blocking.Supply
import OtpToken.Proofs.Device.Chronicle
import OtpToken.Proofs.Device.Program

/-!
# Acts told in turns

Whatever the supply lasts for, and whatever the store does with what is written, what an
act leaves of the slots can be told in turns (`Tells`), and it never stops but where the
supply fails or a counter is at its limit. For an emission and for programming the turns
go with the outcome: a code that is handed out has used up the counter that it was
derived from, and nothing else has (`Emits`, `Programs`).
-/

namespace OtpToken

namespace Act

variable {σ α : Type}

/-- How an act has ended, without the state that it has left. -/
def outcome : EStateM.Result Failure σ α → Except Failure α
  | .ok value _ => .ok value
  | .error failure _ => .error failure

end Act

namespace Device

open Act

variable {σ α β : Type} {device mid : Device σ}

/-- What a device has in memory and in its store. -/
def holding (device : Device σ) : Holding := ⟨device.credentials, device.board.store⟩

/-- A device that something can be done with: its board is quiet, and the digits in memory are those
of the slots. -/
structure Able (device : Device σ) : Prop where
  quiet : device.board.Quiet
  fits : device.holding.Fits

/-- The digits in memory of an able device are a number of digits that codes may have. -/
theorem Able.digits_mem (able : device.Able) (slot : Slot) :
    1 ≤ (device.credentials.get slot).digits ∧
      (device.credentials.get slot).digits ≤ Code.maxDigits := by
  have digits : (device.credentials.get slot).digits = slot.digits := able.fits slot
  rw [digits]
  exact slot.digits_mem

/-- The device with another credential in a slot. -/
def remember (device : Device σ) (slot : Slot) (credential : Credential) : Device σ :=
  { device with credentials := device.credentials.set slot.val credential slot.isLt }

/-- The credential that is remembered is found in its slot. -/
theorem get_remember_self (device : Device σ) (slot : Slot) (credential : Credential) :
    (device.remember slot credential).credentials.get slot = credential := by
  rw [remember, Keystore.get_set, if_pos rfl]

/-- A slot is configured, and its counter is at the limit. -/
def Exhausted (device : Device σ) : Prop :=
  ∃ slot, (device.credentials.get slot).isConfigured = true ∧
    ¬(device.credentials.get slot).counter.toNat + 1 < UInt64.size

/-- How an act may end: on a quiet board, unless the supply fails or a counter is at its limit. -/
def Ended (device : Device σ) : EStateM.Result Failure (Device σ) α → Prop
  | .ok _ after | .error (.fault _) after =>
    after.board.Quiet ∧ (device.board.charge = none → after.board.charge = none)
  | .error (.trap trap) after =>
    trap = .powerLoss ∧ device.board.charge ≠ none ∨ trap = .counterOverflow ∧ after.Exhausted

/-- The turns account for what an act has left. -/
structure Tells (device : Device σ) (turns : List Turn)
    (result : EStateM.Result Failure (Device σ) α) : Prop where
  replays : replay turns device.holding = some (ending result).holding
  ended : device.Ended result

/-- Turns that go with the outcome account for what an act leaves. -/
def Told (goes : List Turn → Except Failure α → Prop) (act : DeviceAct σ α) (device : Device σ) :
    Prop :=
  ∃ turns, goes turns (outcome (act device)) ∧ Tells device turns (act device)

namespace Tells

variable {turns more : List Turn} {act : DeviceAct σ α} {next : α → DeviceAct σ β} {value : α}

/-- What an act that is told in turns leaves with a value is able again. -/
theorem able {value : α} (tells : Tells device turns (.ok value mid)) (able : device.Able) :
    mid.Able := ⟨tells.ended.1, able.fits.replay tells.replays⟩

/-- What an act that is told in turns leaves with a fault is able again. -/
theorem able_of_fault {fault : Fault}
    (tells : Tells (α := α) device turns (.error (.fault fault) mid)) (able : device.Able) :
    mid.Able := ⟨tells.ended.1, able.fits.replay tells.replays⟩

/-- What is put into a slot takes one turn. -/
theorem setCredential {slot : Slot} {credential : Credential} {turn : Turn} (able : device.Able)
    (taken : turn.take device.holding = some (device.holding.remember slot credential)) :
    Tells device [turn] (Device.setCredential slot credential device) :=
  ⟨replay_of_take taken, able.quiet, id⟩

/-- What is told of two acts, one after the other. -/
theorem trans {result : EStateM.Result Failure (Device σ) β}
    (first : Tells device turns (.ok value mid)) (second : Tells mid more result) :
    Tells device (turns ++ more) result := by
  refine ⟨replay_trans first.replays second.replays, ?_⟩
  have ended := second.ended
  cases result with
  | ok _ after => exact ⟨ended.1, fun supplied => ended.2 (first.ended.2 supplied)⟩
  | error failure after =>
    cases failure with
    | fault _ => exact ⟨ended.1, fun supplied => ended.2 (first.ended.2 supplied)⟩
    | trap _ => exact ended.imp_left (.imp_right fun charged supplied =>
        charged (first.ended.2 supplied))

/-- How an act that ended with a fault is told does not depend on what it would have handed out. -/
theorem of_fault {fault : Fault} (tells : Tells (α := α) device turns (.error (.fault fault) mid)) :
    Tells (α := β) device turns (.error (.fault fault) mid) := ⟨tells.replays, tells.ended⟩

/-- How an act that was stopped is told does not depend on what it would have handed out. -/
theorem of_trap {trap : Trap} (tells : Tells (α := α) device turns (.error (.trap trap) mid)) :
    Tells (α := β) device turns (.error (.trap trap) mid) := ⟨tells.replays, tells.ended⟩

end Tells

/-- The turns and the outcome are as foreseen, or the supply fails before any turn. -/
inductive Foreseen (turns : List Turn) (foreseen : Except Fault α) :
    List Turn → Except Failure α → Prop
  | ok {value : α} (same : foreseen = .ok value) : Foreseen turns foreseen turns (.ok value)
  | fault {fault : Fault} (same : foreseen = .error fault) :
      Foreseen turns foreseen turns (.error (.fault fault))
  | cut : Foreseen turns foreseen [] (.error (.trap .powerLoss))

/-- There is no turn, and nothing stops the program but the supply. -/
inductive Spared : List Turn → Except Failure α → Prop
  | ok (value : α) : Spared [] (.ok value)
  | fault (fault : Fault) : Spared [] (.error (.fault fault))
  | cut : Spared [] (.error (.trap .powerLoss))

namespace Told

variable {goes : List Turn → Except Failure α → Prop} {more : List Turn → Except Failure β → Prop}
  {act : DeviceAct σ α} {next : α → DeviceAct σ β}

/-- What is told of an act may be told more weakly. -/
theorem mono {weaker : List Turn → Except Failure α → Prop} (told : Told goes act device)
    (weaken : ∀ turns outcome, goes turns outcome → weaker turns outcome) :
    Told weaker act device := by
  obtain ⟨turns, going, tells⟩ := told
  exact ⟨turns, weaken _ _ going, tells⟩

/-- Handing out a value takes no turn. -/
theorem pure (able : device.Able) {value : α} (going : goes [] (.ok value)) :
    Told goes (Pure.pure value) device := ⟨[], going, rfl, able.quiet, id⟩

/-- Failing takes no turn. -/
theorem fail (able : device.Able) {fault : Fault} (going : goes [] (.error (.fault fault))) :
    Told goes (Act.fail fault) device := ⟨[], going, rfl, able.quiet, id⟩

/-- What is told of an act that is followed by another one. -/
theorem bind (first : Told goes act device)
    (onward : ∀ turns value mid, goes turns (.ok value) → act device = .ok value mid →
      replay turns device.holding = some mid.holding → mid.Able →
      Told (fun later => more (turns ++ later)) (next value) mid)
    (able : device.Able)
    (stops : ∀ turns failure, goes turns (.error failure) → more turns (.error failure)) :
    Told more (act >>= next) device := by
  obtain ⟨turns, going, tells⟩ := first
  cases ran : act device with
  | ok value mid =>
    rw [ran] at tells going
    obtain ⟨later, going, after⟩ := onward turns value mid going ran tells.replays (tells.able able)
    rw [Told, bind_of_ok ran]
    exact ⟨turns ++ later, going, tells.trans after⟩
  | error failure after =>
    rw [ran] at tells going
    rw [Told, bind_of_error ran]
    refine ⟨turns, stops _ _ going, ?_⟩
    cases failure with
    | fault fault => exact tells.of_fault
    | trap trap => exact tells.of_trap

/-- What is told after an act whose turns are known. -/
theorem after {turns : List Turn} {value : α}
    (told : Told (fun later => more (turns ++ later)) (next value) mid)
    (tells : Tells device turns (.ok value mid)) (ran : act device = .ok value mid) :
    Told more (act >>= next) device := by
  obtain ⟨later, going, further⟩ := told
  rw [Told, bind_of_ok ran]
  exact ⟨turns ++ later, going, tells.trans further⟩

/-- What is told of an act whose fault is handed out to another one. -/
theorem bind_attempt {next : Except Fault α → DeviceAct σ β} (first : Told goes act device)
    (onward : ∀ turns value mid, goes turns (.ok value) → act device = .ok value mid →
      replay turns device.holding = some mid.holding → mid.Able →
      Told (fun later => more (turns ++ later)) (next (.ok value)) mid)
    (caught : ∀ turns fault mid, goes turns (.error (.fault fault)) →
      replay turns device.holding = some mid.holding → mid.Able →
      Told (fun later => more (turns ++ later)) (next (.error fault)) mid)
    (able : device.Able)
    (stops : ∀ turns trap, goes turns (.error (.trap trap)) → more turns (.error (.trap trap))) :
    Told more (attempt act >>= next) device := by
  obtain ⟨turns, going, tells⟩ := first
  cases ran : act device with
  | ok value mid =>
    rw [ran] at tells going
    exact (onward turns value mid going ran tells.replays (tells.able able)).after
      ⟨tells.replays, tells.ended⟩ (attempt_of_ok ran)
  | error failure mid =>
    rw [ran] at tells going
    cases failure with
    | fault fault =>
      exact (caught turns fault mid going tells.replays (tells.able_of_fault able)).after
        ⟨tells.replays, tells.ended⟩ (attempt_of_fault ran)
    | trap trap =>
      rw [Told, bind_of_error (attempt_of_trap ran)]
      exact ⟨turns, stops turns trap going, tells.of_trap⟩

/-- What is done with the board takes the turns that account for what it does to the store. -/
theorem onBoard_of_ends {action : BoardAct α} {traces : Traces} {outcome : Except Fault α}
    (turns : List Turn) (able : device.Able)
    (ends : device.board.Ends traces outcome (action device.board))
    (replays : replay turns device.holding = some { device.holding with store := traces.store }) :
    Told (Foreseen turns outcome) (Device.onBoard action) device := by
  unfold Told Device.onBoard
  generalize action device.board = result at ends
  cases ends with
  | ok continues left =>
    refine ⟨turns, .ok rfl, ?_, able.quiet.continues continues, continues.supplied⟩
    rw [replays, ← left]
    rfl
  | fault continues left =>
    refine ⟨turns, .fault rfl, ?_, able.quiet.continues continues, continues.supplied⟩
    rw [replays, ← left]
    rfl
  | @cut _ after charged spent left =>
    refine ⟨[], .cut, ?_, .inl ⟨rfl, charged⟩⟩
    have same : after.store = device.board.store := congrArg Traces.store left
    change some device.holding = some { device.holding with store := after.store }
    rw [same]
    rfl

/-- What spares the store and leaves a board at rest takes none. -/
theorem onBoard_of_spares {action : BoardAct α} (able : device.Able)
    (spares : BoardAct.Spares action) (rests : BoardAct.Rests action) :
    Told Spared (Device.onBoard action) device := by
  have kept := spares.quiet rests able.quiet
  have unchanged : ∀ after : Board, after.store = device.board.store →
      replay [] device.holding = some { device with board := after }.holding := by
    intro after store
    rw [replay_nil, holding, holding, store]
  unfold Told Device.onBoard
  cases ran : action device.board with
  | ok value after =>
    rw [ran] at kept
    obtain ⟨quiet, supplied, store⟩ := kept
    exact ⟨[], .ok value, unchanged after store, quiet, supplied⟩
  | error failure after =>
    rw [ran] at kept
    cases failure with
    | fault fault =>
      obtain ⟨quiet, supplied, store⟩ := kept
      exact ⟨[], .fault fault, unchanged after store, quiet, supplied⟩
    | trap trap =>
      obtain ⟨rfl, charged, store⟩ := kept
      exact ⟨[], .cut, unchanged after store, .inl ⟨rfl, charged⟩⟩

end Told

/-- A step that takes no turn and cannot fail. -/
structure Passes (device after : Device σ) : Prop where
  able : after.Able
  holding : after.holding = device.holding
  vault : after.vault = device.vault
  supplied : device.board.charge = none → after.board.charge = none

namespace Passes

/-- An able device may stay as it is. -/
theorem refl (able : device.Able) : Passes device device := ⟨able, rfl, rfl, id⟩

/-- A step that passes is told in no turn. -/
theorem tells (passes : Passes device mid) (value : α) : Tells device [] (.ok value mid) :=
  ⟨by rw [replay_nil, ← passes.holding]; rfl, passes.able.quiet, passes.supplied⟩

/-- What is told after such a step is told of the whole. -/
theorem bind {goes : List Turn → Except Failure β → Prop} {act : DeviceAct σ α}
    {next : α → DeviceAct σ β} {value : α} (passes : Passes device mid)
    (ran : act device = .ok value mid) (told : Told goes (next value) mid) :
    Told goes (act >>= next) device :=
  told.after (passes.tells value) ran

/-- Printing a line passes. -/
theorem printLine (able : device.Able) (line : String) :
    ∃ after, Device.printLine line device = .ok () after ∧ Passes device after :=
  ⟨_, rfl, ⟨able.quiet.continues (Board.continues_print able.quiet.ready _), able.fits⟩, rfl, rfl, id⟩

/-- Turning a light on or off passes. -/
theorem setLight (able : device.Able) (slot : Slot) (lit : Bool) :
    ∃ after, Device.setLight slot lit device = .ok () after ∧ Passes device after := by
  have continues := Board.continues_settle_setLight able.quiet.ready slot lit
  have store : (device.board.settle (device.board.setLight slot lit)).store = device.board.store :=
    congrArg Traces.store (Board.traces_settle_setLight ..)
  let after : Device σ := { device with board := device.board.settle (device.board.setLight slot lit) }
  have same : after.holding = device.holding := by rw [Device.holding, store]; rfl
  exact ⟨after, rfl, ⟨able.quiet.continues continues, by rw [same]; exact able.fits⟩, same, rfl,
    continues.supplied⟩

end Passes

namespace Told

variable {goes : List Turn → Except Failure α → Prop} {more : List Turn → Except Failure β → Prop}

/-- A light that is on or off makes no difference to what is told. -/
theorem withLight (able : device.Able) {slot : Slot} {body : DeviceAct σ α}
    (told : ∀ lit : Device σ, Passes device lit → Told goes body lit) :
    Told goes (Device.withLight slot body) device := by
  obtain ⟨lit, ran, passes⟩ := Passes.setLight able slot true
  refine passes.bind ran (bind_attempt (told lit passes) (fun turns value mid going _ _ ableMid => ?_)
    (fun turns fault mid going _ ableMid => ?_) passes.able fun _ _ going => going)
  · obtain ⟨after, ran, passes⟩ := Passes.setLight ableMid slot false
    exact passes.bind ran (pure passes.able (by rw [List.append_nil]; exact going))
  · obtain ⟨after, ran, passes⟩ := Passes.setLight ableMid slot false
    exact passes.bind ran (fail passes.able (by rw [List.append_nil]; exact going))

/-- A report takes no turn. -/
theorem report (able : device.Able) (fault : Fault) {goes : List Turn → Except Failure Unit → Prop}
    (going : goes [] (.ok ())) : Told goes (Device.report fault) device := by
  obtain ⟨after, ran, passes⟩ := Passes.printLine able (reportLine fault)
  unfold Told Device.report
  rw [ran]
  exact ⟨[], going, passes.tells ()⟩

end Told

/-- A number that is that of no slot is refused at once. -/
theorem slotOf_eq_error {number : Nat} {fault : Fault} (none : Slot.select number = .error fault)
    (device : Device σ) : slotOf number device = .error (.fault fault) device := by
  rw [slotOf, none]
  rfl

/-- The number of a slot chooses it on every device. -/
theorem slotOf_eq_ok (slot : Slot) (device : Device σ) : slotOf slot.val device = .ok slot device := by
  rw [slotOf, Slot.select_val]
  rfl

/-- An outcome that leaves the program running. -/
def goesOn : Except Failure α → Bool
  | .error (.trap _) => false
  | _ => true

/-- What is made of the value does not matter to whether the program goes on. -/
theorem goesOn_map {outcome : Except Failure α} (change : α → Unit) :
    goesOn (outcome.map change) = goesOn outcome := by
  rcases outcome with (_ | _) | _ <;> rfl

/-- How the record of a slot is written. -/
inductive Saves (slot : Slot) : List Turn → Except Failure Unit → Prop
  | saved (credential : Credential) : Saves slot [.saved slot credential] (.ok ())
  | missed (fault : Fault) : Saves slot [.missed slot] (.error (.fault fault))
  | cut : Saves slot [] (.error (.trap .powerLoss))

/-- How it is written if a failure is only reported. -/
inductive Stores (slot : Slot) : List Turn → Except Failure Unit → Prop
  | written {write : Turn} (writes : write.Writes slot) : Stores slot [write] (.ok ())
  | cut : Stores slot [] (.error (.trap .powerLoss))

/-- What is in memory is saved, or the store refuses it. -/
theorem told_save (able : device.Able) {slot : Slot} {credential : Credential}
    (held : device.credentials.get slot = credential) :
    Told (Saves slot) (onBoard (Keystore.save slot credential)) device := by
  subst held
  have ends := BoardAct.ends_setValue able.quiet.ready (device.credentials.get slot).record
    (Keystore.recordKey_ne_nil slot)
  cases put : device.board.store.put (Keystore.recordKey slot)
      (device.credentials.get slot).record with
  | ok store =>
    rw [put] at ends
    have replays : replay [.saved slot (device.credentials.get slot)] device.holding =
        some { device.holding with store := store } :=
      replay_of_take (Turn.take_saved_of_put device.holding put)
    refine (Told.onBoard_of_ends _ able ends replays).mono fun turns outcome going => ?_
    cases going with
    | ok same => cases same; exact .saved _
    | fault same => cases same
    | cut => exact .cut
  | error error =>
    rw [put] at ends
    have replays : replay [.missed slot] device.holding =
        some { device.holding with store := device.board.store } :=
      replay_of_take (Turn.take_missed_of_put device.holding put)
    refine (Told.onBoard_of_ends _ able ends replays).mono fun turns outcome going => ?_
    cases going with
    | ok same => cases same
    | fault same => cases same; exact .missed _
    | cut => exact .cut

/-- A write that fails is reported. -/
theorem told_storeOrReport (able : device.Able) {slot : Slot} {credential : Credential}
    (held : device.credentials.get slot = credential) :
    Told (Stores slot) (storeOrReport slot credential) device := by
  refine (told_save able held).bind_attempt (fun turns _ mid going _ _ ableMid => ?_)
    (fun turns fault mid going _ ableMid => ?_) able fun turns trap going => ?_
  · cases going with
    | saved credential => exact .pure ableMid (.written (.saved credential))
  · cases going with
    | missed => exact .report ableMid fault (.written .missed)
  · cases going with
    | cut => exact .cut

/-- What the next code of a slot comes to, with certain credentials in memory. -/
def prospect [Vault σ] (vault : σ) (memory : Vector Credential slotCount) (slot : Slot) :
    Except Fault Code :=
  let current := memory.get slot
  if current.isConfigured then
    (Vault.openSecret vault current.iv current.sealedSecret).bind fun secret =>
      Code.derive secret current.counter current.digits
  else .error (.notConfigured slot.val)

/-- The prospect of a configured slot is the code that its secret and its counter give, or what
keeps it from opening. -/
theorem prospect_of_configured [Vault σ] (vault : σ) {memory : Vector Credential slotCount}
    {slot : Slot} (configured : (memory.get slot).isConfigured = true) :
    prospect vault memory slot =
      (Vault.openSecret vault (memory.get slot).iv (memory.get slot).sealedSecret).bind fun secret =>
        Code.derive secret (memory.get slot).counter (memory.get slot).digits := if_pos configured

/-- A slot has a code if it is configured, its secret can be opened and a code can be derived. -/
theorem prospect_eq_ok [Vault σ] {vault : σ} {memory : Vector Credential slotCount} {slot : Slot}
    {code : Code} (yields : prospect vault memory slot = .ok code) :
    (memory.get slot).isConfigured = true ∧ ∃ secret,
      Vault.openSecret vault (memory.get slot).iv (memory.get slot).sealedSecret = .ok secret ∧
      Code.derive secret (memory.get slot).counter (memory.get slot).digits = .ok code := by
  cases configured : (memory.get slot).isConfigured with
  | false =>
    rw [prospect, configured] at yields
    cases yields
  | true =>
    rw [prospect_of_configured vault configured] at yields
    cases opened : Vault.openSecret vault (memory.get slot).iv (memory.get slot).sealedSecret with
    | error fault =>
      rw [opened] at yields
      cases yields
    | ok secret =>
      rw [opened] at yields
      exact ⟨rfl, secret, rfl, yields⟩

/-- How an emission for a number goes on certain credentials: a code that is handed out is that of the
counter that is used up; otherwise no counter is, unless the supply fails after that. -/
inductive Emits [Vault σ] (vault : σ) (memory : Vector Credential slotCount) (number : Nat) :
    List Turn → Except Failure Code → Prop
  | emitted {slot : Slot} {code : Code} {write : Turn} (named : number = slot.val)
      (yields : prospect vault memory slot = .ok code)
      (below : (memory.get slot).counter.toNat + 1 < UInt64.size) (writes : write.Writes slot) :
      Emits vault memory number [.used slot (memory.get slot).counter, write] (.ok code)
  | refused {slot : Slot} {fault : Fault} (named : number = slot.val)
      (yields : prospect vault memory slot = .error fault) :
      Emits vault memory number [] (.error (.fault fault))
  | unnamed {fault : Fault} (none : Slot.select number = .error fault) :
      Emits vault memory number [] (.error (.fault fault))
  | limit {slot : Slot} {code : Code} (named : number = slot.val)
      (yields : prospect vault memory slot = .ok code)
      (limit : ¬(memory.get slot).counter.toNat + 1 < UInt64.size) :
      Emits vault memory number [] (.error (.trap .counterOverflow))
  | cut {slot : Slot} {write : Turn} {done : List Turn} (named : number = slot.val)
      (writes : write.Writes slot) (part : done <+: [.used slot (memory.get slot).counter, write]) :
      Emits vault memory number done (.error (.trap .powerLoss))

/-- Unless it is stopped, an emission leaves memory and storage in step. -/
theorem Emits.whole [Vault σ] {vault : σ} {memory : Vector Credential slotCount} {number : Nat}
    {turns : List Turn} {outcome : Except Failure Code}
    (emits : Emits vault memory number turns outcome) (runs : goesOn outcome = true) :
    Whole turns := by
  cases emits with
  | emitted _ _ _ writes => exact whole_used writes
  | refused => exact whole_nil
  | unnamed => exact whole_nil
  | limit => cases runs
  | cut => cases runs

section

variable [Vault σ] {slot : Slot}

/-- What is told of an emission once its code has been derived. -/
theorem told_emission {vault : σ} (able : device.Able) {code : Code}
    (yields : prospect vault device.credentials slot = .ok code) :
    Told (Emits vault device.credentials slot.val) (do
      let (used, advanced) ← ofTrapped (device.credentials.get slot).advance
      setCredential slot advanced
      storeOrReport slot advanced
      let _ ← onBoard (Delivery.deliver code used)
      return code) device := by
  obtain ⟨configured, _, _, derived⟩ := prospect_eq_ok yields
  have right := able.digits_mem slot
  have whole : 1 ≤ code.digits := by
    rw [Code.digits_of_derive right derived]
    exact right.1
  by_cases below : (device.credentials.get slot).counter.toNat + 1 < UInt64.size
  · rw [Credential.advance_of_lt below]
    let counter := (device.credentials.get slot).counter
    have used : Tells device [.used slot counter]
        (setCredential slot (device.credentials.get slot).next device) :=
      .setCredential able (Turn.take_used_of_lt device.holding below)
    have ableUsed := used.able able
    refine (Passes.refl able).bind rfl (.after ?_ used rfl)
    refine (told_storeOrReport ableUsed (device.get_remember_self ..)).bind ?_ ableUsed ?_
    · intro turns _ stored going _ _ ableStored
      cases going with
      | @written write writes =>
        have ends := BoardAct.ends_deliver ableStored.quiet.ready counter whole
        have spared : replay [] stored.holding = some
            { stored.holding with store := (stored.board.traces.deliver code counter).store } := by
          rw [Traces.store_deliver]
          rfl
        refine (Told.onBoard_of_ends _ ableStored ends spared).bind ?_ ableStored ?_
        · intro turns _ mid going _ _ ableMid
          cases going with
          | ok => exact .pure ableMid (.emitted rfl yields below writes)
        · intro turns failure going
          cases going with
          | fault same => cases same
          | cut => exact .cut rfl writes (List.prefix_refl _)
    · intro turns failure going
      cases going with
      | cut => exact .cut rfl .missed ⟨[.missed slot], rfl⟩
  · have refused : (device.credentials.get slot).advance = .error .counterOverflow := if_neg below
    rw [refused]
    exact ⟨[], .limit rfl yields below, rfl, .inr ⟨rfl, slot, configured, below⟩⟩

/-- How the next code of a configured slot is told. -/
theorem told_nextCode (able : device.Able)
    (configured : (device.credentials.get slot).isConfigured = true) :
    Told (Emits device.vault device.credentials slot.val) (nextCode slot) device := by
  have looked : credential slot device = .ok (device.credentials.get slot) device := rfl
  have comes := prospect_of_configured device.vault configured
  refine (Passes.refl able).bind looked ?_
  cases opened : Vault.openSecret device.vault (device.credentials.get slot).iv
      (device.credentials.get slot).sealedSecret with
  | error fault =>
    have refused : openSecret (device.credentials.get slot) device = .error (.fault fault) device := by
      rw [openSecret, opened]
    rw [opened] at comes
    rw [Told, bind_of_error refused]
    exact ⟨[], .refused rfl comes, rfl, able.quiet, id⟩
  | ok secret =>
    have found : openSecret (device.credentials.get slot) device = .ok secret device := by
      rw [openSecret, opened]
    rw [opened] at comes
    refine (Passes.refl able).bind found ?_
    have ends := BoardAct.ends_generateCode able.quiet.ready secret
      (device.credentials.get slot).counter (able.digits_mem slot)
    refine (Told.onBoard_of_ends [] able ends rfl).bind ?_ able ?_
    · intro turns code mid going _ replays ableMid
      cases going with
      | ok derived =>
        have held : device.credentials = mid.credentials :=
          congrArg Holding.memory (Option.some.inj replays)
        have yields := comes.trans derived
        rw [held] at yields ⊢
        exact told_emission ableMid yields
    · intro turns failure going
      cases going with
      | fault derived => exact .refused rfl (comes.trans derived)
      | cut => exact .cut rfl .missed (List.nil_prefix)

/-- How an emission is told, whatever number it is for. -/
theorem told_emitCode (able : device.Able) (number : Nat) :
    Told (Emits device.vault device.credentials number) (emitCode number) device := by
  rcases Slot.select_cases number with ⟨slot, rfl⟩ | none
  · refine (Passes.refl able).bind (slotOf_eq_ok slot device) ((Passes.refl able).bind rfl ?_)
    cases configured : (device.credentials.get slot).isConfigured with
    | true =>
      refine .withLight able fun lit passes => ?_
      have memory : lit.credentials = device.credentials := congrArg Holding.memory passes.holding
      rw [← memory] at configured ⊢
      rw [← passes.vault]
      exact told_nextCode passes.able configured
    | false => exact .fail able (.refused rfl (if_neg (by rw [configured]; exact Bool.false_ne_true)))
  · rw [Told, emitCode, bind_of_error (slotOf_eq_error none device)]
    exact ⟨[], .unnamed none, rfl, able.quiet, id⟩

/-- So it is if its code is not asked for. -/
theorem told_emit (able : device.Able) (number : Nat) :
    Told (fun turns outcome => ∃ ended, Emits device.vault device.credentials number turns ended ∧
        outcome = ended.map fun _ => ())
      (do let _ ← emitCode number) device := by
  refine (told_emitCode able number).bind (fun turns code after going _ _ ableAfter => ?_) able
    fun turns failure going => ⟨_, going, rfl⟩
  refine .pure ableAfter ⟨.ok code, ?_, rfl⟩
  rw [List.append_nil]
  exact going

/-- How programming for a number goes: a secret is installed in memory and its record is written,
which has to succeed, or the slot loses its secret. -/
inductive Programs (number : Nat) : List Turn → Except Failure Unit → Prop
  | installed {slot : Slot} {secret : Sealed} {credential : Credential} (named : number = slot.val) :
      Programs number [.installed slot secret, .saved slot credential] (.ok ())
  | unsaved {slot : Slot} {secret : Sealed} (named : number = slot.val) (fault : Fault) :
      Programs number [.installed slot secret, .missed slot] (.error (.fault fault))
  | cleared {slot : Slot} (named : number = slot.val) (fault : Fault) :
      Programs number [.cleared slot] (.error (.fault fault))
  | unnamed {fault : Fault} (none : Slot.select number = .error fault) :
      Programs number [] (.error (.fault fault))
  | cut {slot : Slot} {secret : Sealed} (named : number = slot.val) :
      Programs number [.installed slot secret] (.error (.trap .powerLoss))

omit [Vault σ] in

/-- Unless it is stopped, programming a text leaves memory and storage in step. -/
theorem Programs.whole {number : Nat} {turns : List Turn} {outcome : Except Failure Unit}
    (programs : Programs number turns outcome) (runs : goesOn outcome = true) : Whole turns := by
  cases programs with
  | installed => exact whole_installed (.saved _)
  | unsaved => exact whole_installed .missed
  | @cleared slot => exact whole_cleared slot
  | unnamed => exact whole_nil
  | cut => cases runs

/-- How a secret is made ready to be installed. -/
inductive Installs (current : Credential) : List Turn → Except Failure Credential → Prop
  | accepted {secret : Sealed} {installed : Credential}
      (accepted : current.install secret = .ok installed) : Installs current [] (.ok installed)
  | refused (fault : Fault) : Installs current [] (.error (.fault fault))

/-- Installing a text is told in the turn of the secret that is installed, or lost. -/
theorem told_installText (able : device.Able) (current : Credential) (text : String) :
    Told (Installs current) (installText current text) device := by
  unfold Told installText
  cases decoded : Secret.decode text with
  | error fault => exact ⟨[], .refused fault, rfl, able.quiet, id⟩
  | ok key =>
    have first : (Act.ofExcept (.ok key) : DeviceAct σ Bytes) device = .ok key device := rfl
    rw [bind_of_ok first]
    cases accepted : Vault.sealSecret device.vault key with
    | error fault =>
      have refused : sealSecret key device = .error (.fault fault) device := by
        rw [sealSecret, accepted]
      rw [bind_of_error refused]
      exact ⟨[], .refused fault, rfl, able.quiet, id⟩
    | ok answer =>
      obtain ⟨secret, vault⟩ := answer
      have found : sealSecret key device = .ok secret { device with vault := vault } := by
        rw [sealSecret, accepted]
      rw [bind_of_ok found]
      cases installs : current.install secret with
      | error fault => exact ⟨[], .refused fault, rfl, able.quiet, id⟩
      | ok installed => exact ⟨[], .accepted installs, rfl, able.quiet, id⟩

omit [Vault σ] in
/-- What is told of programming once its secret is ready to be installed. -/
theorem told_installed (able : device.Able) {secret : Sealed} {installed : Credential}
    (accepted : (device.credentials.get slot).install secret = .ok installed) :
    Told (Programs slot.val) (do
      setCredential slot installed
      onBoard (Keystore.save slot installed)
      printLine ("Programmed slot " ++ toString slot.val)) device := by
  have taken : (Turn.installed slot secret).take device.holding =
      some (device.holding.remember slot installed) := by
    have accepted : (device.holding.memory.get slot).install secret = .ok installed := accepted
    simp only [Turn.take, accepted]
  have tells : Tells device [.installed slot secret] (setCredential slot installed device) :=
    .setCredential able taken
  have ableAfter := tells.able able
  refine .after ((told_save ableAfter (device.get_remember_self ..)).bind ?_ ableAfter ?_) tells rfl
  · intro turns _ saved going _ _ ableSaved
    cases going with
    | saved =>
      obtain ⟨after, ran, passes⟩ := Passes.printLine ableSaved
        ("Programmed slot " ++ toString slot.val)
      unfold Told
      rw [ran]
      exact ⟨[], .installed rfl, passes.tells ()⟩
  · intro turns failure going
    cases going with
    | missed fault => exact .unsaved rfl fault
    | cut => exact .cut rfl

/-- How programming is told. -/
theorem told_programSecret (able : device.Able) (number : Nat) (text : String) :
    Told (Programs number) (programSecret number text) device := by
  rcases Slot.select_cases number with ⟨slot, rfl⟩ | none
  · refine (Passes.refl able).bind (slotOf_eq_ok slot device) ((Passes.refl able).bind rfl ?_)
    have held : ∀ mid : Device σ, replay [] device.holding = some mid.holding →
        device.credentials = mid.credentials :=
      fun mid replays => congrArg Holding.memory (Option.some.inj replays)
    refine (told_installText able _ text).bind_attempt
      (fun turns installed mid going _ replays ableMid => ?_)
      (fun turns fault mid going replays ableMid => ?_) able fun turns trap going => ?_
    · cases going with
      | accepted accepted =>
        rw [held mid replays] at accepted
        exact told_installed ableMid accepted
    · cases going with
      | refused =>
        rw [held mid replays]
        have tells : Tells mid [.cleared slot]
            (setCredential slot (mid.credentials.get slot).clear mid) := .setCredential ableMid rfl
        exact .after (.fail (tells.able ableMid) (.cleared rfl fault)) tells rfl
    · cases going
  · rw [Told, programSecret, bind_of_error (slotOf_eq_error none device)]
    exact ⟨[], .unnamed none, rfl, able.quiet, id⟩

end

end Device

end OtpToken
