import OtpToken.Proofs.Device.Booting
import OtpToken.Proofs.Device.PowerLoss
import OtpToken.Proofs.Device.Serving

/-!
# The life of a device

A device is started over and over on the same store, is used, and has its store locked
and unlocked, in any order; its supply may fail at any moment, and every write may be
refused. Whatever happens to it, its life is told by a chronicle of its slots
(`exists_chronicle`): at every moment the store has for a slot what that slot had in memory
at its last save, a save leaves there what is in memory, the counters of a slot that are
used up between two new starts of it are consecutive, and as long as no write has failed
memory and storage differ at most by a secret that a slot has lost in memory.
-/

namespace OtpToken

open Act

namespace Device

variable {σ α : Type} {device : Device σ}

/-- What is done with a running device. -/
inductive Use
  | emit (number : Nat)
  | program (number : Nat) (text : String)
  | programNew (number : Nat)
  | run

/-- Uses a device. -/
def Use.perform [Vault σ] : Use → DeviceAct σ Unit
  | emit number => do let _ ← emitCode number
  | program number text => programSecret number text
  | programNew number => programNewSecret number
  | run => Device.run

/-- How the use of a device goes. -/
inductive Use.Goes [Vault σ] (device : Device σ) : Use → List Turn → Except Failure Unit → Prop
  | emit {number : Nat} {turns : List Turn} {outcome : Except Failure Code}
      (emits : Emits device.vault device.credentials number turns outcome) :
      Goes device (.emit number) turns (outcome.map fun _ => ())
  | program {number : Nat} {text : String} {turns : List Turn} {outcome : Except Failure Unit}
      (programs : Programs number turns outcome) : Goes device (.program number text) turns outcome
  | programNew {number : Nat} {turns : List Turn} {outcome : Except Failure Unit}
      (asks : Asks number turns outcome) : Goes device (.programNew number) turns outcome
  | run {turns : List Turn} {outcome : Except Failure Unit} (runs : Runs device turns outcome) :
      Goes device .run turns outcome

/-- A use of an able device goes as `Use.Goes` says. -/
theorem told_use [Vault σ] (able : device.Able) (use : Use) :
    Told (use.Goes device) use.perform device := by
  cases use with
  | emit number =>
    refine (told_emit able number).mono fun turns outcome going => ?_
    obtain ⟨ended, emits, rfl⟩ := going
    exact Use.Goes.emit emits
  | program number text => exact (told_programSecret able number text).mono fun _ _ => .program
  | programNew number => exact (told_programNewSecret able number).mono fun _ _ => .programNew
  | run => exact (told_run able).mono fun _ _ => .run

/-- If a use has not been cut off, the turns are those of whole operations. -/
theorem Use.Goes.whole [Vault σ] {use : Use} {turns : List Turn} {outcome : Except Failure Unit}
    (goes : use.Goes device turns outcome) (runs : goesOn outcome = true) : Whole turns := by
  cases goes with
  | emit emits => exact emits.whole (goesOn_map _ ▸ runs)
  | program programs => exact programs.whole runs
  | programNew asks => exact asks.whole runs
  | run run => exact run.whole runs

end Device

open Device

/-- A device, and whether its program is running. -/
structure Life (σ : Type) where
  device : Device σ
  running : Bool

namespace Life

variable {σ : Type}

/-- What can happen to a device. -/
inductive Event (σ : Type)
  /-- The program is started, over the store as it is and on certain supply. -/
  | boot (input : Bytes) (buttons : Nat) (hasKeyboard : Bool) (charge : Option Nat) (vault : σ)
  /-- The device is used, on a certain supply. -/
  | use (use : Use) (charge : Option Nat)
  /-- The store refuses writes from now on, or accepts them again. -/
  | lock (readOnly : Bool)

/-- Before the program has been started for the first time. -/
def fresh (store : Store) (vault : σ) : Life σ :=
  ⟨Device.initial (.initial store [] 0 false) vault, false⟩

/-- What is left where the program has ended, or has come to an end of what it was asked for. -/
def after (result : EStateM.Result Failure (Device σ) Unit) : Life σ :=
  ⟨ending result, goesOn (outcome result)⟩

variable [Vault σ]

/-- What an event makes of a device. A program that is not running cannot be used. -/
def Event.take (event : Event σ) (life : Life σ) : Life σ :=
  match event with
  | boot input buttons hasKeyboard charge vault =>
    .after (start ((Board.initial life.device.board.store input buttons hasKeyboard).withCharge charge)
      vault)
  | use kind charge =>
    if life.running then .after (kind.perform (life.device.lasting charge)) else life
  | lock readOnly =>
    let board := life.device.board
    { life with
      device := { life.device with board := board.setStore (board.store.setReadOnly readOnly) } }

/-- What becomes of a device. -/
def live (events : List (Event σ)) (life : Life σ) : Life σ :=
  events.foldl (fun life event => event.take life) life

/-- How an event goes. -/
inductive Event.Goes (life : Life σ) : Event σ → List Turn → Prop
  | boot {input : Bytes} {buttons : Nat} {hasKeyboard : Bool} {charge : Option Nat} {vault : σ}
      {turns : List Turn}
      (boots : Boots life.device.board.store.credential? turns (outcome (start
        ((Board.initial life.device.board.store input buttons hasKeyboard).withCharge charge)
          vault))) :
      Goes life (.boot input buttons hasKeyboard charge vault) (.booted :: turns)
  | use {use : Use} {charge : Option Nat} {turns : List Turn} (running : life.running = true)
      (goes : use.Goes (life.device.lasting charge) turns
        (outcome (use.perform (life.device.lasting charge)))) : Goes life (.use use charge) turns
  | idle {use : Use} {charge : Option Nat} (stopped : life.running = false) :
      Goes life (.use use charge) []
  | lock (readOnly : Bool) : Goes life (.lock readOnly) [.locked readOnly]

/-- How events go, one after the other. -/
inductive Goes : Life σ → List (Event σ) → List Turn → Prop
  | nil (life : Life σ) : Goes life [] []
  | cons {life : Life σ} {event : Event σ} {events : List (Event σ)} {turns more : List Turn}
      (first : event.Goes life turns) (rest : Goes (event.take life) events more) :
      Goes life (event :: events) (turns ++ more)

omit [Vault σ] in
/-- What is told of an act is told of a device that goes on, if it does. -/
theorem able_after {device : Device σ} {turns : List Turn}
    {result : EStateM.Result Failure (Device σ) Unit} (tells : Tells device turns result)
    (able : device.Able) (running : (after result).running = true) : (after result).device.Able := by
  cases result with
  | ok value mid => exact tells.able able
  | error failure mid =>
    cases failure with
    | fault fault => exact tells.able_of_fault able
    | trap trap => cases running

/-- What one event makes of a device is told in turns, and leaves memory and storage in step unless a
write fails. -/
theorem exists_goes (life : Life σ) (able : life.running = true → life.device.Able)
    (event : Event σ) :
    ∃ turns, event.Goes life turns ∧
      replay turns life.device.holding = some (event.take life).device.holding ∧
      ((event.take life).running = true → (event.take life).device.Able ∧
        ∀ past, (life.running = true → InStep past life.device.holding) →
          (∀ slot, .missed slot ∉ turns) →
            InStep (past ++ turns) (event.take life).device.holding) := by
  cases event with
  | boot input buttons hasKeyboard charge vault =>
    let board := (Board.initial life.device.board.store input buttons hasKeyboard).withCharge charge
    have quiet : board.Quiet := .initial life.device.board.store input buttons hasKeyboard charge
    obtain ⟨turns, boots, tells⟩ := told_boot quiet vault
    have blank : (initial board vault).Able := ⟨quiet, Holding.fits_blank _⟩
    refine ⟨.booted :: turns, .boot boots, tells.replays, fun running =>
      ⟨able_after tells blank running, fun past _ written => ?_⟩⟩
    have inStep := @Boots.inStep life.device.holding _ turns (past ++ [.booted]) _ boots running
      tells.replays fun slot missed => written slot (List.mem_cons_of_mem _ missed)
    rw [List.append_assoc] at inStep
    exact inStep
  | use kind charge =>
    cases running : life.running with
    | false =>
      have same : (Event.use kind charge).take life = life := by
        rw [Event.take, running]
        rfl
      rw [same]
      exact ⟨[], .idle running, rfl, fun goes => by rw [running] at goes; cases goes⟩
    | true =>
      have same : (Event.use kind charge).take life =
          after (kind.perform (life.device.lasting charge)) := by
        rw [Event.take, running]
        rfl
      have ready : (life.device.lasting charge).Able :=
        ⟨(able running).quiet.withCharge charge, (able running).fits⟩
      obtain ⟨turns, goes, tells⟩ := told_use ready kind
      rw [same]
      refine ⟨turns, .use running goes, tells.replays, fun survives =>
        ⟨able_after tells ready survives, fun past inStep written => ?_⟩⟩
      exact goes.whole survives (inStep rfl) tells.replays written
  | lock readOnly =>
    refine ⟨[.locked readOnly], .lock readOnly, rfl, fun running =>
      ⟨⟨(able running).quiet.setStore _, (able running).fits⟩, fun past inStep written => ?_⟩⟩
    exact whole_locked readOnly (inStep running) rfl written

/-- What a list of events makes of a life is told by turns that go with the events. -/
theorem exists_goes_live (events : List (Event σ)) (life : Life σ)
    (able : life.running = true → life.device.Able) :
    ∃ turns, Goes life events turns ∧
      replay turns life.device.holding = some (live events life).device.holding ∧
      ∀ past, (life.running = true → InStep past life.device.holding) →
        (live events life).running = true → (∀ slot, .missed slot ∉ turns) →
          InStep (past ++ turns) (live events life).device.holding := by
  induction events generalizing life with
  | nil =>
    refine ⟨[], .nil life, rfl, fun past inStep running _ => ?_⟩
    rw [List.append_nil]
    exact inStep running
  | cons event events ih =>
    obtain ⟨turns, first, replayed, kept⟩ := exists_goes life able event
    obtain ⟨more, rest, further, whole⟩ := ih (event.take life) fun running => (kept running).1
    refine ⟨turns ++ more, .cons first rest, replay_trans replayed further, ?_⟩
    intro past inStep running written
    rw [← List.append_assoc]
    refine whole (past ++ turns) (fun survives => (kept survives).2 past inStep fun slot missed => ?_)
      running fun slot missed => ?_
    · exact written slot (List.mem_append_left _ missed)
    · exact written slot (List.mem_append_right _ missed)

end Life

/-- A chronicle of the slots from the first start on, with what it says about memory and storage. -/
structure Chronicle {σ : Type} (store : Store) (turns : List Turn) (life : Life σ) : Prop where
  /-- It accounts for what is in memory and in the store now. -/
  replays : replay turns (.blank store) = some life.device.holding
  /-- At every moment the store has for a slot what was last saved of it, or what it had at first. -/
  stored : ∀ done, done <+: turns → ∃ held, replay done (.blank store) = some held ∧
    ∀ slot, held.stored slot =
      match lastSaved? slot done with
      | some credential => some credential.record
      | none => store.get? (Keystore.recordKey slot)
  /-- What a slot saves is what it has in memory, and right after that it is in the store. -/
  saved : ∀ before slot credential after, turns = before ++ .saved slot credential :: after →
    ∃ held later, replay before (.blank store) = some held ∧
      held.memory.get slot = credential ∧
      replay (before ++ [.saved slot credential]) (.blank store) = some later ∧
      later.stored slot = some (later.memory.get slot).record
  /-- As long as its counter does not start anew, a slot uses up one counter after the other. -/
  consecutive : ∀ before slot first middle last after,
    turns = before ++ .used slot first :: (middle ++ .used slot last :: after) →
    (∀ turn ∈ middle, ¬turn.Renews slot) →
    last.toNat = first.toNat + 1 + middle.countP (Turn.uses slot)
  /-- If no write has failed, memory and storage differ at most by a secret lost in memory. -/
  inStep : life.running = true → (∀ slot, .missed slot ∉ turns) → ∀ slot, ∃ kept : Credential,
    life.device.holding.stored slot = some kept.record ∧
    life.device.credentials.get slot = if isCleared slot turns then kept.clear else kept

/-- The life of a device is told by a chronicle, whatever happens to it. -/
theorem exists_chronicle {σ : Type} [Vault σ] (store : Store) (vault : σ)
    (events : List (Life.Event σ)) :
    ∃ turns, Life.Goes (.fresh store vault) events turns ∧
      Chronicle store turns (Life.live events (.fresh store vault)) := by
  obtain ⟨turns, goes, replayed, whole⟩ :=
    Life.exists_goes_live events (.fresh store vault) fun running => by cases running
  let left := (Life.live events (.fresh store vault)).device.holding
  have replayed : replay turns (.blank store) = some left := replayed
  have upTo : ∀ done rest, turns = done ++ rest →
      ∃ held, replay done (.blank store) = some held ∧ replay rest held = some left := by
    intro done rest split
    rw [split, replay_append] at replayed
    exact Option.bind_eq_some_iff.mp replayed
  refine ⟨turns, goes, replayed, ?_, ?_, ?_, ?_⟩
  · rintro done ⟨rest, rfl⟩
    obtain ⟨held, reached, _⟩ := upTo done rest rfl
    refine ⟨held, reached, fun slot => ?_⟩
    rw [stored_of_replay reached slot]
    cases lastSaved? slot done <;> rfl
  · intro before slot credential after split
    obtain ⟨held, reached, rest⟩ := upTo before _ split
    rw [replay_cons] at rest
    obtain ⟨later, taken, _⟩ := Option.bind_eq_some_iff.mp rest
    have further := replay_trans reached (replay_of_take taken)
    exact ⟨held, later, reached, (Turn.take_saved taken).1, further, stored_of_saved further⟩
  · rintro before slot first middle last after rfl goes
    exact counter_of_used replayed goes
  · intro running written
    exact whole [] (fun running => by cases running) running written

end OtpToken
