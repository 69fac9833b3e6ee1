import OtpToken.Proofs.Device.Keyed
import OtpToken.Proofs.Script

/-!
# An interpreter for scripts

What a device comes to when it runs can be said without a board: gestures are taken
from a script one after the other, a short press shows the next code of its slot, and
a long one reads a secret from what follows it in the script. Here nothing waits, and
nothing else goes on meanwhile. Which event a gesture is known by is left open: it makes
no difference how the gestures on other buttons are known (`interpret_congr`).
-/

namespace OtpToken

namespace Facts

variable {σ : Type}

/-- The facts with another rest of the script. -/
def withScript (facts : Facts σ) (script : Script) : Facts σ :=
  { facts with traces := { facts.traces with input := Bytes.ofChars script } }

/-- The facts with a credential in a slot and its record in the store. -/
def keep (facts : Facts σ) (slot : Slot) (credential : Credential) : Facts σ :=
  match facts.traces.store.put (Keystore.recordKey slot) credential.record with
  | .ok store => (facts.setCredential slot credential).setStore store
  | .error _ => facts.setCredential slot credential

/-- A text is programmed into a slot, whose counter starts over; if it cannot be installed, the slot
loses its secret in memory, and the fault is reported. -/
def program [Vault σ] (facts : Facts σ) (slot : Slot) (text : String) : Facts σ :=
  match Device.installing facts.vault (facts.credentials.get slot) text with
  | (.ok installed, vault) =>
    ((facts.setVault vault).keep slot installed).printLine
      ("Programmed slot " ++ toString slot.val)
  | (.error fault, vault) =>
    ((facts.setVault vault).setCredential slot (facts.credentials.get slot).clear).report fault

/-- A short press shows the next code of a slot, and its counter is used up. What keeps the code from
being shown is reported, and changes nothing. After the last counter nothing goes on. -/
def press (facts : Facts KeyedVault) (number : Nat) : Option (Facts KeyedVault) :=
  match Slot.select number with
  | .error fault => some (facts.report fault)
  | .ok slot =>
    let current := facts.credentials.get slot
    if current.isConfigured then
      match facts.vault.key.apply current.iv current.sealedSecret with
      | .error fault => some (facts.report fault)
      | .ok secret =>
        if current.counter.toNat + 1 < UInt64.size then
          some ((facts.keep slot current.next).printLine (Delivery.printedLine
            (slot.code (Hmac.mac secret (Code.movingFactor current.counter)))))
        else none
    else some (facts.report (.notConfigured number))

/-- The facts after a secret has been asked for. -/
def ask (facts : Facts σ) (slot : Slot) : Facts σ :=
  (facts.printLine ("Program a new key in slot " ++ toString slot.val)).printLine
    "(hit enter without typing to cancel)"

/-- A secret that has been entered is programmed, and an empty one changes nothing. -/
def enter [Vault σ] (facts : Facts σ) (slot : Slot) (text : String) : Facts σ :=
  if text = "" then facts.printLine "Aborted" else facts.program slot text

/-- A long press asks for a secret and takes it from the script, which shows what it takes. If the
script breaks off in the secret, nothing is entered. -/
def hold (facts : Facts KeyedVault) (number : Nat) (script : Script) : Facts KeyedVault × Script :=
  match Slot.select number with
  | .error fault => (facts.report fault, script)
  | .ok slot =>
    match script.readSecret 0 with
    | (text, rest, true) =>
      ((((facts.ask slot).withScript rest).printLine text).enter slot text, rest)
    | (text, rest, false) => (((facts.ask slot).withScript rest).print text, rest)

/-- What a press comes to, and what is left of the script. -/
def answer (facts : Facts KeyedVault) (event : ButtonEvent) (script : Script) :
    Option (Facts KeyedVault × Script) :=
  match event.press with
  | .short => (facts.press event.button).map (·, script)
  | .long => some (facts.hold event.button script)

variable {facts after : Facts KeyedVault} {script rest : Script}

/-- A long press only takes from the script. -/
theorem hold_rest_le (facts : Facts KeyedVault) (number : Nat) (script : Script) :
    (facts.hold number script).2.length ≤ script.length := by
  have le := Script.readSecret_rest_le 0 script
  unfold hold
  split
  · exact Nat.le_refl _
  · split
    next read =>
      rw [read] at le
      exact le
    next read =>
      rw [read] at le
      exact le

/-- A press only takes from the script. -/
theorem answer_rest_le {event : ButtonEvent}
    (answered : facts.answer event script = some (after, rest)) : rest.length ≤ script.length := by
  unfold answer at answered
  split at answered
  · obtain ⟨_, _, same⟩ := Option.map_eq_some_iff.mp answered
    cases same
    exact Nat.le_refl _
  · have le := hold_rest_le facts event.button script
    rw [Option.some.inj answered] at le
    exact le

/-- The store keeps what is in memory, no code is typed, and the input that is left is a script. -/
structure Scripted (facts : Facts σ) (script : Script) : Prop where
  kept : facts.Kept
  untyped : facts.traces.typed? = none
  input : facts.traces.input = Bytes.ofChars script

namespace Scripted

variable {known : Facts σ} {slot : Slot} {credential : Credential} {vault : σ}

/-- Printing leaves the facts scripted. -/
theorem print (scripted : known.Scripted script) (text : String) :
    (known.print text).Scripted script :=
  ⟨scripted.kept.congr rfl rfl, scripted.untyped, scripted.input⟩

/-- The facts are scripted by any script that is put in the place of theirs. -/
theorem withScript (scripted : known.Scripted script) (rest : Script) :
    (known.withScript rest).Scripted rest :=
  ⟨scripted.kept.congr rfl rfl, scripted.untyped, rfl⟩

/-- Another vault leaves the facts scripted. -/
theorem setVault (scripted : known.Scripted script) (vault : σ) :
    (known.setVault vault).Scripted script :=
  ⟨scripted.kept.congr rfl rfl, scripted.untyped, scripted.input⟩

/-- A credential that is kept is in memory and in the store. -/
theorem keep_eq (scripted : known.Scripted script) (slot : Slot) (credential : Credential) :
    ∃ store, store.Writable ∧
      known.traces.store.put (Keystore.recordKey slot) credential.record = .ok store ∧
      known.keep slot credential = (known.setCredential slot credential).setStore store := by
  obtain ⟨store, put, writable, _⟩ :=
    scripted.kept.writable.put (Keystore.recordKey slot) credential.record
  refine ⟨store, writable, put, ?_⟩
  rw [keep, put]

/-- Keeping a credential with the digits of its slot leaves the facts scripted. -/
theorem keep (scripted : known.Scripted script) (digits : credential.digits = slot.digits) :
    (known.keep slot credential).Scripted script := by
  obtain ⟨store, writable, put, same⟩ := scripted.keep_eq slot credential
  rw [same]
  exact ⟨scripted.kept.replace digits put writable, scripted.untyped, scripted.input⟩

/-- Programming a text into a slot leaves the facts scripted. -/
theorem program [Vault σ] (scripted : known.Scripted script) (slot : Slot) (text : String) :
    (known.program slot text).Scripted script := by
  have vaulted := scripted.setVault
  unfold Facts.program
  split
  next installed vault accepted =>
    have digits : installed.digits = slot.digits :=
      (Device.fields_of_installing accepted).1.trans (scripted.kept.digits slot)
    exact ((vaulted vault).keep digits).print _
  next fault vault _ =>
    have cleared := (vaulted vault).kept.clear slot
    have kept : ((known.setVault vault).setCredential slot
        (known.credentials.get slot).clear).Scripted script :=
      ⟨cleared, scripted.untyped, scripted.input⟩
    exact kept.print _

/-- Asking for a secret leaves the facts scripted. -/
theorem ask (scripted : known.Scripted script) (slot : Slot) :
    (known.ask slot).Scripted script := (scripted.print _).print _

/-- Whatever has been entered, the facts stay scripted. -/
theorem enter [Vault σ] (scripted : known.Scripted script) (slot : Slot) (text : String) :
    (known.enter slot text).Scripted script := by
  unfold Facts.enter
  split
  · exact scripted.print _
  · exact scripted.program slot text

end Scripted

/-- A short press leaves the script as it is. -/
theorem Scripted.press (scripted : facts.Scripted script) {number : Nat}
    (pressed : facts.press number = some after) : after.Scripted script := by
  unfold Facts.press at pressed
  split at pressed
  · cases pressed
    exact scripted.print _
  next slot _ =>
    dsimp only at pressed
    split at pressed
    · split at pressed
      · cases pressed
        exact scripted.print _
      · split at pressed <;> cases pressed
        have digits : (facts.credentials.get slot).next.digits = slot.digits :=
          scripted.kept.digits slot
        exact (scripted.keep digits).print _
    · cases pressed
      exact scripted.print _

/-- A long press leaves the script that follows the secret. -/
theorem Scripted.hold (scripted : facts.Scripted script) (number : Nat) :
    (facts.hold number script).1.Scripted (facts.hold number script).2 := by
  have asked := fun slot rest => (scripted.ask slot).withScript rest
  unfold Facts.hold
  split
  · exact scripted.print _
  next slot _ =>
    split
    next text rest _ => exact ((asked slot rest).print _).enter slot text
    next text rest _ => exact (asked slot rest).print text

/-- Every answer to a press leaves the facts scripted. -/
theorem Scripted.answer (scripted : facts.Scripted script) {event : ButtonEvent}
    (answered : facts.answer event script = some (after, rest)) : after.Scripted rest := by
  unfold Facts.answer at answered
  split at answered
  · obtain ⟨_, pressed, same⟩ := Option.map_eq_some_iff.mp answered
    cases same
    exact scripted.press pressed
  · have held := scripted.hold event.button
    rw [Option.some.inj answered] at held
    exact held

end Facts

/-- Takes the next gesture on one of so many buttons from the script, answers the event that it is
known by, and goes on until there is none. A press after the last counter of its slot has no
outcome. -/
def interpret (known : Gesture → ButtonEvent) (buttons : Nat) (script : Script)
    (facts : Facts KeyedVault) : Option (Facts KeyedVault) :=
  match _next : script.nextGesture buttons with
  | none => some (facts.withScript [])
  | some (gesture, rest) =>
    match _answered : (facts.withScript rest).answer (known gesture) rest with
    | none => none
    | some (after, later) => interpret known buttons later after
termination_by script.length
decreasing_by
  have shorter := Script.nextGesture_rest_lt _next
  have onward := Facts.answer_rest_le _answered
  omega

namespace Facts

variable {facts after : Facts KeyedVault} {script rest : Script}

/-- Keeping a credential in a slot changes that slot alone. -/
theorem get_keep (facts : Facts KeyedVault) (slot other : Slot) (credential : Credential) :
    (facts.keep slot credential).credentials.get other =
      if slot = other then credential else facts.credentials.get other := by
  unfold keep
  split <;> exact Keystore.get_set ..

/-- Programming a slot does not move any counter on. -/
theorem counter_program_le (facts : Facts KeyedVault) (slot : Slot) (text : String) (other : Slot) :
    ((facts.program slot text).credentials.get other).counter.toNat ≤
      (facts.credentials.get other).counter.toNat := by
  unfold program
  split
  next installed vault accepted =>
    have held : (((facts.setVault vault).keep slot installed).credentials.get other).counter.toNat ≤
        (facts.credentials.get other).counter.toNat := by
      rw [get_keep]
      split
      · rw [(Device.fields_of_installing accepted).2]
        exact Nat.zero_le _
      · exact Nat.le_refl _
    exact held
  next fault vault _ =>
    have held : ((facts.setCredential slot (facts.credentials.get slot).clear).credentials.get
        other).counter = (facts.credentials.get other).counter := by
      rw [setCredential, Keystore.get_set]
      split
      next same => rw [← same, Credential.clear]
      next => rfl
    exact Nat.le_of_eq (congrArg UInt64.toNat held)

/-- A press moves every counter on by one at most. -/
theorem counter_press_le {number : Nat} (pressed : facts.press number = some after) (other : Slot) :
    (after.credentials.get other).counter.toNat ≤
      (facts.credentials.get other).counter.toNat + 1 := by
  have same := Nat.le_succ (facts.credentials.get other).counter.toNat
  unfold press at pressed
  split at pressed
  · cases pressed
    exact same
  next slot _ =>
    dsimp only at pressed
    split at pressed
    · split at pressed
      · cases pressed
        exact same
      · split at pressed
        next below =>
          cases pressed
          have held : ((facts.keep slot (facts.credentials.get slot).next).credentials.get
              other).counter.toNat ≤ (facts.credentials.get other).counter.toNat + 1 := by
            rw [get_keep]
            split
            next own =>
              subst own
              exact Nat.le_of_eq (Credential.toNat_counter_next below)
            next => exact same
          exact held
        next => cases pressed
    · cases pressed
      exact same

/-- A press of a slot whose secret opens uses up a counter. -/
theorem exists_press {slot : Slot} {secret : Bytes}
    (configured : (facts.credentials.get slot).isConfigured = true)
    (opened : facts.vault.key.apply (facts.credentials.get slot).iv
      (facts.credentials.get slot).sealedSecret = .ok secret)
    (below : (facts.credentials.get slot).counter.toNat + 1 < UInt64.size) :
    ∃ after, facts.press slot.val = some after ∧
      (after.credentials.get slot).counter.toNat = (facts.credentials.get slot).counter.toNat + 1 := by
  have pressed : facts.press slot.val = some ((facts.keep slot (facts.credentials.get slot).next).printLine
      (Delivery.printedLine (slot.code
        (Hmac.mac secret (Code.movingFactor (facts.credentials.get slot).counter))))) := by
    simp only [press, Slot.select_val, if_pos configured, opened, if_pos below]
  have held : ((facts.keep slot (facts.credentials.get slot).next).credentials.get slot).counter =
      (facts.credentials.get slot).next.counter := by
    rw [get_keep, if_pos rfl]
  exact ⟨_, pressed, (congrArg UInt64.toNat held).trans (Credential.toNat_counter_next below)⟩

/-- An answer to a press raises the counter of a slot by one at most. -/
theorem counter_answer_le {event : ButtonEvent}
    (answered : facts.answer event script = some (after, rest)) (other : Slot) :
    (after.credentials.get other).counter.toNat ≤
      (facts.credentials.get other).counter.toNat + 1 := by
  have same := Nat.le_succ (facts.credentials.get other).counter.toNat
  unfold answer at answered
  split at answered
  · obtain ⟨_, pressed, paired⟩ := Option.map_eq_some_iff.mp answered
    cases paired
    exact counter_press_le pressed other
  · have held := congrArg Prod.fst (Option.some.inj answered)
    dsimp only at held
    rw [← held, hold]
    split
    · exact same
    next slot _ =>
      split
      next text _ _ =>
        unfold enter
        split
        · exact same
        · exact Nat.le_succ_of_le (counter_program_le _ slot text other)
      next => exact same

/-- Only a counter at its limit leaves a press without an answer. -/
theorem isSome_answer {event : ButtonEvent}
    (below : ∀ slot, (facts.credentials.get slot).counter.toNat + 1 < UInt64.size) :
    (facts.answer event script).isSome := by
  unfold answer press
  split
  · rw [Option.isSome_map]
    split
    · rfl
    next slot _ =>
      simp only [if_pos (below slot)]
      split
      · split <;> rfl
      · rfl
  · rfl

end Facts

section

variable {known : Gesture → ButtonEvent}

/-- The interpreter gets through a script if no counter can come to its limit in the meantime. -/
theorem isSome_interpret (buttons : Nat) {script : Script} {facts : Facts KeyedVault}
    (room : ∀ slot, (facts.credentials.get slot).counter.toNat + script.length < UInt64.size) :
    (interpret known buttons script facts).isSome := by
  fun_induction interpret known buttons script facts with
  | case1 => rfl
  | case2 script facts gesture rest next answered =>
    have shorter := Script.nextGesture_rest_lt next
    have below : ∀ slot, (facts.credentials.get slot).counter.toNat + 1 < UInt64.size := by
      intro slot
      have bound := room slot
      omega
    have some := @Facts.isSome_answer (facts.withScript rest) rest (known gesture) below
    rw [answered] at some
    cases some
  | case3 script facts gesture rest next after later answered ih =>
    have shorter := Script.nextGesture_rest_lt next
    have onward := Facts.answer_rest_le answered
    refine ih fun slot => ?_
    have bound := room slot
    have moved : (after.credentials.get slot).counter.toNat ≤
        (facts.credentials.get slot).counter.toNat + 1 := Facts.counter_answer_le answered slot
    omega

/-- Each gesture is answered, and the interpreter goes on from there. -/
theorem interpret_eq (buttons : Nat) (script : Script) (facts : Facts KeyedVault) :
    interpret known buttons script facts =
      match script.nextGesture buttons with
      | none => some (facts.withScript [])
      | some (gesture, rest) =>
        ((facts.withScript rest).answer (known gesture) rest).bind fun answered =>
          interpret known buttons answered.2 answered.1 := by
  rw [interpret]
  split
  next next => simp only [next]
  next next =>
    simp only [next]
    split
    next none => rw [none]; rfl
    next some => rw [some]; rfl

/-- At the end of the script there is nothing to do. -/
theorem interpret_nil {facts : Facts KeyedVault} (buttons : Nat) (scripted : facts.Scripted []) :
    interpret known buttons [] facts = some facts := by
  have same : facts.withScript [] = facts := by
    rw [Facts.withScript, ← scripted.input]
  rw [interpret_eq, Script.nextGesture, same]

/-- What the last gesture of a script comes to is what the script comes to. -/
theorem interpret_of_last {buttons : Nat} {script : Script} {gesture : Gesture}
    {facts after : Facts KeyedVault} (scripted : facts.Scripted script)
    (next : script.nextGesture buttons = some (gesture, []))
    (answered : (facts.withScript []).answer (known gesture) [] = some (after, [])) :
    interpret known buttons script facts = some after := by
  rw [interpret_eq, next]
  simp only [answered, Option.bind_some]
  exact interpret_nil buttons ((scripted.withScript []).answer answered)

/-- What is made of a script does not depend on how gestures on missing buttons are known. -/
theorem interpret_congr {other : Gesture → ButtonEvent} {buttons : Nat}
    (agree : ∀ gesture : Gesture, gesture.button < buttons → known gesture = other gesture)
    (script : Script) (facts : Facts KeyedVault) :
    interpret known buttons script facts = interpret other buttons script facts := by
  fun_induction interpret known buttons script facts with
  | case1 script facts next => rw [interpret_eq, next]
  | case2 script facts gesture rest next answered =>
    rw [agree gesture (Script.nextGesture_lt next)] at answered
    rw [interpret_eq, next]
    simp only [answered, Option.bind_none]
  | case3 script facts gesture rest next after later answered ih =>
    rw [agree gesture (Script.nextGesture_lt next)] at answered
    rw [ih, interpret_eq _ script, next]
    simp only [answered, Option.bind_some]

end

/-- With no more buttons than 32 bits can number, gestures are known by what they stand for. -/
theorem interpret_told_eq {buttons : Nat} (few : buttons ≤ UInt32.size) (script : Script)
    (facts : Facts KeyedVault) :
    interpret Gesture.told buttons script facts = interpret Gesture.event buttons script facts :=
  interpret_congr (fun _ inside => Gesture.told_eq_event_iff.mpr (Nat.lt_of_lt_of_le inside few))
    script facts

end OtpToken
