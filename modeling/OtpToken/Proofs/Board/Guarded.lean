import OtpToken.Proofs.Board.Schedule

/-!
# Guarded boards

A driver that completes an operation touches its tables and the buffers that are shared
with it, and relies on what was checked when the operation was accepted. A board is
guarded if these checks still hold, whatever its clock shows. On a guarded board every
span that a service routine touches lies inside its table or buffer (`Guarded.fits`),
so the routine completes, leaves the board guarded (`Guarded.service`) and changes no
byte of a buffer behind its spans (`drop_filled_service`). No sequence of commands and
yields breaks the guard or stops the board (`run_guarded`).
-/

namespace OtpToken

/-- The front of a table or a buffer up to where it is touched, and the length of the whole. -/
structure Span where
  stop : Nat
  length : Nat
  deriving DecidableEq, Repr

/-- A span lies inside its table or buffer. -/
def Span.Fits (span : Span) : Prop := span.stop ≤ span.length

/-- A place of a table as the span that ends behind it. -/
def Span.ofPlace (place length : Nat) : Span := ⟨place + 1, length⟩

namespace Alarms

/-- What is touched when the first alarm fires: its place. -/
def spans (alarms : Alarms) : List Span :=
  alarms.next?.toList.map fun entry => .ofPlace entry.2 alarms.places.length

/-- An alarm that is armed has a place in the table. -/
theorem fits (alarms : Alarms) : ∀ span ∈ alarms.spans, span.Fits := by
  intro span member
  obtain ⟨⟨expiration, place⟩, next, rfl⟩ := List.mem_map.mp member
  have listed := mem_of_earliest?_eq_some (Option.mem_toList.mp next)
  obtain ⟨timer, here, _⟩ := mem_deadlines.mp listed
  exact lt_length_of_timer? here

/-- The default alarm stays when an alarm fires. -/
theorem hasDefault_service {alarms : Alarms} (now : Nat)
    (hasDefault : (alarms.timer? defaultPlace).isSome) :
    ((alarms.service now).1.timer? defaultPlace).isSome := by
  unfold service
  split
  next =>
    split
    next =>
      rw [timer?_setTimer]
      split
      next => rfl
      next => exact hasDefault
    next => exact hasDefault
  next => exact hasDefault

end Alarms

namespace Buttons

/-- What is touched when the first transition is served: the interrupt of its button, if there is
such a button. -/
def spans (buttons : Buttons) : List Span :=
  (buttons.queue.head?.toList.filter (·.button < buttons.pressed.size)).map
    fun transition => .ofPlace transition.button buttons.interrupts.size

variable {buttons : Buttons}

/-- The tables of pressed buttons and of interrupts are equally long. -/
def Paired (buttons : Buttons) : Prop := buttons.pressed.size = buttons.interrupts.size

/-- Every span of paired buttons fits. -/
theorem Paired.fits (paired : buttons.Paired) : ∀ span ∈ buttons.spans, span.Fits := by
  intro span member
  obtain ⟨transition, queued, rfl⟩ := List.mem_map.mp member
  have inside : transition.button < buttons.pressed.size := by
    simpa using (List.mem_filter.mp queued).2
  rw [paired] at inside
  exact inside

/-- A transition is served if the interrupt of its button is found. -/
theorem exists_service (fits : ∀ span ∈ buttons.spans, span.Fits) :
    ∃ served, buttons.service = .ok served := by
  unfold service
  cases queued : buttons.queue with
  | nil => exact ⟨_, rfl⟩
  | cons transition rest =>
    dsimp only
    split
    next => exact ⟨_, rfl⟩
    next pressed set =>
      split
      next => exact ⟨_, rfl⟩
      next => exact ⟨_, rfl⟩
      next missing =>
        have inside : transition.button < buttons.pressed.size := by
          by_contra beyond
          rw [Row.set?_eq_none_iff.mpr (Nat.le_of_not_lt beyond)] at set
          cases set
        have fit := fits (.ofPlace transition.button buttons.interrupts.size)
          (by simp [spans, queued, inside])
        exact absurd (Row.get?_eq_none_iff.mp missing) (Nat.not_le_of_lt fit)

/-- A transition changes the length of neither table. -/
theorem Paired.service (paired : buttons.Paired) {served : Buttons} {call : Option Call}
    (ok : buttons.service = .ok (served, call)) : served.Paired := by
  unfold Buttons.service at ok
  split at ok
  next => cases ok; exact paired
  next =>
    split at ok
    next => cases ok; exact paired
    next set =>
      have size := Row.size_set? set
      split at ok <;> cases ok <;> exact size.trans paired

end Buttons

namespace Console

/-- What is touched when the pending read completes: the front of its buffer. -/
def spans (console : Console) : List Span :=
  console.received.toList.map fun _ => .ofPlace 0 console.buffer.length

variable {console : Console}

/-- A read completes if there is a place for the byte. -/
theorem exists_service (fits : ∀ span ∈ console.spans, span.Fits) :
    ∃ served, console.service = .ok served := by
  unfold service
  cases received : console.received with
  | none => exact ⟨_, rfl⟩
  | some entry =>
    have fit := fits (.ofPlace 0 console.buffer.length) (by simp [spans, received])
    obtain ⟨first, rest, buffer⟩ := List.exists_cons_of_length_pos fit
    rw [buffer]
    exact ⟨_, rfl⟩

/-- A read that completes changes nothing of its buffer behind the front. -/
theorem drop_buffer_service {served : Console} {call : Option Call}
    (ok : console.service = .ok (served, call)) {stop : Nat}
    (behind : ∀ span ∈ console.spans, span.stop ≤ stop) :
    served.buffer.drop stop = console.buffer.drop stop := by
  unfold service at ok
  split at ok
  next => cases ok; rfl
  next entry byte received =>
    have front : 0 + 1 ≤ stop :=
      behind (.ofPlace 0 console.buffer.length) (by simp [spans, received])
    obtain ⟨beyond, rfl⟩ := Nat.exists_eq_add_of_le front
    split at ok
    next => cases ok
    next old rest filled =>
      cases ok
      rw [filled, Nat.zero_add, Nat.add_comm, List.drop_succ_cons, List.drop_succ_cons]

end Console

namespace MacUnit

/-- What is touched when the outstanding run completes: the part of the destination that takes the
digest. -/
def spans (unit : MacUnit) : List Span :=
  unit.due.toList.map fun _ => ⟨Sha256.digestSize, unit.destination.length⟩

/-- A run completes if the destination takes the digest. -/
theorem exists_service {unit : MacUnit} (fits : ∀ span ∈ unit.spans, span.Fits) :
    ∃ served, unit.service = .ok served := by
  unfold service
  cases running : unit.due with
  | none => exact ⟨_, rfl⟩
  | some due =>
    have fit := fits ⟨Sha256.digestSize, unit.destination.length⟩ (by simp [spans, running])
    rw [if_neg (by simp), if_neg (Nat.not_lt_of_le fit)]
    exact ⟨_, rfl⟩

/-- A run that completes changes nothing of its destination behind the digest. -/
theorem drop_destination_service {unit served : MacUnit} {call : Option Call}
    (ok : unit.service = .ok (served, call)) {stop : Nat}
    (behind : ∀ span ∈ unit.spans, span.stop ≤ stop) :
    served.destination.drop stop = unit.destination.drop stop := by
  unfold service at ok
  cases running : unit.due with
  | none =>
    rw [running] at ok
    cases ok
    rfl
  | some due =>
    have digest : Sha256.digestSize ≤ stop :=
      behind ⟨Sha256.digestSize, unit.destination.length⟩ (by simp [spans, running])
    have length : (Hmac.mac unit.key unit.data).val.length = Sha256.digestSize :=
      (Hmac.mac unit.key unit.data).property
    rw [running, if_neg (by simp)] at ok
    split at ok <;> cases ok
    rw [List.drop_append, List.drop_eq_nil_of_le (by rw [length]; exact digest), length,
      List.nil_append, List.drop_drop, Nat.add_sub_cancel' digest]

end MacUnit

namespace Keyboard

/-- What is touched when the outstanding text is typed: a full memory loses its first text. -/
def spans (keyboard : Keyboard) : List Span :=
  if keyboard.due.isSome ∧ keyboard.typed.length = memory then
    [.ofPlace 0 keyboard.typed.length]
  else []

/-- Every span of a keyboard fits. -/
theorem fits (keyboard : Keyboard) : ∀ span ∈ keyboard.spans, span.Fits := by
  intro span member
  unfold spans at member
  split at member
  next full =>
    rw [List.mem_singleton.mp member, Span.ofPlace, Span.Fits, full.2]
    decide
  next => cases member

end Keyboard

namespace KeyValue

/-- How many bytes of a value are copied into a destination. -/
def copied (destination value : Bytes) : Nat := min value.length destination.length

/-- Only the bytes that are copied are replaced. -/
theorem copyInto_eq (destination value : Bytes) :
    copyInto destination value =
      value.take (copied destination value) ++ destination.drop (copied destination value) := by
  rcases Nat.le_total value.length destination.length with short | long
  · rw [copyInto, copied, Nat.min_eq_left short, List.take_of_length_le short, List.take_length]
  · rw [copyInto, copied, Nat.min_eq_right long, List.drop_length, List.drop_eq_nil_of_le long]

/-- What is touched when the outstanding access completes: the bytes that a read copies, in the
value and in the destination. -/
def spans (unit : KeyValue) : List Span :=
  match unit.pending with
  | some (_, .get) =>
    (unit.store.get? unit.key).toList.flatMap fun value =>
      [⟨copied unit.destination value, value.length⟩,
        ⟨copied unit.destination value, unit.destination.length⟩]
  | some (_, .set) => []
  | none => []

/-- A read copies no more than there is, and no more than fits. -/
theorem fits (unit : KeyValue) : ∀ span ∈ unit.spans, span.Fits := by
  intro span member
  unfold spans at member
  split at member
  next =>
    obtain ⟨value, _, among⟩ := List.mem_flatMap.mp member
    rcases List.mem_pair.mp among with rfl | rfl
    · exact Nat.min_le_left ..
    · exact Nat.min_le_right ..
  next => cases member
  next => cases member

/-- An access that completes changes nothing of the destination behind what a read copies. -/
theorem drop_destination_service (unit : KeyValue) {stop : Nat}
    (behind : ∀ span ∈ unit.spans, span.stop ≤ stop) :
    unit.service.1.destination.drop stop = unit.destination.drop stop := by
  unfold service
  split
  next => rfl
  next due reads =>
    split
    next value found =>
      have front : copied unit.destination value ≤ stop :=
        behind ⟨copied unit.destination value, value.length⟩ (by simp [spans, reads, found])
      have length : (value.take (copied unit.destination value)).length =
          copied unit.destination value :=
        List.length_take_of_le (Nat.min_le_left ..)
      dsimp only
      rw [copyInto_eq, List.drop_append, List.drop_eq_nil_of_le (by rw [length]; exact front),
        length, List.nil_append, List.drop_drop, Nat.add_sub_cancel' front]
    next => rfl
  next => split <;> rfl

end KeyValue

namespace Board

/-- What a driver touches when it completes the operation of its that is due first. -/
def spans (board : Board) : Source → List Span
  | .alarms => board.alarms.spans
  | .buttons => board.buttons.spans
  | .console => board.console.spans
  | .macUnit => board.macUnit.spans
  | .keyboard => (board.keyboard.map Keyboard.spans).getD []
  | .keyValue => board.keyValue.spans

/-- The buffer that a driver fills when it completes an operation. -/
def filled (board : Board) : Source → Bytes
  | .console => board.console.buffer
  | .macUnit => board.macUnit.destination
  | .keyValue => board.keyValue.destination
  | .alarms | .buttons | .keyboard => []

/-- The checks of the drivers still hold: the default alarm exists, every button has an interrupt, a
pending read has a buffer and a byte comes in only for a pending read, an outstanding run has a key
and a destination of the lengths it needs, and an outstanding text can be typed. -/
structure Guarded (board : Board) : Prop where
  hasDefault : (board.alarms.timer? Alarms.defaultPlace).isSome
  paired : board.buttons.Paired
  buffered : board.console.reading = true → board.console.buffer ≠ []
  awaited : board.console.received.isSome → board.console.reading = true
  keyed : board.macUnit.due.isSome → 1 ≤ board.macUnit.key.length ∧ board.macUnit.key.length ≤ 64
  fitting : board.macUnit.due.isSome → 32 ≤ board.macUnit.destination.length
  nonempty : ∀ keyboard, board.keyboard = some keyboard →
    keyboard.due.isSome → keyboard.buffer ≠ []
  printable : ∀ keyboard, board.keyboard = some keyboard →
    keyboard.due.isSome → keyboard.buffer.all Keyboard.isPrintable = true

variable {board : Board}

/-- A sound board is guarded. -/
theorem Sound.guarded (sound : board.Sound) : board.Guarded where
  hasDefault := sound.alarms.hasDefault
  paired := sound.buttons.paired.symm
  buffered := sound.console.buffered
  awaited := sound.console.awaited
  keyed := sound.macUnit.keyed
  fitting := sound.macUnit.fits
  nonempty := fun keyboard present => (sound.keyboard keyboard present).nonempty
  printable := fun keyboard present => (sound.keyboard keyboard present).printable

/-- What a driver touches on a guarded board lies inside. -/
theorem Guarded.fits (guarded : board.Guarded) (source : Source) :
    ∀ span ∈ board.spans source, span.Fits := by
  cases source with
  | alarms => exact board.alarms.fits
  | buttons => exact guarded.paired.fits
  | console =>
    intro span member
    obtain ⟨entry, received, rfl⟩ := List.mem_map.mp member
    have reading := guarded.awaited (by rw [Option.mem_toList.mp received]; rfl)
    exact List.length_pos_iff.mpr (guarded.buffered reading)
  | macUnit =>
    intro span member
    obtain ⟨due, running, rfl⟩ := List.mem_map.mp member
    exact guarded.fitting (by rw [Option.mem_toList.mp running]; rfl)
  | keyboard =>
    unfold spans
    cases board.keyboard with
    | none => intro span member; cases member
    | some keyboard => exact keyboard.fits
  | keyValue => exact board.keyValue.fits

/-- A driver that touches nothing outside completes its operation. -/
theorem exists_service (source : Source) (fits : ∀ span ∈ board.spans source, span.Fits) :
    ∃ served, board.service source = .ok served := by
  cases source with
  | alarms => exact ⟨_, rfl⟩
  | buttons =>
    obtain ⟨served, ok⟩ := Buttons.exists_service fits
    exact ⟨_, congrArg (· >>= _) ok⟩
  | console =>
    obtain ⟨served, ok⟩ := Console.exists_service fits
    exact ⟨_, congrArg (· >>= _) ok⟩
  | macUnit =>
    obtain ⟨served, ok⟩ := MacUnit.exists_service fits
    exact ⟨_, congrArg (· >>= _) ok⟩
  | keyboard =>
    unfold service
    cases board.keyboard <;> exact ⟨_, rfl⟩
  | keyValue => exact ⟨_, rfl⟩

/-- A driver that completes an operation changes nothing of its buffer behind what it touches. -/
theorem drop_filled_service {source : Source} {served : Board}
    (ok : board.service source = .ok served) {stop : Nat}
    (behind : ∀ span ∈ board.spans source, span.stop ≤ stop) :
    (served.filled source).drop stop = (board.filled source).drop stop := by
  cases source with
  | alarms | buttons | keyboard => rfl
  | console =>
    obtain ⟨_, accepted, ok⟩ := bind_eq_ok ok
    cases ok
    exact Console.drop_buffer_service accepted behind
  | macUnit =>
    obtain ⟨_, accepted, ok⟩ := bind_eq_ok ok
    cases ok
    exact MacUnit.drop_destination_service accepted behind
  | keyValue =>
    cases ok
    exact board.keyValue.drop_destination_service behind

/-- A board that was guarded is so after any driver has completed an operation. -/
theorem Guarded.served (guarded : board.Guarded) {source : Source} {served : Board}
    (ok : board.service source = .ok served) : served.Guarded := by
  cases source with
  | alarms =>
    cases ok
    exact { guarded with hasDefault := Alarms.hasDefault_service _ guarded.hasDefault }
  | buttons =>
    obtain ⟨⟨after, call⟩, accepted, ok⟩ := bind_eq_ok ok
    cases ok
    exact { guarded with paired := guarded.paired.service accepted }
  | console =>
    obtain ⟨⟨after, call⟩, accepted, ok⟩ := bind_eq_ok ok
    cases ok
    unfold Console.service at accepted
    split at accepted
    next => cases accepted; exact { guarded with }
    next =>
      split at accepted <;> cases accepted
      exact { guarded with
        buffered := fun reading => absurd reading Bool.false_ne_true
        awaited := fun received => absurd received Bool.false_ne_true }
  | macUnit =>
    obtain ⟨⟨after, call⟩, accepted, ok⟩ := bind_eq_ok ok
    cases ok
    have idle := MacUnit.service_due accepted
    exact { guarded with
      keyed := by simp [record, idle]
      fitting := by simp [record, idle] }
  | keyboard =>
    cases present : board.keyboard with
    | none =>
      simp only [service, present] at ok
      cases ok
      exact guarded
    | some keyboard =>
      simp only [service, present] at ok
      cases ok
      have idle := keyboard.service_due
      exact { guarded with
        nonempty := by rintro _ ⟨rfl⟩; simp [idle]
        printable := by rintro _ ⟨rfl⟩; simp [idle] }
  | keyValue => cases ok; exact { guarded with }

/-- On a guarded board every service routine completes, keeps the guard and leaves alone what lies
behind its spans. -/
theorem Guarded.service (guarded : board.Guarded) (source : Source) :
    ∃ served, board.service source = .ok served ∧ served.Guarded ∧
      ∀ stop, (∀ span ∈ board.spans source, span.stop ≤ stop) →
        (served.filled source).drop stop = (board.filled source).drop stop := by
  obtain ⟨served, ok⟩ := exists_service source (guarded.fits source)
  exact ⟨served, ok, guarded.served ok, fun _ => drop_filled_service ok⟩

/-- The clock is not what the guard depends on. -/
theorem Guarded.advanceTo (guarded : board.Guarded) (tick : Nat) : (board.advanceTo tick).Guarded :=
  { guarded with }

/-- A yield of a sound board whose supply does not fail never stops it. -/
theorem Sound.yield_ne_stopped (sound : board.Sound) (supplied : board.charge ≠ some 0)
    (trap : Trap) : board.yield.1 ≠ .stopped trap := by
  rcases sound.yield supplied with ⟨job, after, serviced, _⟩ | ⟨idle, _⟩
  · rw [serviced]
    exact Yielded.noConfusion
  · rw [idle]
    exact Yielded.noConfusion

/-- Whatever commands and yields a board is given, its guard holds after them, and inside the next
yield as well: after the look for a stimulus, at whatever tick a driver is served, and after that.
No driver ever touches anything outside its tables and buffers, every service routine completes and
changes no byte of its buffer behind what it touches, and no yield stops the board. -/
theorem run_guarded (store : Store) (input : Bytes) (buttons : Nat) (hasKeyboard : Bool)
    (events : List Event) :
    let board := ((Course.initial store input buttons hasKeyboard).run events).board
    board.Guarded ∧ (∀ trap, board.yield.1 ≠ .stopped trap) ∧
      ∀ moment ∈ [board, board.stimulated], ∀ tick source,
        (moment.advanceTo tick).Guarded ∧
        (∀ span ∈ (moment.advanceTo tick).spans source, span.Fits) ∧
        ∃ served, (moment.advanceTo tick).service source = .ok served ∧ served.Guarded ∧
          ∀ stop, (∀ span ∈ (moment.advanceTo tick).spans source, span.stop ≤ stop) →
            (served.filled source).drop stop = (moment.filled source).drop stop := by
  intro board
  have lawful := (Course.Lawful.initial store input buttons hasKeyboard).run events
  have endless : board.charge = none := lawful.supplied
  have supplied : board.charge ≠ some 0 := by simp [endless]
  refine ⟨lawful.sound.guarded, lawful.sound.yield_ne_stopped supplied, ?_⟩
  intro moment either tick source
  have guarded : (moment.advanceTo tick).Guarded := by
    rcases List.mem_pair.mp either with rfl | rfl
    · exact lawful.sound.guarded.advanceTo tick
    · exact lawful.sound.stimulated.guarded.advanceTo tick
  exact ⟨guarded, guarded.fits source, guarded.service source⟩

end Board

end OtpToken
