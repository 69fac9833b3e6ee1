import OtpToken.Proofs.Board.Accepted
import OtpToken.Proofs.Board.Job

/-!
# Sound boards

A driver is sound at a tick if nothing of it is overdue and its outstanding operation
finds the buffers it was started with. A board is sound if all its drivers are sound
at the tick of its clock. Commands keep a board sound, whether they are accepted or
refused (`Obeys.sound`), and so does the completion of the operation that is due first
(`Sound.complete`), which therefore never stops the board.
-/

namespace OtpToken

namespace Alarms

/-- Only the timer at the place that is set changes, and only if there is such a place. -/
theorem timer?_setTimer (alarms : Alarms) (place other : Nat) (timer : Option Timer) :
    (alarms.setTimer place timer).timer? other =
      if place = other ∧ place < alarms.places.length then timer else alarms.timer? other := by
  simp only [timer?, setTimer, List.getElem?_set]
  by_cases same : place = other
  · subst same
    by_cases bound : place < alarms.places.length
    · simp [bound]
    · simp [bound]
  · simp [same]

/-- The default alarm exists, and no armed alarm is overdue. -/
structure Sound (now : Nat) (alarms : Alarms) : Prop where
  hasDefault : (alarms.timer? defaultPlace).isSome
  punctual : ∀ {place : Nat} {timer : Timer} {due : Nat},
    alarms.timer? place = some timer → timer.expiration = some due → now ≤ due

variable {now : Nat} {alarms : Alarms}

/-- At first there is a default alarm, and none is armed. -/
theorem Sound.initial : (Alarms.initial).Sound 0 where
  hasDefault := rfl
  punctual := fun _ _ => Nat.zero_le _

/-- An alarm may be set differently if that does not make it overdue, but the default alarm has to
stay. -/
theorem Sound.setTimer (sound : alarms.Sound now) {place : Nat} {timer : Option Timer}
    (stays : place = defaultPlace → timer.isSome)
    (later : ∀ due, timer.bind Timer.expiration = some due → now ≤ due) :
    (alarms.setTimer place timer).Sound now where
  hasDefault := by
    rw [timer?_setTimer]
    split
    next same => exact stays same.1
    next => exact sound.hasDefault
  punctual := by
    intro other found due here expires
    rw [timer?_setTimer] at here
    split at here
    next => exact later due (by rw [here]; exact expires)
    next => exact sound.punctual here expires

/-- An alarm after an allocation is the new one, or it was there before. -/
theorem timer?_allocate {place : Nat} {timer : Timer}
    (here : alarms.allocate.2.timer? place = some timer) :
    timer = .disarmed ∨ alarms.timer? place = some timer := by
  unfold Alarms.allocate at here
  dsimp only at here
  split at here
  next =>
    rw [timer?_setTimer] at here
    split at here
    · cases here
      exact .inl rfl
    · exact .inr here
  next =>
    by_cases bound : place < alarms.places.length
    · refine .inr ?_
      rw [← here, timer?, timer?, List.getElem?_append_left bound]
    · rw [timer?, List.getElem?_append_right (Nat.le_of_not_lt bound), Option.join_eq_some_iff] at here
      exact .inl (by simpa using List.mem_of_getElem? here)

/-- An alarm that is allocated is not armed. -/
theorem Sound.allocate (sound : alarms.Sound now) : alarms.allocate.2.Sound now where
  hasDefault := by
    unfold Alarms.allocate
    dsimp only
    split
    next => exact (sound.setTimer (fun _ => rfl) (by simp [Timer.disarmed])).hasDefault
    next =>
      obtain ⟨timer, here⟩ := Option.isSome_iff_exists.mp sound.hasDefault
      rw [timer?, List.getElem?_append_left (lt_length_of_timer? here)]
      exact sound.hasDefault
  punctual := by
    intro place timer due here expires
    rcases timer?_allocate here with rfl | old
    · cases expires
    · exact sound.punctual old expires

/-- An alarm is allocated at the first free place. -/
theorem allocate_fst (alarms : Alarms) : alarms.allocate.1 = alarms.freePlace := by
  unfold Alarms.allocate
  dsimp only
  split <;> rfl

/-- If no place is free, the next one is behind the last. -/
theorem freePlace_of_full (full : ¬alarms.freePlace < alarms.places.length) :
    alarms.freePlace = alarms.places.length :=
  Nat.le_antisymm List.findIdx_le_length (Nat.le_of_not_lt full)

/-- The place that is allocated held no alarm. -/
theorem timer?_freePlace (alarms : Alarms) : alarms.timer? alarms.allocate.1 = none := by
  rw [allocate_fst, timer?]
  by_cases bound : alarms.freePlace < alarms.places.length
  · have free : alarms.places[alarms.freePlace] = none :=
      Option.isNone_iff_eq_none.mp List.findIdx_getElem
    rw [List.getElem?_eq_getElem bound, free]
    rfl
  · rw [List.getElem?_eq_none (Nat.le_of_not_lt bound)]
    rfl

/-- At the place that is handed out there is a disarmed alarm that nobody listens to. -/
theorem timer?_allocate_self (alarms : Alarms) :
    alarms.allocate.2.timer? alarms.allocate.1 = some .disarmed := by
  rw [allocate_fst]
  unfold Alarms.allocate
  dsimp only
  split
  next bound => rw [timer?_setTimer, if_pos ⟨rfl, bound⟩]
  next full =>
    rw [timer?, freePlace_of_full full, List.getElem?_append_right (Nat.le_refl _), Nat.sub_self]
    rfl

/-- All other places stay as they are. -/
theorem timer?_allocate_other (alarms : Alarms) {other : Nat} (apart : other ≠ alarms.allocate.1) :
    alarms.allocate.2.timer? other = alarms.timer? other := by
  rw [allocate_fst] at apart
  unfold Alarms.allocate
  dsimp only
  split
  next bound => rw [timer?_setTimer, if_neg fun same => apart same.1.symm]
  next full =>
    rw [freePlace_of_full full] at apart
    rcases Nat.lt_or_gt_of_ne apart with inside | beyond
    · rw [timer?, timer?, List.getElem?_append_left inside]
    · rw [timer?, timer?, List.getElem?_eq_none (Nat.le_of_lt beyond),
        List.getElem?_eq_none (by rw [List.length_append]; exact beyond)]

/-- A sound table gives out no place that cannot be freed. -/
theorem Sound.freePlace_ne (sound : alarms.Sound now) :
    alarms.allocate.1 ≠ defaultPlace := by
  intro same
  have present := sound.hasDefault
  rw [← same, timer?_freePlace] at present
  cases present

/-- An alarm that fires is disarmed, and the others stay as they are. -/
theorem Sound.service (sound : alarms.Sound now) (tick : Nat) :
    (alarms.service tick).1.Sound now := by
  unfold Alarms.service
  split
  next =>
    split
    next => exact sound.setTimer (fun _ => rfl) (by simp)
    next => exact sound
  next => exact sound

/-- Time may pass until the first alarm expires. -/
theorem Sound.advance (sound : alarms.Sound now) {tick : Nat}
    (first : ∀ due, alarms.deadline = some due → tick ≤ due) : alarms.Sound tick where
  hasDefault := sound.hasDefault
  punctual := by
    intro place timer due here expires
    have member : Job.mk due (.ring place) ∈ alarms.jobs :=
      mem_jobs.mpr ⟨place, rfl, by rw [here]; exact expires⟩
    obtain ⟨earliest, found, le⟩ := due_le_of_mem_jobs member
    exact Nat.le_trans (first earliest found) le

end Alarms

namespace Buttons

/-- The queue is in order of time, no transition is overdue, and there is an interrupt for every
button. -/
structure Sound (now : Nat) (buttons : Buttons) : Prop where
  ordered : buttons.queue.Pairwise (·.due ≤ ·.due)
  punctual : ∀ transition ∈ buttons.queue, now ≤ transition.due
  paired : buttons.interrupts.size = buttons.pressed.size

variable {now : Nat} {buttons : Buttons}

/-- At first no transition is queued. -/
theorem Sound.initial (count : Nat) : (Buttons.initial count).Sound 0 where
  ordered := .nil
  punctual := by simp [Buttons.initial]
  paired := rfl

/-- The queue has the transition that is queued and those that it had. -/
theorem mem_schedule {transition other : Transition} {queue : List Transition} :
    other ∈ schedule transition queue ↔ other = transition ∨ other ∈ queue := by
  induction queue with
  | nil => simp [schedule]
  | cons first rest ih =>
    unfold schedule
    split
    next => simp
    next => simp [ih, or_left_comm]

/-- A queue stays in order of time when a transition joins it. -/
theorem ordered_schedule {transition : Transition} {queue : List Transition}
    (ordered : queue.Pairwise (·.due ≤ ·.due)) :
    (schedule transition queue).Pairwise (·.due ≤ ·.due) := by
  induction queue with
  | nil => simp [schedule]
  | cons first rest ih =>
    obtain ⟨least, ordered⟩ := List.pairwise_cons.mp ordered
    unfold schedule
    split
    next earlier =>
      refine List.pairwise_cons.mpr ⟨?_, List.pairwise_cons.mpr ⟨least, ordered⟩⟩
      intro other member
      rcases List.mem_cons.mp member with rfl | member
      · exact Nat.le_of_lt earlier
      · exact Nat.le_trans (Nat.le_of_lt earlier) (least other member)
    next later =>
      refine List.pairwise_cons.mpr ⟨?_, ih ordered⟩
      intro other member
      rcases mem_schedule.mp member with rfl | member
      · exact Nat.le_of_not_lt later
      · exact least other member

/-- A gesture brings transitions that are not overdue. -/
theorem Sound.perform (sound : buttons.Sound now) (gesture : Gesture) :
    (buttons.perform now gesture).Sound now where
  ordered := ordered_schedule (ordered_schedule sound.ordered)
  punctual := by
    intro transition member
    simp only [Buttons.perform, mem_schedule] at member
    rcases member with rfl | rfl | member
    · exact Nat.le_add_right _ _
    · exact Nat.le_refl _
    · exact sound.punctual transition member
  paired := sound.paired

/-- Interrupts do not matter to the queue. -/
theorem Sound.enableAll (sound : buttons.Sound now) : buttons.enableAll.Sound now :=
  ⟨sound.ordered, sound.punctual, sound.paired⟩

/-- Time may pass until the first transition is due. -/
theorem Sound.advance (sound : buttons.Sound now) {tick : Nat}
    (first : ∀ due, buttons.deadline = some due → tick ≤ due) : buttons.Sound tick where
  ordered := sound.ordered
  punctual := by
    intro transition member
    cases queued : buttons.queue with
    | nil => simp [queued] at member
    | cons head rest =>
      have early : tick ≤ head.due := first head.due (by simp [deadline, queued])
      have ordered := sound.ordered
      rw [queued] at ordered member
      rcases List.mem_cons.mp member with rfl | member
      · exact early
      · exact Nat.le_trans early ((List.pairwise_cons.mp ordered).1 transition member)
  paired := sound.paired

/-- What a transition does: the button changes, and the subscriber hears of it if there is such a
button and its interrupt is enabled. -/
theorem Sound.service (sound : buttons.Sound now) {due button : Nat} {pressed : Bool}
    {rest : List Transition} (queued : buttons.queue = ⟨due, button, pressed⟩ :: rest) :
    buttons.service = .ok
      ({ buttons with
          pressed := (buttons.pressed.set? button pressed).getD buttons.pressed
          queue := rest },
        if buttons.interrupts.get? button = some true then
          Subscriber.call? buttons.subscriber button pressed.toNat
        else none) := by
  unfold Buttons.service
  rw [queued]
  dsimp only
  cases set : buttons.pressed.set? button pressed with
  | none =>
    have beyond := Row.set?_eq_none_iff.mp set
    have unheard : buttons.interrupts.get? button = none :=
      Row.get?_eq_none_iff.mpr (by rw [sound.paired]; exact beyond)
    simp [unheard]
  | some after =>
    cases enabled : buttons.interrupts.get? button with
    | none =>
      have beyond := Row.get?_eq_none_iff.mp enabled
      rw [sound.paired] at beyond
      simp [Row.set?_eq_none_iff.mpr beyond] at set
    | some on => cases on <;> simp

/-- The transition that is due first may be taken out of the queue. -/
theorem Sound.served (sound : buttons.Sound now) {due button : Nat} {pressed : Bool}
    {rest : List Transition} (queued : buttons.queue = ⟨due, button, pressed⟩ :: rest) :
    Sound now { buttons with
      pressed := (buttons.pressed.set? button pressed).getD buttons.pressed
      queue := rest } where
  ordered := by
    have ordered := sound.ordered
    rw [queued] at ordered
    exact (List.pairwise_cons.mp ordered).2
  punctual := fun transition member =>
    sound.punctual transition (by rw [queued]; exact List.mem_cons_of_mem _ member)
  paired := by
    cases set : buttons.pressed.set? button pressed with
    | none => exact sound.paired
    | some after => exact sound.paired.trans (Row.size_set? set).symm

end Buttons

namespace Console

/-- A pending read has a buffer to read into, and a byte comes in only for a pending read and is not
overdue. -/
structure Sound (now : Nat) (console : Console) : Prop where
  buffered : console.reading = true → console.buffer ≠ []
  awaited : console.received.isSome → console.reading = true
  punctual : ∀ {due : Nat} {byte : UInt8}, console.received = some (due, byte) → now ≤ due

variable {now : Nat} {console : Console}

/-- A console without a pending read is sound. -/
theorem Sound.of_idle (unread : console.reading = false) (idle : console.received = none) :
    console.Sound now :=
  ⟨by simp [unread], by simp [idle], by simp [idle]⟩

/-- Without a pending read no byte has come in. -/
theorem Sound.received_eq_none (sound : console.Sound now) (unread : console.reading = false) :
    console.received = none := by
  refine Option.eq_none_iff_forall_ne_some.mpr fun entry received => ?_
  have pending := sound.awaited (by rw [received]; rfl)
  rw [unread] at pending
  cases pending

/-- At first no read is pending. -/
theorem Sound.initial (input : Bytes) : (Console.initial input).Sound 0 := .of_idle rfl rfl

/-- Printing leaves a pending read as it is. -/
theorem Sound.print (sound : console.Sound now) (text : String) : (console.print text).Sound now :=
  ⟨sound.buffered, sound.awaited, sound.punctual⟩

/-- Time may pass until the read completes. -/
theorem Sound.advance (sound : console.Sound now) {tick : Nat}
    (first : ∀ due, console.deadline = some due → tick ≤ due) : console.Sound tick :=
  ⟨sound.buffered, sound.awaited, fun {due byte} h => first due (by simp [deadline, h])⟩

/-- A byte that has come in goes to the front of the buffer. -/
theorem Sound.service (sound : console.Sound now) {due : Nat} {byte : UInt8}
    (received : console.received = some (due, byte)) :
    ∃ served, console.service = .ok (served, Subscriber.call? console.subscriber 0 1) ∧
      served = { console with
        reading := false, received := none, buffer := byte :: console.buffer.drop 1 } ∧
      served.Sound now := by
  have buffered := sound.buffered (sound.awaited (by rw [received]; rfl))
  unfold Console.service
  rw [received]
  cases buffer : console.buffer with
  | nil => exact absurd buffer buffered
  | cons first rest => exact ⟨_, rfl, rfl, by simp, by simp, by simp⟩

end Console

namespace MacUnit

/-- An outstanding run is not overdue, and has a key of acceptable length and a destination that
takes the digest. -/
structure Sound (now : Nat) (unit : MacUnit) : Prop where
  keyed : unit.due.isSome → 1 ≤ unit.key.length ∧ unit.key.length ≤ maxKeyLength
  fits : unit.due.isSome → Sha256.digestSize ≤ unit.destination.length
  punctual : ∀ {due : Nat}, unit.due = some due → now ≤ due

variable {now : Nat} {unit : MacUnit}

/-- A unit with nothing outstanding is sound. -/
theorem Sound.of_idle (idle : unit.due = none) : unit.Sound now :=
  ⟨by simp [idle], by simp [idle], by simp [idle]⟩

/-- Time may pass until the run completes. -/
theorem Sound.advance (sound : unit.Sound now) {tick : Nat}
    (first : ∀ due, unit.due = some due → tick ≤ due) : unit.Sound tick :=
  ⟨sound.keyed, sound.fits, fun {due} h => first due h⟩

/-- A run puts the digest of what is shared to the front of the destination. -/
theorem Sound.service (sound : unit.Sound now) {due : Nat} (running : unit.due = some due) :
    unit.service = .ok ({ unit with
        due := none
        destination :=
          (Hmac.mac unit.key unit.data).val ++ unit.destination.drop Sha256.digestSize },
      Subscriber.call? unit.subscriber 0 Sha256.digestSize) := by
  have fits := sound.fits (by rw [running]; rfl)
  unfold MacUnit.service
  rw [running, if_neg (by simp), if_neg (by omega)]

end MacUnit

namespace Keyboard

/-- An outstanding text is not overdue, not empty and printable. -/
structure Sound (now : Nat) (keyboard : Keyboard) : Prop where
  nonempty : keyboard.due.isSome → keyboard.buffer ≠ []
  printable : keyboard.due.isSome → keyboard.buffer.all isPrintable = true
  punctual : ∀ {due : Nat}, keyboard.due = some due → now ≤ due

variable {now : Nat} {keyboard : Keyboard}

/-- A keyboard with nothing outstanding is sound. -/
theorem Sound.of_idle (idle : keyboard.due = none) : keyboard.Sound now :=
  ⟨by simp [idle], by simp [idle], by simp [idle]⟩

/-- Time may pass until the text is typed. -/
theorem Sound.advance (sound : keyboard.Sound now) {tick : Nat}
    (first : ∀ due, keyboard.due = some due → tick ≤ due) : keyboard.Sound tick :=
  ⟨sound.nonempty, sound.printable, fun {due} h => first due h⟩

end Keyboard

namespace KeyValue

/-- An outstanding access is not overdue, and has a key. -/
structure Sound (now : Nat) (unit : KeyValue) : Prop where
  keyed : unit.pending.isSome → unit.key ≠ []
  punctual : ∀ {due : Nat} {access : Access}, unit.pending = some (due, access) → now ≤ due

variable {now : Nat} {unit : KeyValue}

/-- A unit with nothing outstanding is sound. -/
theorem Sound.of_idle (idle : unit.pending = none) : unit.Sound now :=
  ⟨by simp [idle], by simp [idle]⟩

/-- Time may pass until the access completes. -/
theorem Sound.advance (sound : unit.Sound now) {tick : Nat}
    (first : ∀ due, unit.deadline = some due → tick ≤ due) : unit.Sound tick :=
  ⟨sound.keyed, fun {due access} h => first due (by simp [deadline, h])⟩

end KeyValue

namespace Board

/-- All drivers are sound at the tick of the clock. -/
structure Sound (board : Board) : Prop where
  alarms : board.alarms.Sound board.clock
  buttons : board.buttons.Sound board.clock
  console : board.console.Sound board.clock
  macUnit : board.macUnit.Sound board.clock
  keyboard : ∀ keyboard, board.keyboard = some keyboard → keyboard.Sound board.clock
  keyValue : board.keyValue.Sound board.clock

/-- A board that has just been switched on is sound. -/
theorem Sound.initial (store : Store) (input : Bytes) (buttons : Nat) (hasKeyboard : Bool) :
    (Board.initial store input buttons hasKeyboard).Sound where
  alarms := .initial
  buttons := .initial buttons
  console := .initial input
  macUnit := .of_idle rfl
  keyboard := by
    intro keyboard present
    cases hasKeyboard <;> cases present
    exact .of_idle rfl
  keyValue := .of_idle rfl

variable {board after : Board}

/-- The store is not what the soundness of a board depends on. -/
theorem Sound.setStore (sound : board.Sound) (store : Store) : (board.setStore store).Sound :=
  { sound with keyValue := ⟨sound.keyValue.1, sound.keyValue.2⟩ }

/-- A subscription keeps a board sound. -/
theorem Subscribes.sound {channel : Channel Nat} {subscriber : Option Subscriber}
    (subscribes : board.Subscribes subscriber channel after) (sound : board.Sound) :
    after.Sound := by
  cases subscribes with
  | alarm here =>
    refine { sound with alarms := sound.alarms.setTimer (fun _ => rfl) ?_ }
    intro due expires
    exact sound.alarms.punctual here expires
  | buttons =>
    exact { sound with buttons := ⟨sound.buttons.1, sound.buttons.2, sound.buttons.3⟩ }
  | console =>
    exact { sound with console := ⟨sound.console.1, sound.console.2, sound.console.3⟩ }
  | macUnit =>
    exact { sound with macUnit := ⟨sound.macUnit.1, sound.macUnit.2, sound.macUnit.3⟩ }
  | keyboard present =>
    refine { sound with keyboard := ?_ }
    rintro _ ⟨rfl⟩
    have old := sound.keyboard _ present
    exact ⟨old.1, old.2, old.3⟩
  | keyValue => exact { sound with keyValue := ⟨sound.keyValue.1, sound.keyValue.2⟩ }

/-- An idle driver is sound with any buffer. -/
theorem Shares.sound {buffer : Buffer} {bytes : Bytes} (shares : board.Shares bytes buffer after)
    (sound : board.Sound) : after.Sound := by
  cases shares with
  | character idle =>
    exact { sound with console :=
      ⟨by simp [idle], sound.console.awaited, sound.console.punctual⟩ }
  | text present idle =>
    refine { sound with keyboard := ?_ }
    rintro _ ⟨rfl⟩
    exact .of_idle idle
  | macKey idle | macData idle | macDestination idle =>
    exact { sound with macUnit := .of_idle idle }
  | storedKey idle | storedValue idle | storedDestination idle =>
    exact { sound with keyValue := .of_idle idle }

/-- An operation has the buffers it needs, and is due in time. -/
theorem Undertakes.sound {operation : Operation} (undertakes : board.Undertakes operation after)
    (sound : board.Sound) : after.Sound := by
  cases undertakes with
  | readCharacter _ buffered =>
    exact { sound with console := ⟨fun _ => buffered, fun _ => rfl, sound.console.punctual⟩ }
  | runMac _ keyed short fits =>
    refine { sound with macUnit := ⟨fun _ => ⟨List.length_pos_iff.mpr keyed, short⟩,
      fun _ => fits, ?_⟩ }
    rintro _ ⟨rfl⟩
    exact Nat.le_add_right _ _
  | typeText _ _ nonempty printable =>
    refine { sound with keyboard := ?_ }
    rintro _ ⟨rfl⟩
    refine ⟨fun _ => nonempty, fun _ => printable, ?_⟩
    rintro _ ⟨rfl⟩
    exact Nat.le_add_right _ _
  | getValue _ keyed | setValue _ keyed =>
    refine { sound with keyValue := ⟨fun _ => keyed, ?_⟩ }
    rintro _ _ ⟨rfl⟩
    exact Nat.le_add_right _ _

/-- A command that is accepted leaves a sound board sound. -/
theorem Obeys.sound {command : Command Subscriber Nat} (obeys : board.Obeys command after)
    (sound : board.Sound) : after.Sound := by
  cases obeys with
  | subscribe subscribes => exact subscribes.sound sound
  | share shares => exact shares.sound sound
  | start undertakes => exact undertakes.sound sound
  | abortRead => exact { sound with console := .of_idle rfl rfl }
  | chooseAlgorithm idle => exact { sound with macUnit := .of_idle idle }
  | armAlarm here =>
    refine { sound with alarms := sound.alarms.setTimer (fun _ => rfl) ?_ }
    rintro _ ⟨rfl⟩
    exact Nat.le_add_right _ _
  | cancelAlarm here =>
    exact { sound with alarms := sound.alarms.setTimer (fun _ => rfl) (by simp) }
  | allocateAlarm => exact { sound with alarms := sound.alarms.allocate }
  | freeAlarm apart =>
    exact { sound with
      alarms := sound.alarms.setTimer (fun same => absurd same apart) (by simp) }
  | setInterrupt set =>
    have paired := (Row.size_set? set).trans sound.buttons.paired
    exact { sound with buttons := ⟨sound.buttons.ordered, sound.buttons.punctual, paired⟩ }
  | perform => exact { sound with buttons := sound.buttons.perform _ }
  | setLight => exact { sound with }
  | print => exact { sound with console := sound.console.print _ }
  | putValue | setReadOnly => exact sound.setStore _
  | keepAlarm | readButton | refuseValue | peekValue | ask => exact sound

/-- Commands leave the clock, the upcalls, the tickets and the supply of a board alone. -/
structure Steady (board after : Board) : Prop where
  clock : after.clock = board.clock
  calls : after.calls = board.calls
  tickets : after.tickets = board.tickets
  charge : after.charge = board.charge

/-- A subscription leaves clock, upcalls, tickets and supply alone. -/
theorem Subscribes.steady {channel : Channel Nat} {subscriber : Option Subscriber}
    (subscribes : board.Subscribes subscriber channel after) : board.Steady after := by
  cases subscribes <;> exact ⟨rfl, rfl, rfl, rfl⟩

/-- Sharing a buffer leaves clock, upcalls, tickets and supply alone. -/
theorem Shares.steady {buffer : Buffer} {bytes : Bytes}
    (shares : board.Shares bytes buffer after) : board.Steady after := by
  cases shares <;> exact ⟨rfl, rfl, rfl, rfl⟩

/-- Starting an operation leaves clock, upcalls, tickets and supply alone. -/
theorem Undertakes.steady {operation : Operation}
    (undertakes : board.Undertakes operation after) : board.Steady after := by
  cases undertakes <;> exact ⟨rfl, rfl, rfl, rfl⟩

/-- Every command leaves clock, upcalls, tickets and supply alone. -/
theorem Obeys.steady {command : Command Subscriber Nat} (obeys : board.Obeys command after) :
    board.Steady after := by
  cases obeys with
  | subscribe subscribes => exact subscribes.steady
  | share shares => exact shares.steady
  | start undertakes => exact undertakes.steady
  | _ => exact ⟨rfl, rfl, rfl, rfl⟩

end Board

end OtpToken
