import OtpToken.Proofs.Act
import OtpToken.Proofs.Board.Ready
import OtpToken.Proofs.Bytes

/-!
# What blocking calls do

On a ready board each blocking call ends with the value it is there for.
-/

namespace OtpToken

open Act Board

namespace Board

variable {board mid after begun : Board} {jobs : List Job}

/-- A refused command leaves the board as it is: what holds after an accepted one always holds. -/
theorem settle_cases {α : Type} {answer : Except ReturnCode (α × Board)} {holds : Board → Prop}
    (refused : holds board) (accepted : ∀ value after, answer = .ok (value, after) → holds after) :
    holds (board.settle answer) := by
  unfold settle
  split
  next value after => exact accepted value after rfl
  next => exact refused

/-- A board with the same traces and the same supply. -/
def Alike (board after : Board) : Prop := after.traces = board.traces ∧ after.charge = board.charge

/-- A board that is alike twice is alike. -/
theorem Alike.trans (first : board.Alike mid) (second : mid.Alike after) : board.Alike after :=
  ⟨second.1.trans first.1, second.2.trans first.2⟩

/-- A subscription that is accepted leaves no trace. -/
theorem Subscribes.alike {channel : Channel Nat} {subscriber : Option Subscriber}
    (subscribes : board.Subscribes subscriber channel after) : board.Alike after := by
  refine ⟨?_, subscribes.steady.charge⟩
  cases subscribes with
  | keyboard present => simp [traces, typed?, present, store]
  | alarm | buttons | console | macUnit | keyValue => rfl

/-- A buffer that has been taken leaves no trace. -/
theorem Shares.alike {buffer : Buffer} {bytes : Bytes}
    (shares : board.Shares bytes buffer after) : board.Alike after := by
  refine ⟨?_, shares.steady.charge⟩
  cases shares with
  | text present _ => simp [traces, typed?, present, store]
  | _ => rfl

/-- Sharing a buffer leaves no trace, whether or not it is taken. -/
theorem alike_settle_share (board : Board) (buffer : Buffer) (bytes : Bytes) :
    board.Alike (board.settle (board.share buffer bytes)) :=
  settle_cases ⟨rfl, rfl⟩ fun _ _ h => (shares_of_ok h).alike

/-- Subscribing leaves no trace, whether or not it is accepted. -/
theorem alike_settle_subscribe (board : Board) (channel : Channel Nat)
    (subscriber : Option Subscriber) :
    board.Alike (board.settle (board.subscribe channel subscriber)) :=
  settle_cases ⟨rfl, rfl⟩ fun _ _ h => (subscribes_of_ok h).alike

/-- Releasing the keyed-hash unit leaves no trace. -/
theorem alike_releaseMacUnit (board : Board) : board.Alike board.releaseMacUnit :=
  (((alike_settle_share ..).trans (alike_settle_share ..)).trans (alike_settle_share ..)).trans
    (alike_settle_subscribe ..)

/-- Releasing the key-value unit leaves no trace. -/
theorem alike_releaseKeyValue (board : Board) : board.Alike board.releaseKeyValue :=
  (((alike_settle_share ..).trans (alike_settle_share ..)).trans (alike_settle_share ..)).trans
    (alike_settle_subscribe ..)

/-- Releasing the keyboard leaves no trace. -/
theorem alike_releaseKeyboard (board : Board) : board.Alike board.releaseKeyboard :=
  (alike_settle_share ..).trans (alike_settle_subscribe ..)

/-- The board with its keyed-hash unit taken back. -/
abbrev clearMacUnit (board : Board) : Board :=
  { board with macUnit := { board.macUnit with
    subscriber := none, key := [], data := [], destination := [] } }

/-- An idle keyed-hash unit is taken back as a whole. -/
theorem releaseMacUnit_of_idle (idle : board.macUnit.due = none) :
    board.releaseMacUnit = board.clearMacUnit := by
  simp [releaseMacUnit, settle, share, subscribe, MacUnit.shareData, MacUnit.shareDestination,
    MacUnit.shareKey, MacUnit.whenIdle, idle, bind, Except.bind, pure, Except.pure]

/-- The board with its key-value unit taken back. -/
abbrev clearKeyValue (board : Board) : Board :=
  { board with keyValue := { board.keyValue with
    subscriber := none, key := [], value := [], destination := [] } }

/-- An idle key-value unit is taken back as a whole. -/
theorem releaseKeyValue_of_idle (idle : board.keyValue.pending = none) :
    board.releaseKeyValue = board.clearKeyValue := by
  simp [releaseKeyValue, settle, share, subscribe, KeyValue.shareDestination,
    KeyValue.shareValue, KeyValue.shareKey, KeyValue.whenIdle, idle, bind, Except.bind, pure,
    Except.pure]

/-- The board with a keyboard that has been taken back. -/
abbrev clearKeyboard (board : Board) (keyboard : Keyboard) : Board :=
  { board with keyboard := some { keyboard with subscriber := none, buffer := [] } }

/-- An idle keyboard is taken back as a whole. -/
theorem releaseKeyboard_of_idle {keyboard : Keyboard} (present : board.keyboard = some keyboard)
    (idle : keyboard.due = none) : board.releaseKeyboard = board.clearKeyboard keyboard := by
  simp [releaseKeyboard, settle, share, subscribe, Keyboard.share, present, idle, bind,
    Except.bind, pure, Except.pure]

/-- The board once the keyed-hash unit is at work on a message. -/
def beginMac (board : Board) (key message : Bytes) : Board :=
  { board with
    tickets := board.tickets + 1
    macUnit := {
      subscriber := some (.recorder board.drawTicket.1)
      key := key
      data := message
      destination := List.replicate Sha256.digestSize 0
      chosen := true
      due := some (board.clock + ticksOfMilliseconds MacUnit.milliseconds)
      runs := board.macUnit.runs + 1 } }

/-- What the keyed-hash unit has to do then. -/
def digestJob (board : Board) : Job :=
  ⟨board.clock + ticksOfMilliseconds MacUnit.milliseconds, .digest⟩

/-- The keyed-hash unit begins with the digest as its only job. -/
theorem Sound.begun_beginMac (sound : board.Sound) {key : Bytes} (message : Bytes)
    (keyed : key ≠ []) (short : key.length ≤ MacUnit.maxKeyLength) :
    board.Begun (board.beginMac key message) board.digestJob := by
  refine ⟨?_, { sound with macUnit := ⟨?_, ?_, ?_⟩ }, rfl, rfl, rfl, rfl, _, rfl, .inr rfl⟩
  · intro other apart
    cases other <;> first | rfl | exact absurd rfl apart
  · exact fun _ => ⟨List.length_pos_iff.mpr keyed, short⟩
  · exact fun _ => Nat.le_of_eq List.length_replicate.symm
  · rintro _ ⟨rfl⟩
    exact Nat.le_add_right _ _

/-- Taken back after its run, the keyed-hash unit lets the program go on. -/
theorem Begun.continues_clearMacUnit (begins : board.Begun begun board.digestJob)
    (ready : board.Ready) (runs : Runs begun jobs mid) (serves : mid.Serves board.digestJob after)
    (sound : after.Sound) (idle : after.macUnit.due = none) :
    board.Continues after.clearMacUnit := by
  refine begins.continues ready runs serves (by simp [digestJob, Task.source])
    { sound with macUnit := .of_idle idle } ?_ rfl rfl ?_ ?_
  · intro other apart
    cases other <;> first | rfl | exact absurd rfl apart
  · simp [digestJob, jobsOf, MacUnit.jobs, Task.source, idle]
  · intro task own
    cases task <;> first | rfl | cases own

/-- The board once an access to the store is under way in a key-value unit. -/
def beginAccess (board : Board) (access : Access) (unit : KeyValue) : Board :=
  { board with
    tickets := board.tickets + 1
    keyValue := { unit with
      subscriber := some (.recorder board.drawTicket.1)
      pending := some (board.clock + ticksOfMilliseconds access.milliseconds, access) } }

/-- What the key-value unit has to do then. -/
def accessJob (board : Board) (access : Access) : Job :=
  ⟨board.clock + ticksOfMilliseconds access.milliseconds, .access access⟩

/-- The key-value unit begins with the access as its only job. -/
theorem Sound.begun_beginAccess (sound : board.Sound) (access : Access) {unit : KeyValue}
    (keyed : unit.key ≠ []) :
    board.Begun (board.beginAccess access unit) (board.accessJob access) := by
  refine ⟨?_, { sound with keyValue := ⟨fun _ => keyed, ?_⟩ }, rfl, rfl, rfl, rfl, _, rfl,
    .inr rfl⟩
  · intro other apart
    cases other <;> first | rfl | exact absurd rfl apart
  · rintro _ _ ⟨rfl⟩
    exact Nat.le_add_right _ _

/-- An access to the store is over, and whoever waited for it has heard of it. -/
structure Accessed (board : Board) (access : Access) (unit : KeyValue) (after : Board) : Prop where
  served : after.keyValue = (board.beginAccess access unit).keyValue.service.1
  heard : ∃ earlier,
    after.calls = (board.beginAccess access unit).keyValue.service.2.toList ++ earlier
  console : after.console = board.console
  keyboard : after.keyboard = board.keyboard
  continues : board.Continues after.clearKeyValue

namespace Accessed

variable {access : Access} {unit left : KeyValue} {call : Option Call}

/-- After an access the key-value unit is idle. -/
theorem idle (accessed : board.Accessed access unit after) : after.keyValue.pending = none := by
  rw [accessed.served, KeyValue.service_pending]

/-- What the unit does is what the access leaves. -/
theorem of_service (accessed : board.Accessed access unit after)
    (service : (board.beginAccess access unit).keyValue.service = (left, call)) :
    after.keyValue = left ∧ ∃ earlier, after.calls = call.toList ++ earlier := by
  have served := accessed.served
  have heard := accessed.heard
  rw [service] at served heard
  exact ⟨served, heard⟩

/-- An access leaves a trace in the store only. -/
theorem traces (accessed : board.Accessed access unit after) :
    after.clearKeyValue.traces = { board.traces with store := after.keyValue.store } := by
  simp only [Board.traces, Board.store, typed?, accessed.console, accessed.keyboard]

end Accessed

/-- An access to the store is served, or cut short with the store as it was. -/
theorem Ready.access (ready : board.Ready) (access : Access) {unit : KeyValue}
    {register : Ticket → BoardAct Unit} (registered : register board.drawTicket.1
      board.drawTicket.2 = .ok () (board.beginAccess access unit)) (keyed : unit.key ≠ [])
    (stored : unit.store = board.store) :
    (∃ after, board.Accessed access unit after ∧
      BoardAct.awaitUpcall register board = .ok board.drawTicket.1 after) ∨
    ∃ mid, BoardAct.awaitUpcall register board = .error (.trap .powerLoss) mid ∧
      ∀ {α : Type} (traces : Traces) (outcome : Except Fault α),
        board.Ends traces outcome (.error (.trap .powerLoss) mid.releaseKeyValue) := by
  have begins := ready.sound.begun_beginAccess access keyed
  obtain ⟨jobs, mid, runs, same, outcome⟩ :=
    begins.await ready.fresh register (by simp [accessJob, Task.source]) registered
  have unchanged : mid.keyValue = (board.beginAccess access unit).keyValue := same
  rcases outcome with ⟨after, serves, sound, awaited⟩ | ⟨spent, awaited⟩
  · obtain ⟨served, heard⟩ := serves.of_access
    rw [unchanged] at served heard
    have idle : after.keyValue.pending = none := by rw [served, KeyValue.service_pending]
    have others := begins.others_sameAt ready runs same serves
    have console : after.console = board.console :=
      others .console (by simp [accessJob, Task.source])
    have keyboard : after.keyboard = board.keyboard :=
      others .keyboard (by simp [accessJob, Task.source])
    refine .inl ⟨after, ⟨served, ⟨_, heard⟩, console, keyboard, ?_⟩, awaited⟩
    refine begins.continues ready runs serves (by simp [accessJob, Task.source])
      { sound with keyValue := .of_idle idle } ?_ rfl rfl ?_ ?_
    · intro other apart
      cases other <;> first | rfl | exact absurd rfl apart
    · simp [accessJob, jobsOf, KeyValue.jobs, Task.source, idle]
    · intro task own
      cases task <;> first | rfl | cases own
  · have untraced : (board.beginAccess access unit).traces = board.traces := by
      simp only [Board.traces, beginAccess, Board.store, stored, typed?]
    exact .inr ⟨mid, awaited, fun _ _ =>
      begins.cut ready runs same (alike_releaseKeyValue mid) spent untraced⟩

/-- The board once the keyboard is at work on a text. -/
def beginTyping (board : Board) (keyboard : Keyboard) (bytes : Bytes) : Board :=
  { board with
    tickets := board.tickets + 1
    keyboard := some { keyboard with
      subscriber := some (.recorder board.drawTicket.1)
      buffer := bytes
      due := some (board.clock + ticksOfMilliseconds (Keyboard.milliseconds * bytes.length)) } }

/-- What the keyboard has to do then. -/
def typingJob (board : Board) (bytes : Bytes) : Job :=
  ⟨board.clock + ticksOfMilliseconds (Keyboard.milliseconds * bytes.length), .typing⟩

/-- The keyboard begins with the text as its only job. -/
theorem Sound.begun_beginTyping (sound : board.Sound) (keyboard : Keyboard) {bytes : Bytes}
    (nonempty : bytes ≠ []) (printable : bytes.all Keyboard.isPrintable = true) :
    board.Begun (board.beginTyping keyboard bytes) (board.typingJob bytes) := by
  refine ⟨?_, { sound with keyboard := ?_ }, rfl, rfl, rfl, rfl, _, rfl, .inr rfl⟩
  · intro other apart
    cases other <;> first | rfl | exact absurd rfl apart
  · rintro _ ⟨rfl⟩
    refine ⟨fun _ => nonempty, fun _ => printable, ?_⟩
    rintro _ ⟨rfl⟩
    exact Nat.le_add_right _ _

/-- Taken back after a text, the keyboard lets the program go on. -/
theorem Begun.continues_clearKeyboard {bytes : Bytes} {keyboard : Keyboard}
    (begins : board.Begun begun (board.typingJob bytes)) (ready : board.Ready)
    (runs : Runs begun jobs mid) (serves : mid.Serves (board.typingJob bytes) after)
    (sound : after.Sound) (idle : keyboard.due = none) :
    board.Continues (after.clearKeyboard keyboard) := by
  refine begins.continues ready runs serves (by simp [typingJob, Task.source])
    { sound with keyboard := ?_ } ?_ rfl rfl ?_ ?_
  · rintro _ ⟨rfl⟩
    exact .of_idle idle
  · intro other apart
    cases other <;> first | rfl | exact absurd rfl apart
  · simp [typingJob, jobsOf, Keyboard.jobs, Task.source, idle]
  · intro task own
    cases task <;> first | rfl | cases own

end Board

namespace BoardAct

variable {board after : Board} {arguments : Arguments} {earlier : History}

/-- A call goes by the upcall that has just run for it. -/
theorem completed_eq {ticket : Ticket} {arguments : Arguments} {rest : History}
    (fault : ReturnCode → Fault) (heard : board.calls = ⟨.recorder ticket, arguments⟩ :: rest) :
    completed ticket fault board =
      match arguments.completion with
      | .ok length => .ok length board
      | .error code => .error (.fault (fault code)) board := by
  have recorded : ticket.recorded board.calls = arguments := by
    simp [Ticket.recorded, heard]
  simp only [completed, look, bind, EStateM.bind, recorded]
  cases arguments.completion <;> rfl

/-- What a run of the keyed-hash unit registers. -/
def registerMac (key message : Bytes) (ticket : Ticket) : BoardAct Unit := do
  subscribe .macUnit (some (.recorder ticket))
  let _ ← share .macKey key
  let _ ← share .macDestination (List.replicate Sha256.digestSize 0)
  let _ ← share .macData message
  command (·.chooseAlgorithm 0)
  start .runMac

/-- On an idle unit a run is registered with its key and its message. -/
theorem registerMac_eq (idle : board.macUnit.due = none) {key : Bytes} (message : Bytes)
    (keyed : key ≠ []) (short : key.length ≤ MacUnit.maxKeyLength) :
    registerMac key message board.drawTicket.1 board.drawTicket.2 =
      .ok () (board.beginMac key message) := by
  simp [registerMac, subscribe, share, command, start, bind, EStateM.bind, Board.subscribe,
    Board.share, Board.start, Board.chooseAlgorithm, MacUnit.shareKey, MacUnit.shareData,
    MacUnit.shareDestination, MacUnit.choose, MacUnit.run, MacUnit.whenIdle, Board.drawTicket,
    idle, keyed, Except.bind, pure, Except.pure, EStateM.pure, Nat.not_lt.mpr short, beginMac]

/-- The digest is what the unit has left in its destination. -/
theorem computeMac_of_awaited {key message : Bytes}
    (awaited : awaitUpcall (registerMac key message) board = .ok board.drawTicket.1 after)
    (idle : after.macUnit.due = none)
    (computed : after.macUnit.destination = (Hmac.mac key message).val)
    (heard : after.calls =
      ⟨.recorder board.drawTicket.1, ⟨0, UInt32.ofNat Sha256.digestSize, 0⟩⟩ :: earlier) :
    computeMac key message board = .ok (Hmac.mac key message) after.clearMacUnit := by
  let emptied : Board := { after with macUnit := { after.macUnit with destination := [] } }
  have shared : share .macDestination [] after = .ok (Hmac.mac key message).val emptied := by
    simp [share, command, Board.share, MacUnit.shareDestination, MacUnit.whenIdle, idle, computed,
      emptied, bind, Except.bind, pure, Except.pure]
  have recorded : emptied.calls = _ := heard
  have told : completed board.drawTicket.1 .rejected emptied = .ok Sha256.digestSize emptied :=
    completed_eq .rejected recorded
  have released : emptied.releaseMacUnit = after.clearMacUnit := releaseMacUnit_of_idle idle
  rw [← released]
  refine releasing_of_ok ((bind_of_ok awaited).trans ?_)
  rw [bind_of_ok shared, bind_of_ok told,
    dif_pos ⟨rfl, Nat.le_of_eq (Hmac.mac key message).property.symm⟩, Block.slice_self]
  rfl

/-- The keyed-hash unit computes the digest of what it is given, and leaves no trace. -/
theorem ends_computeMac (ready : board.Ready) {key : Bytes} (message : Bytes) (keyed : key ≠ [])
    (short : key.length ≤ MacUnit.maxKeyLength) :
    board.Ends board.traces (.ok (Hmac.mac key message)) (computeMac key message board) := by
  have begins := ready.sound.begun_beginMac message keyed short
  obtain ⟨jobs, mid, runs, same, outcome⟩ :=
    begins.await ready.fresh (registerMac key message) (by simp [digestJob, Task.source])
      (registerMac_eq ready.macUnit message keyed short)
  have unit : mid.macUnit = (board.beginMac key message).macUnit := same
  rcases outcome with ⟨after, serves, sound, awaited⟩ | ⟨spent, awaited⟩
  · obtain ⟨served, heard⟩ := serves.of_digest
    rw [unit] at served heard
    have idle : after.macUnit.due = none := by rw [served]
    have computed : after.macUnit.destination = (Hmac.mac key message).val := by
      simp [served, beginMac]
    have others := begins.others_sameAt ready runs same serves
    have traces : after.traces = board.traces :=
      traces_of_sameAt (others .console (by simp [digestJob, Task.source]))
        (others .keyboard (by simp [digestJob, Task.source]))
        (others .keyValue (by simp [digestJob, Task.source]))
    rw [computeMac_of_awaited awaited idle computed heard]
    exact .ok (begins.continues_clearMacUnit ready runs serves sound idle) traces
  · have stopped : computeMac key message board = .error (.trap .powerLoss) mid.releaseMacUnit :=
      releasing_of_error (bind_of_error awaited)
    rw [stopped]
    exact begins.cut ready runs same (alike_releaseMacUnit mid) spent rfl

/-- The board once the keyed-hash unit has refused a key. -/
def refuseMac (board : Board) : Board :=
  { board with
    tickets := board.tickets + 1
    macUnit := { board.macUnit with
      subscriber := none, key := [], data := [], destination := [], chosen := true } }

/-- An idle unit refuses a key that is empty or too long. -/
theorem computeMac_of_unfit (idle : board.macUnit.due = none) {key : Bytes} (message : Bytes)
    (unfit : key = [] ∨ MacUnit.maxKeyLength < key.length) :
    computeMac key message board =
      .error (.fault (.rejected (if key = [] then .reserve else .size))) (refuseMac board) := by
  have long : key ≠ [] → MacUnit.maxKeyLength < key.length := unfit.resolve_left
  by_cases none : key = [] <;> simp [computeMac, releasing, awaitUpcall_eq,
    BoardAct.drawTicket, subscribe, share, command, start, bind, EStateM.bind, Board.subscribe,
    Board.share, Board.start, Board.chooseAlgorithm, MacUnit.shareKey, MacUnit.shareData,
    MacUnit.shareDestination, MacUnit.choose, MacUnit.run, MacUnit.whenIdle, Board.drawTicket,
    idle, none, long, Except.bind, pure, Except.pure, EStateM.pure, releaseMacUnit, settle,
    refuseMac]

/-- A key that is empty or too long is refused, which leaves no trace either. -/
theorem ends_computeMac_refused (ready : board.Ready) {key : Bytes} (message : Bytes)
    (unfit : key = [] ∨ MacUnit.maxKeyLength < key.length) :
    board.Ends board.traces (.error (.rejected (if key = [] then .reserve else .size)))
      (computeMac key message board) := by
  have idle := ready.macUnit
  rw [computeMac_of_unfit idle message unfit]
  refine .fault ⟨⟨{ ready.sound with macUnit := .of_idle idle }, ?_, ?_⟩, rfl, rfl, rfl,
    rfl, Nat.le_succ _, ?_, fun _ => rfl, id⟩ rfl
  · intro task subscriber here
    by_cases own : task = .digest
    · subst own
      cases here
    · have known := ready.fresh task subscriber
        (by cases task <;> first | exact here | contradiction)
      exact known.mono (Nat.le_succ _)
  · intro source notAlarms notButtons
    have none := ready.idle source notAlarms notButtons
    cases source <;> exact none
  · intro job member
    obtain ⟨source, own⟩ := mem_jobs.mp member
    refine mem_jobs.mpr ⟨source, ?_⟩
    cases source <;> exact own

/-- What a read of the store registers. -/
def registerGet (key : Bytes) (size : Nat) (ticket : Ticket) : BoardAct Unit := do
  subscribe .keyValue (some (.recorder ticket))
  let _ ← share .storedKey key
  let _ ← share .storedDestination (List.replicate size 0)
  start .getValue

/-- On an idle unit a read is registered with its key and room for the value. -/
theorem registerGet_eq (idle : board.keyValue.pending = none) {key : Bytes} (size : Nat)
    (keyed : key ≠ []) :
    registerGet key size board.drawTicket.1 board.drawTicket.2 = .ok () (board.beginAccess .get
      { board.keyValue with key := key, destination := List.replicate size 0 }) := by
  simp [registerGet, subscribe, share, command, start, bind, EStateM.bind, Board.subscribe,
    Board.share, Board.start, KeyValue.shareKey, KeyValue.shareDestination, KeyValue.start,
    KeyValue.whenIdle, Board.drawTicket, idle, keyed, Except.bind, pure, Except.pure,
    EStateM.pure, beginAccess]

/-- A read takes as many bytes of its destination as it has been told of. -/
theorem getValue_of_awaited {key : Bytes} {size : Nat}
    (awaited : awaitUpcall (registerGet key size) board = .ok board.drawTicket.1 after)
    (idle : after.keyValue.pending = none)
    (heard : after.calls = ⟨.recorder board.drawTicket.1, arguments⟩ :: earlier) :
    getValue key size board = match arguments.completion with
      | .ok length => .ok (after.keyValue.destination.take length, length) after.clearKeyValue
      | .error code => .error (.fault (.storage code)) after.clearKeyValue := by
  let emptied : Board := { after with keyValue := { after.keyValue with destination := [] } }
  have shared : share .storedDestination [] after = .ok after.keyValue.destination emptied := by
    simp [share, command, Board.share, KeyValue.shareDestination, KeyValue.whenIdle, idle,
      emptied, bind, Except.bind, pure, Except.pure]
  have recorded : emptied.calls = _ := heard
  have told := completed_eq .storage recorded
  have released : emptied.releaseKeyValue = after.clearKeyValue := releaseKeyValue_of_idle idle
  rw [← released]
  cases done : arguments.completion with
  | ok length =>
    rw [done] at told
    exact releasing_of_ok ((bind_of_ok (mapFault_of_ok awaited)).trans
      ((bind_of_ok (mapFault_of_ok shared)).trans ((bind_of_ok told).trans rfl)))
  | error code =>
    rw [done] at told
    exact releasing_of_error ((bind_of_ok (mapFault_of_ok awaited)).trans
      ((bind_of_ok (mapFault_of_ok shared)).trans (bind_of_error told)))

/-- A value that has been found is handed out if the destination takes the whole of it. -/
theorem getValue_of_found {key value : Bytes} {size : Nat} (bound : size < UInt32.size)
    (awaited : awaitUpcall (registerGet key size) board = .ok board.drawTicket.1 after)
    (idle : after.keyValue.pending = none)
    (copied : after.keyValue.destination = KeyValue.copyInto (List.replicate size 0) value)
    (heard : after.calls = ⟨.recorder board.drawTicket.1, ⟨UInt32.ofNat
      (if (List.replicate size (0 : UInt8)).length < value.length then ReturnCode.size.number else 0),
        UInt32.ofNat value.length, 0⟩⟩ :: earlier) :
    getValue key size board =
      if value.length ≤ size then .ok (value, value.length) after.clearKeyValue
      else .error (.fault (.storage .size)) after.clearKeyValue := by
  rw [getValue_of_awaited awaited idle heard, List.length_replicate]
  by_cases fits : value.length ≤ size
  · have length : (UInt32.ofNat value.length).toNat = value.length :=
      UInt32.toNat_ofNat_of_lt (Nat.lt_of_le_of_lt fits bound)
    have told : Arguments.completion ⟨UInt32.ofNat 0, UInt32.ofNat value.length, 0⟩ =
        .ok value.length := congrArg Except.ok length
    have whole : after.keyValue.destination.take value.length = value := by
      rw [copied]
      simp [KeyValue.copyInto, List.take_of_length_le fits]
    rw [if_neg (Nat.not_lt.mpr fits), if_pos fits, told]
    dsimp only
    rw [whole]
  · rw [if_pos (Nat.lt_of_not_le fits), if_neg fits]
    rfl

/-- The store is read, unless there is no value of the key or one that is too long. -/
theorem ends_getValue (ready : board.Ready) {key : Bytes} (size : Nat) (keyed : key ≠ [])
    (bound : size < UInt32.size) :
    board.Ends board.traces
      (match board.store.get? key with
        | some value =>
          if value.length ≤ size then .ok (value, value.length) else .error (.storage .size)
        | none => .error (.storage .noSupport))
      (getValue key size board) := by
  obtain ⟨after, accessed, awaited⟩ | ⟨mid, awaited, cut⟩ :=
    ready.access .get (registerGet_eq ready.keyValue size keyed) keyed rfl
  · cases found : board.store.get? key with
    | none =>
      obtain ⟨served, _, heard⟩ := accessed.of_service (KeyValue.service_get_of_none rfl found)
      have traces := accessed.traces
      rw [served] at traces
      rw [getValue_of_awaited awaited accessed.idle heard]
      exact .fault accessed.continues traces
    | some value =>
      obtain ⟨served, _, heard⟩ := accessed.of_service (KeyValue.service_get_of_some rfl found)
      have traces := accessed.traces
      rw [served] at traces
      have copied : after.keyValue.destination =
          KeyValue.copyInto (List.replicate size 0) value := by rw [served]; rfl
      rw [getValue_of_found bound awaited accessed.idle copied heard]
      dsimp only
      by_cases fits : value.length ≤ size
      · rw [if_pos fits, if_pos fits]
        exact .ok accessed.continues traces
      · rw [if_neg fits, if_neg fits]
        exact .fault accessed.continues traces
  · have stopped : getValue key size board = .error (.trap .powerLoss) mid.releaseKeyValue :=
      releasing_of_error (bind_of_error (mapFault_of_trap awaited))
    rw [stopped]
    exact cut _ _

/-- What a write to the store registers. -/
def registerSet (key value : Bytes) (ticket : Ticket) : BoardAct Unit := do
  subscribe .keyValue (some (.recorder ticket))
  let _ ← share .storedKey key
  let _ ← share .storedValue value
  start .setValue

/-- On an idle unit a write is registered with its key and its value. -/
theorem registerSet_eq (idle : board.keyValue.pending = none) {key : Bytes} (value : Bytes)
    (keyed : key ≠ []) :
    registerSet key value board.drawTicket.1 board.drawTicket.2 = .ok () (board.beginAccess .set
      { board.keyValue with key := key, value := value }) := by
  simp [registerSet, subscribe, share, command, start, bind, EStateM.bind, Board.subscribe,
    Board.share, Board.start, KeyValue.shareKey, KeyValue.shareValue, KeyValue.start,
    KeyValue.whenIdle, Board.drawTicket, idle, keyed, Except.bind, pure, Except.pure,
    EStateM.pure, beginAccess]

/-- A write ends as it has been told. -/
theorem setValue_of_awaited {key value : Bytes}
    (awaited : awaitUpcall (registerSet key value) board = .ok board.drawTicket.1 after)
    (idle : after.keyValue.pending = none)
    (heard : after.calls = ⟨.recorder board.drawTicket.1, arguments⟩ :: earlier) :
    setValue key value board = match arguments.completion with
      | .ok _ => .ok () after.clearKeyValue
      | .error code => .error (.fault (.storage code)) after.clearKeyValue := by
  have told := completed_eq .storage heard
  have released : after.releaseKeyValue = after.clearKeyValue := releaseKeyValue_of_idle idle
  rw [← released]
  cases done : arguments.completion with
  | ok length =>
    rw [done] at told
    exact releasing_of_ok
      ((bind_of_ok (mapFault_of_ok awaited)).trans ((bind_of_ok told).trans rfl))
  | error code =>
    rw [done] at told
    exact releasing_of_error ((bind_of_ok (mapFault_of_ok awaited)).trans (bind_of_error told))

/-- The store is written, if it can be. -/
theorem ends_setValue (ready : board.Ready) {key : Bytes} (value : Bytes) (keyed : key ≠ []) :
    board.Ends
      { board.traces with store := ((board.store.put key value).toOption).getD board.store }
      (match board.store.put key value with
        | .ok _ => .ok ()
        | .error _ => .error (.storage .fail))
      (setValue key value board) := by
  obtain ⟨after, accessed, awaited⟩ | ⟨mid, awaited, cut⟩ :=
    ready.access .set (registerSet_eq ready.keyValue value keyed) keyed rfl
  · have traces := accessed.traces
    cases put : board.store.put key value with
    | error error =>
      obtain ⟨served, _, heard⟩ := accessed.of_service (KeyValue.service_set_of_error rfl put)
      rw [served] at traces
      rw [setValue_of_awaited awaited accessed.idle heard]
      exact .fault accessed.continues traces
    | ok store =>
      obtain ⟨served, _, heard⟩ := accessed.of_service (KeyValue.service_set_of_ok rfl put)
      rw [served] at traces
      rw [setValue_of_awaited awaited accessed.idle heard]
      exact .ok accessed.continues traces
  · have stopped : setValue key value board = .error (.trap .powerLoss) mid.releaseKeyValue :=
      releasing_of_error (bind_of_error (mapFault_of_trap awaited))
    rw [stopped]
    exact cut _ _

/-- What the typing of a text registers. -/
def registerText (text : String) (ticket : Ticket) : BoardAct Unit := do
  subscribe .keyboard (some (.recorder ticket))
  let _ ← share .text (Bytes.ofText text)
  start .typeText

/-- On an idle keyboard a text is registered if it is printable and not empty. -/
theorem registerText_eq {keyboard : Keyboard} (present : board.keyboard = some keyboard)
    (idle : keyboard.due = none) {text : String} (nonempty : Bytes.ofText text ≠ [])
    (printable : (Bytes.ofText text).all Keyboard.isPrintable = true) :
    registerText text board.drawTicket.1 board.drawTicket.2 =
      .ok () (board.beginTyping keyboard (Bytes.ofText text)) := by
  simp [registerText, subscribe, share, command, start, bind, EStateM.bind, Board.subscribe,
    Board.share, Board.start, Keyboard.share, Keyboard.send, Board.drawTicket, present, idle,
    nonempty, printable, Except.bind, pure, Except.pure, EStateM.pure, beginTyping]

/-- A text that the keyboard has typed is remembered, and the keyboard is taken back. -/
theorem typeText_of_awaited {mid : Board} {keyboard : Keyboard} {text : String} {due : Nat}
    (unit : mid.keyboard = (board.beginTyping keyboard (Bytes.ofText text)).keyboard)
    (serves : mid.Serves ⟨due, .typing⟩ after)
    (awaited : awaitUpcall (registerText text) board = .ok board.drawTicket.1 after) :
    typeText text board = .ok () (after.clearKeyboard { keyboard with
      due := none
      typed := Keyboard.remember (Keyboard.textOf (Bytes.ofText text)) keyboard.typed }) := by
  obtain ⟨typing, here, typed, heard⟩ := serves.of_typing
  rw [unit] at here
  cases here
  have told := completed_eq .rejected heard
  have ran : typeText text board = .ok () after.releaseKeyboard :=
    releasing_of_ok ((bind_of_ok awaited).trans ((bind_of_ok told).trans rfl))
  rw [ran, releaseKeyboard_of_idle typed rfl]

/-- A printable text is typed. -/
theorem ends_typeText (ready : board.Ready) {keyboard : Keyboard}
    (present : board.keyboard = some keyboard) {text : String} (nonempty : Bytes.ofText text ≠ [])
    (printable : (Bytes.ofText text).all Keyboard.isPrintable = true) :
    board.Ends
      { board.traces with
        typed? := some (Keyboard.remember (Keyboard.textOf (Bytes.ofText text)) keyboard.typed) }
      (.ok ()) (typeText text board) := by
  have begins := ready.sound.begun_beginTyping keyboard nonempty printable
  obtain ⟨jobs, mid, runs, same, outcome⟩ :=
    begins.await ready.fresh (registerText text) (by simp [typingJob, Task.source])
      (registerText_eq present (ready.keyboard present) nonempty printable)
  have unit : mid.keyboard = (board.beginTyping keyboard (Bytes.ofText text)).keyboard := same
  rcases outcome with ⟨after, serves, sound, awaited⟩ | ⟨spent, awaited⟩
  · have others := begins.others_sameAt ready runs same serves
    have console : after.console = board.console :=
      others .console (by simp [typingJob, Task.source])
    have keyValue : after.keyValue = board.keyValue :=
      others .keyValue (by simp [typingJob, Task.source])
    rw [typeText_of_awaited unit serves awaited]
    refine .ok (begins.continues_clearKeyboard ready runs serves sound rfl) ?_
    simp [traces, Board.store, typed?, console, keyValue]
  · have untraced : (board.beginTyping keyboard (Bytes.ofText text)).traces = board.traces := by
      simp [traces, typed?, beginTyping, present, Board.store]
    have stopped : typeText text board = .error (.trap .powerLoss) mid.releaseKeyboard :=
      releasing_of_error (bind_of_error awaited)
    rw [stopped]
    exact begins.cut ready runs same (alike_releaseKeyboard mid) spent untraced

end BoardAct

end OtpToken
