import OtpToken.Proofs.Blocking.Delay
import OtpToken.Proofs.Blocking.Input
import OtpToken.Proofs.Blocking.KeyedHash
import OtpToken.Proofs.Blocking.Roaming

/-!
# Taking drivers back

A blocking call registers with one driver and takes it back whichever way it returns: then nobody
hears of the driver, its buffers are empty and it has nothing to do. On every other channel the
board only goes on with what was outstanding at the call (`calls_give_back`). The driver itself is
taken to have nothing outstanding when the call is made; the others may be at anything.
-/

namespace OtpToken

open Act Board

/-- The channel that a task is heard of on. -/
def Task.channel : Task → Channel Nat
  | .ring place => .alarm place
  | .turn _ _ => .buttons
  | .receive => .console
  | .digest => .macUnit
  | .typing => .keyboard
  | .access _ => .keyValue

/-- The driver that a channel belongs to. -/
def Channel.source : Channel Nat → Source
  | .alarm _ => .alarms
  | .buttons => .buttons
  | .console => .console
  | .macUnit => .macUnit
  | .keyboard => .keyboard
  | .keyValue => .keyValue

/-- Every driver but the alarms has one channel. -/
theorem Channel.source_ne {task : Task} (single : task.source ≠ .alarms) {channel : Channel Nat}
    (apart : channel ≠ task.channel) : channel.source ≠ task.source := by
  cases task <;> cases channel <;>
    first | exact absurd rfl apart | exact absurd rfl single | simp [source, Task.source]

/-- A keyed-hash unit that nothing is registered with, and that is not at work. -/
structure MacUnit.IsReleased (unit : MacUnit) : Prop where
  subscriber : unit.subscriber = none
  key : unit.key = []
  data : unit.data = []
  destination : unit.destination = []
  due : unit.due = none

/-- A keyed-hash unit that has been given back shows no key. -/
theorem MacUnit.IsReleased.isExposed {unit : MacUnit} (released : unit.IsReleased) :
    unit.isExposed = false := by
  simp [MacUnit.isExposed, released.subscriber, released.key, released.data, released.destination]

/-- A key-value unit that nothing is registered with, and that is not at work. -/
structure KeyValue.IsReleased (unit : KeyValue) : Prop where
  subscriber : unit.subscriber = none
  key : unit.key = []
  value : unit.value = []
  destination : unit.destination = []
  pending : unit.pending = none

/-- A keyboard that nothing is registered with, and that is not at work. -/
structure Keyboard.IsReleased (keyboard : Keyboard) : Prop where
  subscriber : keyboard.subscriber = none
  buffer : keyboard.buffer = []
  due : keyboard.due = none

/-- A console that nothing is registered with, and where no read is pending. -/
structure Console.IsReleased (console : Console) : Prop where
  subscriber : console.subscriber = none
  buffer : console.buffer = []
  reading : console.reading = false
  received : console.received = none

namespace Board

variable {board begun mid done after : Board} {channel : Channel Nat} {job : Job}
  {served : List Job}

/-- Nothing is the matter on a channel: nobody hears on it and nothing is outstanding or shared. -/
def IsReleased (board : Board) : Channel Nat → Prop
  | .alarm place => board.alarms.timer? place = some .disarmed
  | .buttons => board.buttons.subscriber = none ∧ board.buttons.queue = []
  | .console => board.console.IsReleased
  | .macUnit => board.macUnit.IsReleased
  | .keyboard => ∀ keyboard, board.keyboard = some keyboard → keyboard.IsReleased
  | .keyValue => board.keyValue.IsReleased

/-- What a channel belongs to is as it was. -/
def SameOn (board after : Board) : Channel Nat → Prop
  | .alarm place => after.alarms.timer? place = board.alarms.timer? place
  | .buttons => after.buttons = board.buttons
  | .console => after.console = board.console
  | .macUnit => after.macUnit = board.macUnit
  | .keyboard => after.keyboard = board.keyboard
  | .keyValue => after.keyValue = board.keyValue

/-- Where a driver is as it was, so are its channels. -/
theorem SameAt.sameOn (same : board.SameAt after channel.source) : board.SameOn after channel := by
  cases channel with
  | alarm place => exact congrArg (fun alarms => Alarms.timer? alarms place) same
  | buttons | console | macUnit | keyboard | keyValue => exact same

/-- A channel that is as it was twice over is as it was at first. -/
theorem SameOn.trans (first : board.SameOn mid channel) (second : mid.SameOn after channel) :
    board.SameOn after channel := by
  cases channel <;> exact Eq.trans second first

/-- Where a channel is as it was, the same subscriber hears of its tasks. -/
theorem SameOn.hearer? {task : Task} (same : board.SameOn after task.channel) :
    after.hearer? task = board.hearer? task := by
  cases task with
  | ring place => exact congrArg (fun timer => Option.bind timer Timer.subscriber) same
  | turn _ _ => exact congrArg Buttons.subscriber same
  | receive => exact congrArg Console.subscriber same
  | digest => exact congrArg MacUnit.subscriber same
  | typing => exact congrArg (fun keyboard => Option.bind keyboard Keyboard.subscriber) same
  | access _ => exact congrArg KeyValue.subscriber same

/-- On a channel of which nothing is served nothing changes. -/
theorem Runs.sameOn (runs : Runs board served after)
    (apart : ∀ job ∈ served, job.task.channel ≠ channel) : board.SameOn after channel := by
  cases channel with
  | alarm place => exact runs.timer?_eq fun job member own => apart job member (congrArg _ own)
  | buttons | console | macUnit | keyboard | keyValue =>
    refine SameAt.sameOn (runs.sameAt _ fun job member own => apart job member ?_)
    cases task : job.task <;> rw [task] at own <;> first | rfl | cases own

/-- What a call on a channel does to the rest of the board, while `served` is served. -/
structure Confined (board : Board) (channel : Channel Nat) (served : List Job) (after : Board) :
    Prop where
  /-- Only what was outstanding at the call is served. -/
  outstanding : ∀ job ∈ served, job ∈ board.jobs
  /-- On any other channel it is these services that change anything. -/
  course : ∃ begun mid, (∀ other, other ≠ channel → board.SameOn begun other) ∧
    Runs begun served mid ∧ ∀ other, other ≠ channel → mid.SameOn after other
  unserved : ∀ other, other ≠ channel → (∀ job ∈ served, job.task.channel ≠ other) →
    board.SameOn after other
  hearer? : ∀ task, task.channel ≠ channel → after.hearer? task = board.hearer? task
  lights : after.lights = board.lights

/-- A call that begins and ends on its own channel, and serves what was outstanding in between, is
confined to it. -/
theorem Confined.of_course (outstanding : ∀ job ∈ served, job ∈ board.jobs)
    (begins : ∀ other, other ≠ channel → board.SameOn begun other)
    (runs : Runs begun served mid) (ends : ∀ other, other ≠ channel → mid.SameOn after other)
    (lit : begun.lights = board.lights) (left : after.lights = mid.lights) :
    board.Confined channel served after where
  outstanding := outstanding
  course := ⟨begun, mid, begins, runs, ends⟩
  unserved := fun other apart unserved =>
    ((begins other apart).trans (runs.sameOn unserved)).trans (ends other apart)
  hearer? := fun task apart => (ends _ apart).hearer?.trans
    ((runs.abides.hearer? task).trans (begins _ apart).hearer?)
  lights := left.trans (runs.abides.lights.trans lit)

/-- A call that is refused serves nothing. -/
theorem Confined.of_still (same : ∀ other, other ≠ channel → board.SameOn after other)
    (lights : after.lights = board.lights) : board.Confined channel [] after :=
  .of_course (by simp) same .nil (fun other _ => by cases other <;> rfl) lights rfl

/-- What is outstanding when a driver has been told of a job was outstanding before, but for that
job. -/
theorem Begun.mem_jobs (begins : board.Begun begun job) {other : Job} (member : other ∈ begun.jobs)
    (different : other ≠ job) : other ∈ board.jobs := by
  have inside := mem_jobsOf_source member
  by_cases own : other.task.source = job.task.source
  · rw [own, begins.only] at inside
    exact absurd (List.mem_singleton.mp inside) different
  · rw [(begins.others _ own).jobsOf] at inside
    exact Board.mem_jobs.mpr ⟨_, inside⟩

/-- A call that has waited for a job of its own is confined to its channel. -/
theorem Begun.confined (begins : board.Begun begun job) (single : job.task.source ≠ .alarms)
    (lit : begun.lights = board.lights) (runs : Runs begun served mid) (absent : job ∉ served)
    (serves : mid.Serves job done)
    (ends : ∀ other, other ≠ job.task.source → done.SameAt after other)
    (left : after.lights = done.lights) : board.Confined job.task.channel served after := by
  refine .of_course ?_ ?_ runs ?_ lit (left.trans serves.abides.lights)
  · rintro other member
    refine begins.mem_jobs (runs.mem_jobs member) ?_
    rintro rfl
    exact absent member
  · exact fun other apart => (begins.others _ (Channel.source_ne single apart)).sameOn
  · intro other apart
    have elsewhere := Channel.source_ne single apart
    exact ((serves.sameAt elsewhere.symm).trans (ends _ elsewhere)).sameOn

/-- A call on a channel has given it back, and has been confined to it. -/
structure GivesBack (board : Board) (channel : Channel Nat) (after : Board) : Prop where
  released : after.IsReleased channel
  confined : ∃ served, board.Confined channel served after

end Board

namespace BoardAct

variable {α : Type} {board : Board}

/-- A call returns, with a value or a fault, and leaves a certain board. -/
inductive Returns (left : Board → Prop) : EStateM.Result Failure Board α → Prop
  | ok {value : α} {after : Board} (holds : left after) : Returns left (.ok value after)
  | fault {fault : Fault} {after : Board} (holds : left after) :
      Returns left (.error (.fault fault) after)

/-- What a call leaves may be told more weakly. -/
theorem Returns.mono {left weaker : Board → Prop} {outcome : EStateM.Result Failure Board α}
    (returns : Returns left outcome) (weaken : ∀ after, left after → weaker after) :
    Returns weaker outcome := by
  cases returns with
  | ok holds => exact .ok (weaken _ holds)
  | fault holds => exact .fault (weaken _ holds)

/-- A call for a digest gives the keyed-hash unit back. -/
theorem returns_computeMac (live : board.Live) (idle : board.macUnit.due = none)
    (key message : Bytes) :
    Returns (board.GivesBack .macUnit) (computeMac key message board) := by
  by_cases unfit : key = [] ∨ MacUnit.maxKeyLength < key.length
  · rw [computeMac_of_unfit idle message unfit]
    refine .fault ⟨⟨rfl, rfl, rfl, rfl, idle⟩, [], .of_still ?_ rfl⟩
    intro other apart
    cases other <;> first | rfl | exact absurd rfl apart
  · rw [not_or, Nat.not_lt] at unfit
    obtain ⟨served, mid, done, begins, runs, absent, serves, _, ran⟩ :=
      computeMac_of_fit live idle message unfit.1 unfit.2
    have drained : done.macUnit.due = none := by rw [serves.of_digest.1]
    rw [ran]
    refine .ok ⟨⟨rfl, rfl, rfl, rfl, drained⟩, served, ?_⟩
    refine begins.confined (by simp [digestJob, Task.source]) rfl runs absent serves ?_ rfl
    intro other apart
    cases other <;> first | rfl | exact absurd rfl apart

/-- An access to the store waits for a job of its own, which is served as it was begun. -/
theorem access_of_registered (live : board.Live) (access : Access) {unit : KeyValue}
    {register : Ticket → BoardAct Unit} (registered : register board.drawTicket.1
      board.drawTicket.2 = .ok () (board.beginAccess access unit)) (keyed : unit.key ≠ []) :
    ∃ served mid done, Runs (board.beginAccess access unit) served mid ∧
      board.accessJob access ∉ served ∧ mid.Serves (board.accessJob access) done ∧
      JobTaken (board.accessJob access) mid.jobs done.jobs ∧
      done.keyValue = (board.beginAccess access unit).keyValue.service.1 ∧
      done.calls = (board.beginAccess access unit).keyValue.service.2.toList ++ mid.calls ∧
      awaitUpcall register board = .ok board.drawTicket.1 done := by
  have begins := live.sound.begun_beginAccess access keyed
  obtain ⟨served, mid, runs, absent, ⟨done, serves, taken, _, awaited⟩ | ⟨spent, _⟩⟩ :=
    begins.awaitTaken live.fresh register (by simp [accessJob, Task.source]) registered
  · have unit : mid.keyValue = (board.beginAccess access unit).keyValue :=
      runs.sameAt_of_only begins.only absent
    obtain ⟨left, heard⟩ := serves.of_access
    rw [unit] at left heard
    exact ⟨served, mid, done, runs, absent, serves, taken, left, heard, awaited⟩
  · rw [runs.charge_eq_none (begins.charge.trans live.supplied)] at spent
    cases spent

/-- Whatever is served while an access is outstanding, the access is confined to its unit. -/
theorem confined_access (live : board.Live) (access : Access) {unit : KeyValue}
    (keyed : unit.key ≠ []) {served : List Job} {mid done : Board}
    (runs : Runs (board.beginAccess access unit) served mid)
    (absent : board.accessJob access ∉ served) (serves : mid.Serves (board.accessJob access) done) :
    board.Confined .keyValue served done.clearKeyValue := by
  have begins := live.sound.begun_beginAccess access keyed
  refine begins.confined (by simp [accessJob, Task.source]) rfl runs absent serves ?_ rfl
  intro other apart
  cases other <;> first | rfl | exact absurd rfl apart

/-- An access to the store gives the key-value unit back. -/
theorem givesBack_access (live : board.Live) (access : Access) {unit : KeyValue}
    {register : Ticket → BoardAct Unit} (registered : register board.drawTicket.1
      board.drawTicket.2 = .ok () (board.beginAccess access unit)) (keyed : unit.key ≠ []) :
    ∃ done arguments earlier, board.GivesBack .keyValue done.clearKeyValue ∧
      done.keyValue.pending = none ∧
      done.calls = ⟨.recorder board.drawTicket.1, arguments⟩ :: earlier ∧
      awaitUpcall register board = .ok board.drawTicket.1 done := by
  obtain ⟨served, mid, done, runs, absent, serves, _, left, heard, awaited⟩ :=
    access_of_registered live access registered keyed
  obtain ⟨first, second, call⟩ :=
    @KeyValue.service_call (board.beginAccess access unit).keyValue rfl
  have idle : done.keyValue.pending = none := by rw [left, KeyValue.service_pending]
  rw [call] at heard
  exact ⟨done, _, mid.calls, ⟨⟨rfl, rfl, rfl, rfl, idle⟩, served,
    confined_access live access keyed runs absent serves⟩, idle, heard, awaited⟩

/-- An access that is refused when it registers is over, and takes the unit back. -/
theorem access_of_refused {register : Ticket → BoardAct Unit} {next : Ticket → BoardAct α}
    {code : ReturnCode} {begun : Board}
    (refused : register board.drawTicket.1 board.drawTicket.2 =
      .error (.fault (.rejected code)) begun) :
    releasing releaseKeyValue (mapFault storageFault (awaitUpcall register) >>= next) board =
      .error (.fault (.storage code)) begun.releaseKeyValue :=
  releasing_of_error (bind_of_error (mapFault_of_fault (awaitCondition_of_refused _ _ refused)))

/-- An empty key is refused. -/
theorem getValue_of_unkeyed (idle : board.keyValue.pending = none) (size : Nat) :
    getValue [] size board =
      .error (.fault (.storage .reserve)) board.drawTicket.2.clearKeyValue := by
  let begun : Board := { board.drawTicket.2 with
    keyValue := { board.keyValue with
      subscriber := some (.recorder board.drawTicket.1)
      key := []
      destination := List.replicate size 0 } }
  have refused : registerGet [] size board.drawTicket.1 board.drawTicket.2 =
      .error (.fault (.rejected .reserve)) begun := by
    simp [registerGet, subscribe, share, command, start, bind, EStateM.bind, Board.subscribe,
      Board.share, Board.start, KeyValue.shareKey, KeyValue.shareDestination, KeyValue.start,
      KeyValue.whenIdle, Board.drawTicket, idle, Except.bind, pure, Except.pure, EStateM.pure,
      begun]
  have released : begun.releaseKeyValue = board.drawTicket.2.clearKeyValue :=
    releaseKeyValue_of_idle idle
  rw [← released]
  exact access_of_refused refused

/-- A value without a key is refused before anything is started. -/
theorem setValue_of_unkeyed (idle : board.keyValue.pending = none) (value : Bytes) :
    setValue [] value board =
      .error (.fault (.storage .reserve)) board.drawTicket.2.clearKeyValue := by
  let begun : Board := { board.drawTicket.2 with
    keyValue := { board.keyValue with
      subscriber := some (.recorder board.drawTicket.1)
      key := []
      value := value } }
  have refused : registerSet [] value board.drawTicket.1 board.drawTicket.2 =
      .error (.fault (.rejected .reserve)) begun := by
    simp [registerSet, subscribe, share, command, start, bind, EStateM.bind, Board.subscribe,
      Board.share, Board.start, KeyValue.shareKey, KeyValue.shareValue, KeyValue.start,
      KeyValue.whenIdle, Board.drawTicket, idle, Except.bind, pure, Except.pure, EStateM.pure,
      begun]
  have released : begun.releaseKeyValue = board.drawTicket.2.clearKeyValue :=
    releaseKeyValue_of_idle idle
  rw [← released]
  exact access_of_refused refused

/-- To clear a key-value unit touches nothing else. -/
theorem confined_clearKeyValue (board : Board) :
    board.Confined .keyValue [] board.drawTicket.2.clearKeyValue := by
  refine .of_still ?_ rfl
  intro other apart
  cases other <;> first | rfl | exact absurd rfl apart

/-- To clear a key-value unit without work gives it back. -/
theorem givesBack_clearKeyValue (idle : board.keyValue.pending = none) :
    board.GivesBack .keyValue board.drawTicket.2.clearKeyValue :=
  ⟨⟨rfl, rfl, rfl, rfl, idle⟩, [], confined_clearKeyValue board⟩

/-- A read of the store gives the key-value unit back. -/
theorem returns_getValue (live : board.Live) (idle : board.keyValue.pending = none) (key : Bytes)
    (size : Nat) : Returns (board.GivesBack .keyValue) (getValue key size board) := by
  by_cases keyed : key = []
  · rw [keyed, getValue_of_unkeyed idle]
    exact .fault (givesBack_clearKeyValue idle)
  · obtain ⟨done, arguments, earlier, givesBack, drained, heard, awaited⟩ :=
      givesBack_access live .get (registerGet_eq idle size keyed) keyed
    rw [getValue_of_awaited awaited drained heard]
    cases arguments.completion with
    | ok length => exact .ok givesBack
    | error code => exact .fault givesBack

/-- A write to the store gives the key-value unit back. -/
theorem returns_setValue (live : board.Live) (idle : board.keyValue.pending = none)
    (key value : Bytes) : Returns (board.GivesBack .keyValue) (setValue key value board) := by
  by_cases keyed : key = []
  · rw [keyed, setValue_of_unkeyed idle]
    exact .fault (givesBack_clearKeyValue idle)
  · obtain ⟨done, arguments, earlier, givesBack, drained, heard, awaited⟩ :=
      givesBack_access live .set (registerSet_eq idle value keyed) keyed
    rw [setValue_of_awaited awaited drained heard]
    cases arguments.completion with
    | ok length => exact .ok givesBack
    | error code => exact .fault givesBack

/-- A read of a character gives the console back. -/
theorem returns_readCharacter (live : board.Live) (unread : board.console.reading = false) :
    Returns (board.GivesBack .console) (readCharacter board) := by
  have received := live.sound.console.received_eq_none unread
  have outstanding : ∀ {served mid}, Starved board served mid →
      ∀ job ∈ served, job ∈ board.jobs := by
    intro served mid starved job member
    obtain ⟨source, inside⟩ := mem_jobs.mp (starved.runs.mem_jobs member)
    refine mem_jobs.mpr ⟨source, ?_⟩
    cases source <;> exact inside
  have begins : ∀ other, other ≠ Channel.console → board.SameOn board.beginRead other := by
    intro other apart
    cases other <;> first | rfl | exact absurd rfl apart
  cases input : board.console.input with
  | nil =>
    obtain ⟨served, mid, starved, ran⟩ := readCharacter_of_nil live unread input
    rw [ran]
    refine .fault ⟨⟨rfl, rfl, rfl, rfl⟩, served,
      .of_course (outstanding starved) begins starved.runs ?_ rfl rfl⟩
    intro other apart
    cases other <;> first | rfl | exact absurd rfl apart
  | cons byte bytes =>
    obtain ⟨served, mid, done, starved, fed, ran⟩ := readCharacter_of_cons live unread input
    rw [ran]
    refine .ok ⟨⟨rfl, rfl, rfl, rfl⟩, served,
      .of_course (outstanding starved) begins starved.runs ?_ rfl fed.lights⟩
    intro other apart
    have elsewhere := @Channel.source_ne .receive (by decide) other apart
    have cleared : done.SameOn done.clearConsole other := by
      cases other <;> first | rfl | exact absurd rfl apart
    exact (fed.others _ elsewhere).sameOn.trans cleared

/-- Without a keyboard no text is typed. -/
theorem typeText_of_unattached (missing : board.keyboard = none) (text : String) :
    typeText text board = .error (.fault (.rejected .noDevice)) board.drawTicket.2 := by
  simp [typeText, releasing, awaitUpcall_eq, BoardAct.drawTicket, subscribe, command, bind,
    EStateM.bind, Board.subscribe, Board.drawTicket, missing, releaseKeyboard, settle, Board.share]

/-- An empty text is refused, and so is one that cannot be typed. -/
theorem typeText_of_unfit {keyboard : Keyboard} (present : board.keyboard = some keyboard)
    (idle : keyboard.due = none) {text : String}
    (unfit : Bytes.ofText text = [] ∨ (Bytes.ofText text).all Keyboard.isPrintable = false) :
    typeText text board = .error
      (.fault (.rejected (if Bytes.ofText text = [] then .reserve else .invalid)))
      (board.drawTicket.2.clearKeyboard keyboard) := by
  have unprintable : Bytes.ofText text ≠ [] →
      ∃ byte ∈ Bytes.ofText text, Keyboard.isPrintable byte = false :=
    fun nonempty => by simpa using unfit.resolve_left nonempty
  by_cases empty : Bytes.ofText text = [] <;> simp [typeText, releasing, awaitUpcall_eq,
    BoardAct.drawTicket, subscribe, share, command, start, bind, EStateM.bind, Board.subscribe,
    Board.share, Board.start, Keyboard.share, Keyboard.send, Board.drawTicket, present, idle,
    empty, unprintable, Except.bind, pure, Except.pure, EStateM.pure, releaseKeyboard, settle]

/-- The typing of a text gives the keyboard back, if there is one. -/
theorem returns_typeText (live : board.Live)
    (idle : ∀ keyboard, board.keyboard = some keyboard → keyboard.due = none) (text : String) :
    Returns (fun after => board.GivesBack .keyboard after ∧
      after.keyboard.isSome = board.keyboard.isSome) (typeText text board) := by
  cases present : board.keyboard with
  | none =>
    rw [typeText_of_unattached present]
    refine .fault ⟨⟨fun keyboard here => ?_, [], .of_still (fun other _ => ?_) rfl⟩, ?_⟩
    · exact absurd (here.symm.trans present) (by simp)
    · cases other <;> rfl
    · exact congrArg Option.isSome present
  | some keyboard =>
    have idle := idle keyboard present
    by_cases unfit :
        Bytes.ofText text = [] ∨ (Bytes.ofText text).all Keyboard.isPrintable = false
    · rw [typeText_of_unfit present idle unfit]
      refine .fault ⟨⟨?_, [], .of_still (fun other apart => ?_) rfl⟩, rfl⟩
      · rintro _ ⟨rfl⟩
        exact ⟨rfl, rfl, idle⟩
      · cases other <;> first | rfl | exact absurd rfl apart
    · rw [not_or, Bool.not_eq_false] at unfit
      have begins := live.sound.begun_beginTyping keyboard unfit.1 unfit.2
      obtain ⟨served, mid, runs, absent, ⟨done, serves, _, _, awaited⟩ | ⟨spent, _⟩⟩ :=
        begins.awaitTaken live.fresh (registerText text) (by simp [typingJob, Task.source])
          (registerText_eq present idle unfit.1 unfit.2)
      · have unit : mid.keyboard = (board.beginTyping keyboard (Bytes.ofText text)).keyboard :=
          runs.sameAt_of_only begins.only absent
        rw [typeText_of_awaited unit serves awaited]
        refine .ok ⟨⟨?_, served, ?_⟩, rfl⟩
        · rintro _ ⟨rfl⟩
          exact ⟨rfl, rfl, rfl⟩
        · refine begins.confined (by simp [typingJob, Task.source]) rfl runs absent serves ?_ rfl
          intro other apart
          cases other <;> first | rfl | exact absurd rfl apart
      · rw [runs.charge_eq_none (begins.charge.trans live.supplied)] at spent
        cases spent

/-- A delay that is too long for an alarm is refused at once. -/
theorem delay_of_unfit (board : Board) {milliseconds : Nat} {fault : Fault}
    (unfit : ticksFor tickFrequency milliseconds = .error fault) :
    delay milliseconds board = .error (.fault fault) board := by
  have refused : (Act.ofExcept (ticksFor tickFrequency milliseconds) : BoardAct Nat) board =
      .error (.fault fault) board := by
    rw [unfit]
    rfl
  exact bind_of_error refused

/-- A delay gives the default alarm back. -/
theorem returns_delay (live : board.Live) {milliseconds ticks : Nat}
    (whole : ticksFor tickFrequency milliseconds = .ok ticks) :
    Returns (board.GivesBack (.alarm Alarms.defaultPlace)) (delay milliseconds board) := by
  obtain ⟨served, mid, done, quiet, delayed, found, unarmed, ran⟩ := delay_of_live live whole
  have bound := Alarms.lt_length_of_timer? found
  rw [ran]
  refine .ok ⟨?_, served, .of_course ?_ ?_ delayed.runs ?_ rfl delayed.serves.abides.lights⟩
  · simp [IsReleased, Alarms.timer?_setTimer, bound, unarmed, Timer.disarmed]
  · intro job member
    refine (mem_jobs_setTimer ?_).mp (delayed.runs.mem_jobs member)
    intro own
    have same := live.sound.eq_delayJob (delayed.runs.mem_jobs member) own
    rw [same] at member
    exact delayed.absent member
  · intro other apart
    cases other with
    | alarm place =>
      have different : Alarms.defaultPlace ≠ place := fun same => apart (by rw [same])
      exact (live.sound.timer?_beginDelay ticks place).trans (if_neg different)
    | buttons | console | macUnit | keyboard | keyValue => rfl
  · intro other apart
    cases other with
    | alarm place =>
      have different : Alarms.defaultPlace ≠ place := fun same => apart (by rw [same])
      have unfired : (board.delayJob ticks).task ≠ .ring place := by
        simpa [delayJob] using different
      have served := delayed.serves.timer?_eq unfired
      simpa [SameOn, Alarms.timer?_setTimer, different] using served
    | buttons | console | macUnit | keyboard | keyValue =>
      exact (delayed.sameAt quiet (by simp [Channel.source])).sameOn

/-- From every reachable board on which a driver has nothing outstanding, each call at that driver
returns, gives the driver back and is confined to it, whatever its arguments are and however it
ends. A delay may find the default alarm armed, and touches nothing if it is too long for an
alarm. -/
theorem calls_give_back (reachable : board.Reachable) :
    (board.macUnit.due = none → ∀ key message,
      Returns (fun after => board.GivesBack .macUnit after ∧ after.macUnit.isExposed = false)
        (computeMac key message board)) ∧
    (board.keyValue.pending = none → ∀ key size,
      Returns (board.GivesBack .keyValue) (getValue key size board)) ∧
    (board.keyValue.pending = none → ∀ key value,
      Returns (board.GivesBack .keyValue) (setValue key value board)) ∧
    (board.console.reading = false → Returns (board.GivesBack .console) (readCharacter board)) ∧
    ((∀ keyboard, board.keyboard = some keyboard → keyboard.due = none) → ∀ text,
      Returns (fun after => board.GivesBack .keyboard after ∧
        after.keyboard.isSome = board.keyboard.isSome) (typeText text board)) ∧
    ∀ milliseconds, match ticksFor tickFrequency milliseconds with
      | .ok _ => Returns (board.GivesBack (.alarm Alarms.defaultPlace)) (delay milliseconds board)
      | .error fault => delay milliseconds board = .error (.fault fault) board := by
  have live := reachable.live
  refine ⟨fun idle key message => ?_, returns_getValue live, returns_setValue live,
    returns_readCharacter live, returns_typeText live, fun milliseconds => ?_⟩
  · refine (returns_computeMac live idle key message).mono fun after givesBack => ?_
    exact ⟨givesBack, MacUnit.IsReleased.isExposed givesBack.released⟩
  · cases whole : ticksFor tickFrequency milliseconds with
    | ok ticks => exact returns_delay live whole
    | error fault => exact delay_of_unfit board whole

/-- A board where somebody hears on every channel and buffers are shared, two alarms are armed and a
button is about to go down, and the other drivers have nothing to do. -/
def attended : Board :=
  (initial .inMemory [0x70, 0x0a] 1 true).obeyAll [
    .subscribe (.alarm Alarms.defaultPlace) (some (.listener 1)),
    .armAlarm Alarms.defaultPlace 65,
    .allocateAlarm,
    .subscribe (.alarm 1) (some (.listener 2)),
    .armAlarm 1 30,
    .setInterrupt 0 true,
    .subscribe .buttons (some (.listener 3)),
    .perform (.press 0),
    .subscribe .console (some (.listener 4)),
    .share .character [0],
    .subscribe .macUnit (some (.listener 5)),
    .share .macKey [1],
    .subscribe .keyboard (some (.listener 6)),
    .share .text [0x31],
    .subscribe .keyValue (some (.listener 7)),
    .share .storedKey [2]]

/-- The commands that are given in its definition lead to that board. -/
theorem reachable_attended : attended.Reachable :=
  Reachable.obeyAll (.initial ..) (by simp [Command.subscriber?])

/-- There every call gives back its channel, whether it ends with a value or a fault. -/
theorem calls_give_back_attended :
    attended.jobs = [⟨65, .ring 0⟩, ⟨30, .ring 1⟩, ⟨0, .turn 0 true⟩, ⟨3932, .turn 0 false⟩] ∧
    (∀ key message,
      Returns (fun after => attended.GivesBack .macUnit after ∧ after.macUnit.isExposed = false)
        (computeMac key message attended)) ∧
    (∀ key size, Returns (attended.GivesBack .keyValue) (getValue key size attended)) ∧
    (∀ key value, Returns (attended.GivesBack .keyValue) (setValue key value attended)) ∧
    Returns (attended.GivesBack .console) (readCharacter attended) ∧
    (∀ text, Returns (fun after => attended.GivesBack .keyboard after ∧
      after.keyboard.isSome = attended.keyboard.isSome) (typeText text attended)) ∧
    Returns (attended.GivesBack (.alarm Alarms.defaultPlace)) (delay 1000 attended) := by
  obtain ⟨mac, get, set, read, type, wait⟩ := calls_give_back reachable_attended
  have present : attended.keyboard = some ⟨some (.listener 6), [0x31], none, []⟩ := by decide
  refine ⟨by decide, mac (by decide), get (by decide), set (by decide), read (by decide),
    type ?_, wait 1000⟩
  intro keyboard here
  rw [present] at here
  cases here
  rfl

end BoardAct

end OtpToken
