import OtpToken.Proofs.Board.Precedence
import OtpToken.Proofs.Blocking.Refusal
import OtpToken.Proofs.Storage.Store

/-!
# The store as a map

Reads and writes of the store go through buffers, an upcall and a status, and while a program waits
for one of them other drivers complete what they were told to do. On every reachable board they
read and write a map all the same: a call is declined at once if the unit is at work or the key is
empty, and otherwise it takes its own number of ticks and comes to what the store holds and takes
(`access_map`).
-/

namespace OtpToken

open Act Board

/-- How many ticks an access takes. -/
def Access.ticks : Access → Nat
  | get => 32
  | set => 163

/-- The milliseconds of an access take as many ticks as the access takes. -/
theorem Access.ticks_eq (access : Access) :
    ticksOfMilliseconds access.milliseconds = access.ticks := by
  cases access <;> rfl

namespace Board

variable {board mid done after : Board} {served : List Job}

/-- A call at the key-value unit has been declined: no time has passed, nothing has been served, and
the store and everything else on the board is as it was. -/
structure Declined (board after : Board) : Prop where
  clock : after.clock = board.clock
  calls : after.calls = board.calls
  jobs : after.jobs = board.jobs
  store : after.store = board.store
  confined : board.Confined .keyValue [] after

/-- A call at the key-value unit has waited for an access of its own, which has left a certain
store, and `served` has been served meanwhile. -/
structure Visited (board : Board) (access : Access) (store : Store) (served : List Job)
    (after : Board) : Prop where
  clock : after.clock = board.clock + access.ticks
  input : after.console.input = board.console.input
  keyValue : after.keyValue = .initial store
  precede : served.Perm (board.jobs.filter fun job => job.Precedes (board.accessJob access))
  left : after.jobs = board.jobs.filter fun job => ¬job.Precedes (board.accessJob access)
  confined : board.Confined .keyValue served after

/-- When the store has been visited, no access is pending, and the store is the one that the access
leaves. -/
theorem Visited.over {access : Access} {store : Store}
    (visited : board.Visited access store served after) :
    after.keyValue.pending = none ∧ after.store = store := by
  rw [Board.store, visited.keyValue]
  exact ⟨rfl, rfl⟩

/-- The buffers of the key-value unit are no part of what it has to do. -/
theorem jobs_clearKeyValue (board : Board) : board.clearKeyValue.jobs = board.jobs := by
  refine List.flatMap_congr fun source _ => ?_
  cases source <;> rfl

/-- What a call with an empty key leaves. -/
theorem declined_clearKeyValue (board : Board) :
    board.Declined board.drawTicket.2.clearKeyValue where
  clock := rfl
  calls := rfl
  jobs := jobs_clearKeyValue board.drawTicket.2
  store := rfl
  confined := BoardAct.confined_clearKeyValue board

/-- What a call at a unit that is at work leaves. -/
theorem Reachable.declined_hush (reachable : board.Reachable)
    (busy : board.keyValue.pending.isSome) : board.Declined (board.hush .keyValue) := by
  obtain ⟨⟨due, access⟩, pending⟩ := Option.isSome_iff_exists.mp busy
  have member : (⟨due, .access access⟩ : Job) ∈ board.jobs :=
    mem_jobs.mpr ⟨.keyValue, by simp [jobsOf, KeyValue.jobs, pending]⟩
  have hushed := reachable.hushed member (by simp [Task.source])
  exact ⟨hushed.clock, hushed.calls, hushed.jobs, rfl, .of_still hushed.others hushed.lights⟩

/-- Once its access has been served, a call takes the unit back and has waited for nothing else. -/
theorem Live.visited (live : board.Live) (idle : board.keyValue.pending = none) (access : Access)
    {unit : KeyValue} (keyed : unit.key ≠ []) (runs : Runs (board.beginAccess access unit) served mid)
    (absent : board.accessJob access ∉ served) (serves : mid.Serves (board.accessJob access) done)
    (taken : JobTaken (board.accessJob access) mid.jobs done.jobs)
    (drained : done.keyValue.pending = none) :
    board.Visited access done.store served done.clearKeyValue := by
  have begins := live.sound.begun_beginAccess access keyed
  obtain ⟨precede, left⟩ := begins.overtakes
    (by simp [accessJob, Task.source, jobsOf, KeyValue.jobs, idle]) runs absent taken
    (by simp [accessJob, Task.source, jobsOf, KeyValue.jobs, drained])
  refine ⟨?_, (runs.abides.trans serves.abides).input, ?_, precede,
    (jobs_clearKeyValue done).trans left,
    BoardAct.confined_access live access keyed runs absent serves⟩
  · rw [← access.ticks_eq]
    exact serves.clock_eq
  · simp only [KeyValue.initial, drained, store]

end Board

namespace BoardAct

variable {board : Board} {key : Bytes}

/-- A read comes to what the store holds. -/
theorem visited_getValue (live : board.Live) (idle : board.keyValue.pending = none)
    (keyed : key ≠ []) {size : Nat} (bound : size < UInt32.size) :
    ∃ served after, board.Visited .get board.store served after ∧
      getValue key size board = match board.store.get? key with
        | some value =>
          if value.length ≤ size then .ok (value, value.length) after
          else .error (.fault (.storage .size)) after
        | none => .error (.fault (.storage .noSupport)) after := by
  obtain ⟨served, mid, done, runs, absent, serves, taken, left, heard, awaited⟩ :=
    access_of_registered live .get (registerGet_eq idle size keyed) keyed
  have drained : done.keyValue.pending = none := by rw [left, KeyValue.service_pending]
  have visited := live.visited idle .get keyed runs absent serves taken drained
  -- Either way a read replaces the destination and nothing else in the unit.
  cases found : board.store.get? key with
  | none =>
    rw [KeyValue.service_get_of_none rfl found] at left heard
    have kept : done.store = board.store := (congrArg KeyValue.store left).trans rfl
    exact ⟨served, _, kept ▸ visited, getValue_of_awaited awaited drained heard⟩
  | some value =>
    rw [KeyValue.service_get_of_some rfl found] at left heard
    have kept : done.store = board.store := (congrArg KeyValue.store left).trans rfl
    have copied := congrArg KeyValue.destination left
    exact ⟨served, _, kept ▸ visited, getValue_of_found bound awaited drained copied heard⟩

/-- A write comes to what the store makes of it. -/
theorem visited_setValue (live : board.Live) (idle : board.keyValue.pending = none)
    (keyed : key ≠ []) (value : Bytes) :
    match board.store.put key value with
    | .ok later => ∃ served after, board.Visited .set later served after ∧
        setValue key value board = .ok () after
    | .error _ => ∃ served after, board.Visited .set board.store served after ∧
        setValue key value board = .error (.fault (.storage .fail)) after := by
  obtain ⟨served, mid, done, runs, absent, serves, taken, left, heard, awaited⟩ :=
    access_of_registered live .set (registerSet_eq idle value keyed) keyed
  have drained : done.keyValue.pending = none := by rw [left, KeyValue.service_pending]
  have visited := live.visited idle .set keyed runs absent serves taken drained
  cases put : board.store.put key value with
  | ok later =>
    rw [KeyValue.service_set_of_ok rfl put] at left heard
    have kept : done.store = later := congrArg KeyValue.store left
    exact ⟨served, _, kept ▸ visited, setValue_of_awaited awaited drained heard⟩
  | error error =>
    rw [KeyValue.service_set_of_error rfl put] at left heard
    have kept : done.store = board.store := (congrArg KeyValue.store left).trans rfl
    exact ⟨served, _, kept ▸ visited, setValue_of_awaited awaited drained heard⟩

/-- A write comes to what the store takes. -/
theorem entered_setValue (live : board.Live) (idle : board.keyValue.pending = none)
    (keyed : key ≠ []) (value : Bytes) :
    if board.store.Takes key value then
      ∃ store served after, board.Visited .set store served after ∧
        board.store.Enters key value store ∧ setValue key value board = .ok () after
    else ∃ served after, board.Visited .set board.store served after ∧
      setValue key value board = .error (.fault (.storage .fail)) after := by
  have visited := visited_setValue live idle keyed value
  split
  next takes =>
    obtain ⟨later, put, enters⟩ := Store.put_of_takes takes
    rw [put] at visited
    obtain ⟨served, after, visited, ran⟩ := visited
    exact ⟨later, served, after, visited, enters, ran⟩
  next refuses =>
    obtain ⟨error, put⟩ := Store.put_of_not_takes refuses
    rwa [put] at visited

/-- From every reachable board the store is a map. A unit that is at work and an empty key are
declined at once. Any other read takes 32 ticks and hands out the value of the key, if there is one
and the destination takes the whole of it, and leaves the store as it is. Any other write takes 163
ticks and gives the key its value, unless the store does not take it and stays as it is. -/
theorem access_map (reachable : board.Reachable) :
    (board.keyValue.pending.isSome → ∃ after, board.Declined after ∧
      (∀ key size, getValue key size board = .error (.fault (.storage .busy)) after) ∧
      ∀ key value, setValue key value board = .error (.fault (.storage .busy)) after) ∧
    (board.keyValue.pending = none →
      (∃ after, board.Declined after ∧
        (∀ size, getValue [] size board = .error (.fault (.storage .reserve)) after) ∧
        ∀ value, setValue [] value board = .error (.fault (.storage .reserve)) after) ∧
      ∀ key, key ≠ [] →
        (∀ size, size < UInt32.size → ∃ served after, board.Visited .get board.store served after ∧
          getValue key size board = match board.store.get? key with
            | some value =>
              if value.length ≤ size then .ok (value, value.length) after
              else .error (.fault (.storage .size)) after
            | none => .error (.fault (.storage .noSupport)) after) ∧
        ∀ value,
          if board.store.Takes key value then
            ∃ store served after, board.Visited .set store served after ∧
              board.store.Enters key value store ∧ setValue key value board = .ok () after
          else ∃ served after, board.Visited .set board.store served after ∧
            setValue key value board = .error (.fault (.storage .fail)) after) ∧
    ∀ fault, isMissing fault = true ↔ fault = .storage .noSupport := by
  have live := reachable.live
  refine ⟨fun busy => ?_, fun idle => ⟨?_, fun key keyed => ?_⟩, fun fault => beq_iff_eq⟩
  · exact ⟨_, reachable.declined_hush busy, getValue_of_busy busy, setValue_of_busy busy⟩
  · exact ⟨_, declined_clearKeyValue board, getValue_of_unkeyed idle, setValue_of_unkeyed idle⟩
  · exact ⟨fun size => visited_getValue live idle keyed, entered_setValue live idle keyed⟩

/-- A board whose store has a value, where an alarm, a button, a text and a read of a character are
outstanding. -/
def stocked : Board :=
  (initial .inMemory [0x70, 0x0a] 1 true).obeyAll [
    .putValue [1] [7, 8],
    .subscribe (.alarm Alarms.defaultPlace) (some (.listener 1)),
    .armAlarm Alarms.defaultPlace 65,
    .setInterrupt 0 true,
    .perform (.press 0),
    .share .character [0],
    .start .readCharacter,
    .share .text [0x31],
    .start .typeText]

/-- The commands that are given in its definition lead to that board. -/
theorem reachable_stocked : stocked.Reachable :=
  Reachable.obeyAll (.initial ..) (by simp [Command.subscriber?])

/-- There a value is read if the destination takes it, and an empty one can take its place, unless
the store is made read-only. A unit that is at work answers nothing of this. -/
theorem access_map_stocked :
    stocked.jobs = [⟨65, .ring 0⟩, ⟨0, .turn 0 true⟩, ⟨3932, .turn 0 false⟩, ⟨262, .typing⟩] ∧
      stocked.console.reading = true ∧
      (∃ served after, stocked.Visited .get stocked.store served after ∧
        getValue [1] 2 stocked = .ok ([7, 8], 2) after) ∧
      (∃ served after, stocked.Visited .get stocked.store served after ∧
        getValue [1] 1 stocked = .error (.fault (.storage .size)) after) ∧
      (∃ served after, stocked.Visited .get stocked.store served after ∧
        getValue [2] 2 stocked = .error (.fault (.storage .noSupport)) after) ∧
      (∃ store served after, stocked.Visited .set store served after ∧
        stocked.store.Enters [1] [] store ∧ setValue [1] [] stocked = .ok () after) ∧
      (∃ served after,
        (stocked.obeyAll [.setReadOnly true]).Visited .set
          (stocked.store.setReadOnly true) served after ∧
        setValue [1] [] (stocked.obeyAll [.setReadOnly true]) =
          .error (.fault (.storage .fail)) after) ∧
      ∃ after, engaged.Declined after ∧
        getValue [1] 2 engaged = .error (.fault (.storage .busy)) after := by
  have locked : (stocked.obeyAll [.setReadOnly true]).Reachable :=
    reachable_stocked.obeyAll (by simp [Command.subscriber?])
  obtain ⟨_, free, _⟩ := access_map reachable_stocked
  obtain ⟨_, guarded, _⟩ := access_map locked
  obtain ⟨busy, _, _⟩ := access_map reachable_engaged
  obtain ⟨reads, writes⟩ := (free (by decide)).2 [1] (by decide)
  obtain ⟨missing, _⟩ := (free (by decide)).2 [2] (by decide)
  have stored := writes []
  rw [if_pos ((Store.takes_of_memory rfl [1] []).mpr rfl)] at stored
  have refused := ((guarded (by decide)).2 [1] (by decide)).2 []
  rw [if_neg (mt (Store.takes_of_memory rfl [1] []).mp (by decide))] at refused
  obtain ⟨after, declined, answers, _⟩ := busy (by decide)
  exact ⟨by decide, by decide, reads 2 (by decide), reads 1 (by decide), missing 2 (by decide),
    stored, refused, after, declined, answers [1] 2⟩

end BoardAct

end OtpToken
