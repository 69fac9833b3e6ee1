import OtpToken.Proofs.Board.Soundness

/-!
# Handles to alarms

An alarm is known to its user by the place it was allocated, and the place of a freed alarm is
given out again. Whoever keeps to alarms that have not been freed and given out again has them to
himself: every handle that has not been freed names an alarm of its own, and nothing that is done
through another handle shows there (`alarms_independent`).
-/

namespace OtpToken

namespace Alarms

variable {alarms : Alarms} {due place : Nat}

/-- The deadlines come in the order of the places. -/
theorem ordered_deadlines (alarms : Alarms) :
    alarms.deadlines.Pairwise fun first second => first.2 < second.2 := by
  have indices : alarms.places.zipIdx.Pairwise fun first second => first.2 < second.2 := by
    rw [← List.pairwise_map (f := Prod.snd) (R := (· < ·)), List.zipIdx_map_snd]
    exact List.pairwise_lt_range'
  refine indices.filterMap _ fun first second less one here other there => ?_
  obtain ⟨_, _, rfl⟩ := Option.map_eq_some_iff.mp here
  obtain ⟨_, _, rfl⟩ := Option.map_eq_some_iff.mp there
  exact less

/-- The alarm that is next expires before every other one, or with those at higher places. -/
theorem le_of_next? (next : alarms.next? = some (due, place)) {tick other : Nat}
    (armed : (tick, other) ∈ alarms.deadlines) : due < tick ∨ due = tick ∧ place ≤ other := by
  obtain ⟨before, after, split, strict, weak⟩ := split_of_earliest?_eq_some next
  have ordered := alarms.ordered_deadlines
  rw [split] at armed ordered
  rcases List.mem_append.mp armed with earlier | later
  · exact .inl (strict _ earlier)
  · rcases List.mem_cons.mp later with same | later
    · cases same
      exact .inr ⟨rfl, Nat.le_refl _⟩
    · have above := (List.pairwise_cons.mp (List.pairwise_append.mp ordered).2.1).1 _ later
      have le := weak _ later
      omega

end Alarms

/-- What is done with a table of alarms. Handles are known by their numbers. -/
inductive AlarmUse
  | allocate
  | free (handle : Nat)
  | subscribe (handle : Nat) (subscriber : Option Subscriber)
  | arm (handle now : Nat) (ticks : UInt32)
  | cancel (handle : Nat)
  | service (now : Nat)
  deriving DecidableEq, Repr

/-- The handle that is made use of. -/
def AlarmUse.handle? : AlarmUse → Option Nat
  | allocate | service _ => none
  | free handle | subscribe handle _ | arm handle _ _ | cancel handle => some handle

/-- A table of alarms, and the handles to them that have been given out. -/
structure AlarmRegister where
  alarms : Alarms
  /-- The place that each handle names; the first handle is the one to the default alarm. -/
  places : List Nat
  /-- The handles that have been freed. -/
  freed : List Nat
  deriving DecidableEq, Repr

namespace AlarmRegister

/-- The register with the default alarm alone. -/
def initial : AlarmRegister := ⟨.initial, [Alarms.defaultPlace], []⟩

/-- The handle to the default alarm. -/
def defaultHandle : Nat := 0

/-- The place that a handle names. -/
def place (register : AlarmRegister) (handle : Nat) : Nat :=
  register.places.getD handle Alarms.defaultPlace

/-- The alarm that stands at the place that a handle names. -/
def alarm? (register : AlarmRegister) (handle : Nat) : Option Timer :=
  register.alarms.timer? (register.place handle)

/-- When the alarm of a handle expires. -/
def expiration? (register : AlarmRegister) (handle : Nat) : Option Nat :=
  (register.alarm? handle).bind Timer.expiration

/-- A handle is live from when it is given out until it is freed. -/
def IsLive (register : AlarmRegister) (handle : Nat) : Prop :=
  handle < register.places.length ∧ handle ∉ register.freed

/-- The place of a handle has been given out again. -/
def IsReused (register : AlarmRegister) (handle : Nat) : Prop :=
  register.place handle ∈ register.places.drop (handle + 1)

/-- The register with other alarms, unless the change was refused. -/
def settle (register : AlarmRegister) (answer : Except ReturnCode Alarms) : AlarmRegister :=
  match answer with
  | .ok alarms => { register with alarms := alarms }
  | .error _ => register

/-- The register after a use. The default alarm cannot be freed. -/
def use (register : AlarmRegister) : AlarmUse → AlarmRegister
  | .allocate =>
    { register with
      alarms := register.alarms.allocate.2
      places := register.places ++ [register.alarms.allocate.1] }
  | .free handle =>
    { register with
      alarms := register.alarms.free (register.place handle)
      freed := if handle = defaultHandle then register.freed else handle :: register.freed }
  | .subscribe handle subscriber =>
    register.settle
      ((register.alarms.subscribe (register.place handle) subscriber).map Prod.snd)
  | .arm handle now ticks =>
    register.settle (register.alarms.arm (register.place handle) (now + ticks.toNat))
  | .cancel handle => register.settle (register.alarms.cancel (register.place handle))
  | .service now => { register with alarms := (register.alarms.service now).1 }

/-- The register after uses, one after another. -/
def run (register : AlarmRegister) (uses : List AlarmUse) : AlarmRegister := uses.foldl use register

/-- A use is allowed of a handle that has been given out, but not of one that has been freed and whose
place has been given out again. -/
def Allows (register : AlarmRegister) (use : AlarmUse) : Prop :=
  ∀ handle ∈ use.handle?, handle < register.places.length ∧
    ¬(handle ∈ register.freed ∧ register.IsReused handle)

/-- Uses that are allowed one after another. -/
def Disciplined (register : AlarmRegister) : List AlarmUse → Prop
  | [] => True
  | use :: uses => register.Allows use ∧ (register.use use).Disciplined uses

instance (register : AlarmRegister) (handle : Nat) : Decidable (register.IsReused handle) :=
  inferInstanceAs (Decidable (_ ∈ _))

instance (register : AlarmRegister) (use : AlarmUse) : Decidable (register.Allows use) :=
  inferInstanceAs (Decidable (∀ handle ∈ use.handle?, _))

instance decidableDisciplined : ∀ (register : AlarmRegister) (uses : List AlarmUse),
    Decidable (register.Disciplined uses)
  | _, [] => .isTrue trivial
  | register, use :: uses =>
    have := decidableDisciplined (register.use use) uses
    inferInstanceAs (Decidable (_ ∧ _))

variable {register : AlarmRegister} {handle other : Nat}

/-- What a use can do to a register. -/
inductive Alters (register : AlarmRegister) : AlarmUse → AlarmRegister → Prop
  | allocated : Alters register .allocate { register with
      alarms := register.alarms.allocate.2
      places := register.places ++ [register.alarms.allocate.1] }
  | kept : Alters register (.free defaultHandle) { register with
      alarms := register.alarms.free (register.place defaultHandle) }
  | freed {handle : Nat} (apart : handle ≠ defaultHandle) :
      Alters register (.free handle) { register with
        alarms := register.alarms.free (register.place handle)
        freed := handle :: register.freed }
  /-- The alarm of a handle is set differently. -/
  | set {use : AlarmUse} {handle : Nat} {timer changed : Timer} (named : use.handle? = some handle)
      (here : register.alarm? handle = some timer) :
      Alters register use { register with
        alarms := register.alarms.setTimer (register.place handle) (some changed) }
  /-- An alarm fires. -/
  | fired {now place : Nat} {timer : Timer} (here : register.alarms.timer? place = some timer) :
      Alters register (.service now) { register with
        alarms := register.alarms.setTimer place (some { timer with expiration := none }) }
  | still {use : AlarmUse} : Alters register use register

/-- Every use alters a register in a way that `Alters` names. -/
theorem alters_use (register : AlarmRegister) (use : AlarmUse) :
    register.Alters use (register.use use) := by
  cases use with
  | allocate => exact .allocated
  | free handle =>
    by_cases same : handle = defaultHandle
    · subst same
      exact .kept
    · rw [AlarmRegister.use, if_neg same]
      exact .freed same
  | subscribe handle subscriber =>
    simp only [AlarmRegister.use, Alarms.subscribe]
    split
    next timer here => exact .set rfl here
    next => exact .still
  | arm handle now ticks =>
    simp only [AlarmRegister.use, Alarms.arm]
    split
    next timer here => exact .set rfl here
    next => exact .still
  | cancel handle =>
    simp only [AlarmRegister.use, Alarms.cancel]
    split
    next timer here =>
      split
      next => exact .set rfl here
      next => exact .still
    next => exact .still
  | service now =>
    simp only [AlarmRegister.use, Alarms.service]
    split
    next =>
      split
      next timer here => exact .fired here
      next => exact .still
    next => exact .still

/-- The handles of a register are in order: an alarm stands at the places of the live handles and
nowhere else, and of handles to one place all but the last have been freed. -/
structure Ordered (register : AlarmRegister) : Prop where
  first : register.places[defaultHandle]? = some Alarms.defaultPlace
  kept : defaultHandle ∉ register.freed
  issued : ∀ handle ∈ register.freed, handle < register.places.length
  held : ∀ {handle : Nat}, register.IsLive handle → (register.alarm? handle).isSome
  occupied : ∀ {place : Nat}, (register.alarms.timer? place).isSome →
    ∃ handle, register.IsLive handle ∧ register.place handle = place
  superseded : ∀ {handle later : Nat}, handle < later → later < register.places.length →
    register.place handle = register.place later → handle ∈ register.freed

/-- The register with the default alarm alone is in order. -/
theorem Ordered.initial : initial.Ordered where
  first := rfl
  kept := List.not_mem_nil
  issued := by simp [AlarmRegister.initial]
  held := by
    rintro handle ⟨given, _⟩
    obtain rfl : handle = 0 := Nat.lt_one_iff.mp given
    rfl
  occupied := by
    intro place occupied
    obtain ⟨timer, here⟩ := Option.isSome_iff_exists.mp occupied
    have bound := Alarms.lt_length_of_timer? here
    obtain rfl : place = 0 := Nat.lt_one_iff.mp bound
    exact ⟨defaultHandle, ⟨Nat.one_pos, List.not_mem_nil⟩, rfl⟩
  superseded := by
    intro handle later before given _
    obtain rfl : later = 0 := Nat.lt_one_iff.mp given
    omega

namespace Ordered

/-- The handle to the default alarm names its place. -/
theorem place_default (ordered : register.Ordered) :
    register.place defaultHandle = Alarms.defaultPlace := by
  rw [place, List.getD_eq_getElem?_getD, ordered.first]
  rfl

/-- The handle to the default alarm is live. -/
theorem isLive_default (ordered : register.Ordered) : register.IsLive defaultHandle :=
  ⟨(List.getElem?_eq_some_iff.mp ordered.first).1, ordered.kept⟩

/-- Handles that are live at the same time name different places. -/
theorem distinct (ordered : register.Ordered) (live : register.IsLive handle)
    (alive : register.IsLive other) (same : register.place handle = register.place other) :
    handle = other := by
  rcases Nat.lt_trichotomy handle other with before | equal | after
  · exact absurd (ordered.superseded before alive.1 same) live.2
  · exact equal
  · exact absurd (ordered.superseded after live.1 same.symm) alive.2

end Ordered

/-- A place that is given out again makes the earlier handle to it a reused one. -/
theorem isReused_of_later (before : handle < other) (given : other < register.places.length)
    (same : register.place handle = register.place other) : register.IsReused handle := by
  rw [IsReused, same, List.mem_drop_iff_getElem]
  refine ⟨other - (handle + 1), by omega, ?_⟩
  have index : handle + 1 + (other - (handle + 1)) = other := by omega
  simp [place, index, given]

namespace Ordered

/-- A handle that may be used names the place of no other live one. -/
theorem apart (ordered : register.Ordered) (given : handle < register.places.length)
    (allowed : ¬(handle ∈ register.freed ∧ register.IsReused handle)) (live : register.IsLive other)
    (different : other ≠ handle) : register.place other ≠ register.place handle := by
  intro same
  rcases Nat.lt_or_gt_of_ne different with before | after
  · exact live.2 (ordered.superseded before given same)
  · exact allowed ⟨ordered.superseded after live.1 same.symm,
      isReused_of_later after live.1 same.symm⟩

/-- An alarm that is there may be set differently. -/
theorem setTimer (ordered : register.Ordered) {place : Nat} {timer : Timer}
    (here : register.alarms.timer? place = some timer) (changed : Timer) :
    ({ register with
      alarms := register.alarms.setTimer place (some changed) } : AlarmRegister).Ordered := by
  have same : ∀ other, ((register.alarms.setTimer place (some changed)).timer? other).isSome =
      (register.alarms.timer? other).isSome := by
    intro other
    rw [Alarms.timer?_setTimer]
    split
    next own => rw [← own.1, here]; rfl
    next => rfl
  exact { ordered with
    held := fun live => (same _).trans (ordered.held live)
    occupied := fun occupied => ordered.occupied ((same _).symm.trans occupied) }

/-- The alarm of a handle that may be used is freed. -/
theorem free (ordered : register.Ordered) (default : handle ≠ defaultHandle)
    (given : handle < register.places.length)
    (allowed : ¬(handle ∈ register.freed ∧ register.IsReused handle)) :
    ({ register with
      alarms := register.alarms.free (register.place handle)
      freed := handle :: register.freed } : AlarmRegister).Ordered := by
  have elsewhere : register.place handle ≠ Alarms.defaultPlace := by
    have apart := ordered.apart given allowed ordered.isLive_default default.symm
    rw [ordered.place_default] at apart
    exact apart.symm
  rw [Alarms.free, if_neg elsewhere]
  refine ⟨ordered.first, ?_, ?_, ?_, ?_, ?_⟩
  · rw [List.mem_cons, not_or]
    exact ⟨default.symm, ordered.kept⟩
  · rintro other (_ | ⟨_, freed⟩)
    · exact given
    · exact ordered.issued other freed
  · rintro other ⟨issued, unfreed⟩
    rw [List.mem_cons, not_or] at unfreed
    have apart := ordered.apart given allowed ⟨issued, unfreed.2⟩ unfreed.1
    rw [alarm?, Alarms.timer?_setTimer, if_neg fun own => apart own.1.symm]
    exact ordered.held ⟨issued, unfreed.2⟩
  · intro place occupied
    rw [Alarms.timer?_setTimer] at occupied
    split at occupied
    next => cases occupied
    next elsewhere =>
      obtain ⟨holder, live, rfl⟩ := ordered.occupied occupied
      obtain ⟨timer, here⟩ := Option.isSome_iff_exists.mp occupied
      refine ⟨holder, ⟨live.1, ?_⟩, rfl⟩
      rw [List.mem_cons, not_or]
      refine ⟨?_, live.2⟩
      rintro rfl
      exact elsewhere ⟨rfl, Alarms.lt_length_of_timer? here⟩
  · exact fun before issued same => List.mem_cons_of_mem _ (ordered.superseded before issued same)

/-- A handle keeps its place when another one is given out. -/
theorem place_append {fresh : Nat} {alarms : Alarms} (given : handle < register.places.length) :
    ({ register with
      alarms := alarms, places := register.places ++ [fresh] } : AlarmRegister).place handle =
      register.place handle := by
  simp [place, List.getElem?_append_left given]

/-- The handle that was given out last names the place that was allocated last. -/
theorem place_append_self {fresh : Nat} {alarms : Alarms} :
    ({ register with
      alarms := alarms, places := register.places ++ [fresh] } : AlarmRegister).place
        register.places.length = fresh := by
  simp [place]

/-- No live handle names the place that is given out next. -/
theorem place_ne_allocate (ordered : register.Ordered) (live : register.IsLive handle) :
    register.place handle ≠ register.alarms.allocate.1 := by
  intro same
  have held := ordered.held live
  rw [alarm?, same, Alarms.timer?_freePlace] at held
  cases held

/-- A fresh alarm is allocated. -/
theorem allocate (ordered : register.Ordered) : (register.use .allocate).Ordered := by
  have length : (register.use .allocate).places.length = register.places.length + 1 := by
    rw [use, List.length_append, List.length_singleton]
  have old : ∀ {handle : Nat}, handle < register.places.length →
      (register.use .allocate).place handle = register.place handle := place_append
  have new : (register.use .allocate).place register.places.length =
      register.alarms.allocate.1 := place_append_self
  have fresh : register.places.length ∉ register.freed := fun freed =>
    Nat.lt_irrefl _ (ordered.issued _ freed)
  refine ⟨?_, ordered.kept, ?_, ?_, ?_, ?_⟩
  · rw [use, List.getElem?_append_left ordered.isLive_default.1]
    exact ordered.first
  · exact fun handle freed => length ▸ Nat.lt_succ_of_lt (ordered.issued handle freed)
  · rintro handle ⟨given, unfreed⟩
    rcases Nat.lt_succ_iff_lt_or_eq.mp (length ▸ given) with before | rfl
    · have live : register.IsLive handle := ⟨before, unfreed⟩
      rw [alarm?, old before, use, Alarms.timer?_allocate_other _ (ordered.place_ne_allocate live)]
      exact ordered.held live
    · rw [alarm?, new, use, Alarms.timer?_allocate_self]
      rfl
  · intro place occupied
    by_cases same : place = register.alarms.allocate.1
    · exact ⟨register.places.length, ⟨by omega, fresh⟩, new.trans same.symm⟩
    · rw [use, Alarms.timer?_allocate_other _ same] at occupied
      obtain ⟨holder, live, named⟩ := ordered.occupied occupied
      exact ⟨holder, ⟨by have := live.1; omega, live.2⟩, (old live.1).trans named⟩
  · intro handle later before given same
    rw [old (by omega)] at same
    rcases Nat.lt_succ_iff_lt_or_eq.mp (length ▸ given) with earlier | rfl
    · exact ordered.superseded before earlier (same.trans (old earlier))
    · -- The place is free, so a handle that names it has been freed.
      by_contra unfreed
      exact ordered.place_ne_allocate ⟨before, unfreed⟩ (same.trans new)

/-- The handles stay in order under every use that is allowed. -/
theorem use (ordered : register.Ordered) {use : AlarmUse} (allowed : register.Allows use) :
    (register.use use).Ordered := by
  have alters := register.alters_use use
  generalize register.use use = after at alters
  cases alters with
  | allocated => exact ordered.allocate
  | kept =>
    rw [Alarms.free, if_pos ordered.place_default]
    exact ordered
  | @freed handle apart =>
    obtain ⟨given, unreused⟩ := allowed handle rfl
    exact ordered.free apart given unreused
  | set _ here => exact ordered.setTimer here _
  | fired here => exact ordered.setTimer here _
  | still => exact ordered

/-- A use of one alarm, or the allocation of one, changes no other alarm. -/
theorem alarm?_use (ordered : register.Ordered) {use : AlarmUse} (allowed : register.Allows use)
    (quiet : ∀ now, use ≠ .service now) (live : register.IsLive other)
    (different : use.handle? ≠ some other) :
    (register.use use).alarm? other = register.alarm? other := by
  have alters := register.alters_use use
  generalize register.use use = after at alters
  have untouched {handle : Nat} (named : use.handle? = some handle) :
      register.place other ≠ register.place handle := by
    obtain ⟨given, unreused⟩ := allowed handle named
    refine ordered.apart given unreused live fun same => different ?_
    rw [named, same]
  cases alters with
  | allocated =>
    rw [alarm?, place_append live.1, Alarms.timer?_allocate_other _ (ordered.place_ne_allocate live)]
    rfl
  | kept => rw [Alarms.free, if_pos ordered.place_default]
  | freed =>
    rw [alarm?, Alarms.free]
    split
    next => rfl
    next => exact (Alarms.timer?_setTimer ..).trans (if_neg fun own => untouched rfl own.1.symm)
  | set named =>
    exact (Alarms.timer?_setTimer ..).trans (if_neg fun own => untouched named own.1.symm)
  | fired => exact absurd rfl (quiet _)
  | still => rfl

/-- At the place of a freed handle that has not been given out again there is no alarm. -/
theorem alarm?_of_freed (ordered : register.Ordered) (freed : handle ∈ register.freed)
    (unreused : ¬register.IsReused handle) : register.alarm? handle = none := by
  rw [← Option.not_isSome_iff_eq_none]
  intro occupied
  obtain ⟨holder, live, same⟩ := ordered.occupied occupied
  refine ordered.apart (ordered.issued handle freed) (fun both => unreused both.2) live ?_ same
  rintro rfl
  exact live.2 freed

/-- A register stays in order through everything that is done with discipline. -/
theorem run (ordered : register.Ordered) {uses : List AlarmUse}
    (disciplined : register.Disciplined uses) : (register.run uses).Ordered := by
  induction uses generalizing register with
  | nil => exact ordered
  | cons use uses ih => exact ih (ordered.use disciplined.1) disciplined.2

end Ordered

/-- The alarm of a handle is the one that fires: of the live ones it expires first, and stands at the
lowest place among those that expire with it. It is disarmed and keeps its subscriber, who hears the
tick and the expiration, and no other alarm changes. -/
structure Fires (register : AlarmRegister) (now handle due : Nat) (timer : Timer) : Prop where
  live : register.IsLive handle
  here : register.alarm? handle = some timer
  expires : timer.expiration = some due
  earliest : ∀ {other tick : Nat}, register.IsLive other → register.expiration? other = some tick →
    due < tick ∨ due = tick ∧ register.place handle ≤ register.place other
  disarmed : (register.use (.service now)).alarm? handle = some { timer with expiration := none }
  others : ∀ {other : Nat}, register.IsLive other → other ≠ handle →
    (register.use (.service now)).alarm? other = register.alarm? other
  heard : (register.alarms.service now).2 = Subscriber.call? timer.subscriber now due

/-- The alarms of a register are independent of each other. -/
structure Independent (register : AlarmRegister) : Prop where
  /-- The default alarm has a live handle at all times. -/
  default : register.IsLive defaultHandle ∧
    register.place defaultHandle = Alarms.defaultPlace
  /-- Handles that are live at the same time are different from each other. -/
  distinct : ∀ {handle other : Nat}, register.IsLive handle → register.IsLive other →
    handle ≠ other → register.place handle ≠ register.place other
  /-- What is done with one alarm changes no other. -/
  others : ∀ {use : AlarmUse} {other : Nat}, register.Allows use → (∀ now, use ≠ .service now) →
    register.IsLive other → use.handle? ≠ some other →
    (register.use use).alarm? other = register.alarm? other
  /-- A new handle is live and names an alarm that is disarmed and has no subscriber. -/
  allocates : (register.use .allocate).IsLive register.places.length ∧
    (register.use .allocate).place register.places.length = register.alarms.allocate.1 ∧
    (register.use .allocate).alarm? register.places.length = some .disarmed
  /-- If any alarm is armed, one of them fires. -/
  fires : ∀ now, (∃ handle, register.IsLive handle ∧ (register.expiration? handle).isSome) →
    ∃ handle due timer, register.Fires now handle due timer
  /-- If none is armed, nothing happens. -/
  rests : ∀ now, (∀ handle, register.IsLive handle → register.expiration? handle = none) →
    register.alarms.service now = (register.alarms, none)
  /-- To cancel an alarm fails for a disarmed one, and does so for no other reason. -/
  cancels : ∀ {handle : Nat}, register.Allows (.cancel handle) →
    (register.alarms.cancel (register.place handle) = .error .already ↔
      register.IsLive handle ∧ register.expiration? handle = none)
  /-- The alarm of a freed handle is gone. -/
  refuses : ∀ {handle : Nat}, handle ∈ register.freed → ¬register.IsReused handle →
    (∀ subscriber, register.alarms.subscribe (register.place handle) subscriber =
      .error .invalid) ∧
    (∀ expiration, register.alarms.arm (register.place handle) expiration = .error .invalid) ∧
    register.alarms.cancel (register.place handle) = .error .invalid
  /-- To free the default alarm has no effect. -/
  keeps : register.use (.free defaultHandle) = register

/-- The alarm that fires is that of a live handle. -/
theorem Ordered.fires (ordered : register.Ordered) (now : Nat) {due place : Nat}
    (next : register.alarms.next? = some (due, place)) :
    ∃ handle timer, register.Fires now handle due timer := by
  obtain ⟨timer, here, expires⟩ := Alarms.mem_deadlines.mp (mem_of_earliest?_eq_some next)
  obtain ⟨handle, live, rfl⟩ := ordered.occupied (by rw [here]; rfl)
  have served : register.alarms.service now =
      (register.alarms.setTimer (register.place handle) (some { timer with expiration := none }),
        Subscriber.call? timer.subscriber now due) := by
    simp only [Alarms.service, next, here]
  have bound := Alarms.lt_length_of_timer? here
  refine ⟨handle, timer, live, here, expires, ?_, ?_, ?_, ?_⟩
  · intro other tick alive armed
    obtain ⟨timer', here', expires'⟩ := Option.bind_eq_some_iff.mp armed
    exact Alarms.le_of_next? next (Alarms.mem_deadlines.mpr ⟨timer', here', expires'⟩)
  · change (register.alarms.service now).1.timer? (register.place handle) = _
    rw [served, Alarms.timer?_setTimer, if_pos ⟨rfl, bound⟩]
  · intro other alive different
    change (register.alarms.service now).1.timer? (register.place other) = _
    rw [served, Alarms.timer?_setTimer, if_neg fun own => different ?_]
    · rfl
    · exact ordered.distinct alive live own.1.symm
  · rw [served]

/-- Where no alarm of a live handle is armed none is next. -/
theorem Ordered.next?_eq_none (ordered : register.Ordered)
    (disarmed : ∀ handle, register.IsLive handle → register.expiration? handle = none) :
    register.alarms.next? = none := by
  cases next : register.alarms.next? with
  | none => rfl
  | some entry =>
    obtain ⟨due, place⟩ := entry
    obtain ⟨timer, here, expires⟩ := Alarms.mem_deadlines.mp (mem_of_earliest?_eq_some next)
    obtain ⟨handle, live, rfl⟩ := ordered.occupied (by rw [here]; rfl)
    have none := disarmed handle live
    rw [expiration?, alarm?, here, Option.bind_some, expires] at none
    cases none

/-- Through a handle that may be used, an alarm cannot be cancelled exactly if it is live and not
armed. -/
theorem Ordered.cancel_eq_already_iff (ordered : register.Ordered)
    (allowed : register.Allows (.cancel handle)) :
    register.alarms.cancel (register.place handle) = .error .already ↔
      register.IsLive handle ∧ register.expiration? handle = none := by
  obtain ⟨given, unreused⟩ := allowed handle rfl
  by_cases live : register.IsLive handle
  · obtain ⟨timer, here⟩ := Option.isSome_iff_exists.mp (ordered.held live)
    have same : register.expiration? handle = timer.expiration := by
      rw [expiration?, here, Option.bind_some]
    rw [same, Alarms.cancel, show register.alarms.timer? (register.place handle) = some timer from here]
    cases expires : timer.expiration <;> simp [live, expires]
  · have freed : handle ∈ register.freed := by
      by_contra unfreed
      exact live ⟨given, unfreed⟩
    have gone : register.alarms.timer? (register.place handle) = none :=
      ordered.alarm?_of_freed freed fun reused => unreused ⟨freed, reused⟩
    rw [Alarms.cancel, gone]
    simp [live]

/-- In a register that is in order the handles are independent. -/
theorem Ordered.independent (ordered : register.Ordered) : register.Independent where
  default := ⟨ordered.isLive_default, ordered.place_default⟩
  distinct := fun live alive different same => different (ordered.distinct live alive same)
  others := ordered.alarm?_use
  allocates := by
    have fresh : (register.use .allocate).place register.places.length =
        register.alarms.allocate.1 := place_append_self
    refine ⟨⟨?_, ?_⟩, fresh, ?_⟩
    · rw [AlarmRegister.use, List.length_append, List.length_singleton]
      exact Nat.lt_succ_self _
    · exact fun freed => Nat.lt_irrefl _ (ordered.issued _ freed)
    · rw [alarm?, fresh]
      exact register.alarms.timer?_allocate_self
  fires := by
    rintro now ⟨handle, live, armed⟩
    cases next : register.alarms.next? with
    | none =>
      obtain ⟨due, armed⟩ := Option.isSome_iff_exists.mp armed
      obtain ⟨timer, here, expires⟩ := Option.bind_eq_some_iff.mp armed
      have member := Alarms.mem_deadlines.mpr ⟨timer, here, expires⟩
      rw [earliest?_eq_none_iff.mp next] at member
      cases member
    | some entry =>
      obtain ⟨fired, timer, fires⟩ := ordered.fires now next
      exact ⟨fired, entry.1, timer, fires⟩
  rests := by
    intro now disarmed
    rw [Alarms.service, ordered.next?_eq_none disarmed]
  cancels := ordered.cancel_eq_already_iff
  refuses := by
    intro handle freed unreused
    have gone : register.alarms.timer? (register.place handle) = none :=
      ordered.alarm?_of_freed freed unreused
    refine ⟨fun subscriber => ?_, fun expiration => ?_, ?_⟩
    · rw [Alarms.subscribe, gone]
    · rw [Alarms.arm, gone]
    · rw [Alarms.cancel, gone]
  keeps := by
    rw [AlarmRegister.use, ordered.place_default, Alarms.free, if_pos rfl, if_pos rfl]

end AlarmRegister

open AlarmRegister

/-- After any uses of which none is of a freed handle whose place has been given out again, the
alarms are independent of each other. -/
theorem alarms_independent {uses : List AlarmUse} (disciplined : initial.Disciplined uses) :
    (initial.run uses).Independent :=
  (Ordered.initial.run disciplined).independent

/-- The place of a freed alarm is given out again, and expires with the default alarm. -/
def reallocation : List AlarmUse :=
  [.allocate, .subscribe 1 (some (.listener 1)), .arm 1 0 50, .free 1, .cancel 1, .allocate,
    .arm 2 10 20, .arm 0 10 20, .subscribe 2 (some (.listener 2))]

/-- The place of an alarm that was freed is given out again, and the freed handle may not be used
any more. -/
theorem alarms_independent_reallocation :
    initial.Disciplined reallocation ∧ (initial.run reallocation).Independent ∧
      (initial.run reallocation).places = [0, 1, 1] ∧
      (initial.run reallocation).alarm? 2 = some ⟨some (.listener 2), some 30⟩ ∧
      (initial.run reallocation).alarm? 0 = some ⟨none, some 30⟩ ∧
      ¬(initial.run reallocation).Allows (.cancel 1) := by
  have disciplined : initial.Disciplined reallocation := by decide
  exact ⟨disciplined, alarms_independent disciplined, by decide, by decide, by decide, by decide⟩

end OtpToken
