import OtpToken.Proofs.Blocking.StoreMap
import OtpToken.Proofs.Storage.Repair

/-!
# Access to the store of any board

Whatever else is under way on a reachable board, a read or a write of its store ends by
what the store holds and takes if the key-value unit is idle, and is refused if the unit
is busy. So the restoring of all slots is known for every store and both kinds of board
(`endsIn_loadAll`).
-/

namespace OtpToken

open Act Board

namespace Act

variable {σ α β : Type} {left mid : σ → Prop} {outcome : Except Fault α} {state : σ}

/-- How an act ends: with its outcome, and in a state of a certain kind. -/
inductive EndsIn (left : σ → Prop) : Except Fault α → EStateM.Result Failure σ α → Prop
  | ok {value : α} {after : σ} (holds : left after) : EndsIn left (.ok value) (.ok value after)
  | fault {fault : Fault} {after : σ} (holds : left after) :
      EndsIn left (.error fault) (.error (.fault fault) after)

namespace EndsIn

/-- What ends with a value has handed it out and left a state of that kind. -/
theorem eq_ok {value : α} {result : EStateM.Result Failure σ α}
    (ends : EndsIn left (.ok value) result) : ∃ after, result = .ok value after ∧ left after := by
  cases ends with
  | ok holds => exact ⟨_, rfl, holds⟩

/-- An act that ends with a value is followed by the next one. -/
theorem bind {act : Act σ α} {next : α → Act σ β} {value : α} {last : Except Fault β}
    (ends : EndsIn mid (.ok value) (act state))
    (goes : ∀ between, mid between → EndsIn left last (next value between)) :
    EndsIn left last ((act >>= next) state) := by
  obtain ⟨between, ran, holds⟩ := ends.eq_ok
  rw [bind_of_ok ran]
  exact goes between holds

/-- An act that ends with a fault is not followed by the next one. -/
theorem bind_fault {act : Act σ α} {next : α → Act σ β} {fault : Fault}
    (ends : EndsIn left (.error fault) (act state)) :
    EndsIn left (.error fault) ((act >>= next) state) := by
  generalize ran : act state = result at ends
  cases ends with
  | fault holds =>
    rw [bind_of_error ran]
    exact .fault holds

/-- To attempt an act hands out how it ends, in the state that it leaves. -/
theorem attempt {act : Act σ α} (ends : EndsIn left outcome (act state)) :
    EndsIn left (.ok outcome) (Act.attempt act state) := by
  generalize ran : act state = result at ends
  cases ends with
  | ok holds =>
    rw [attempt_of_ok ran]
    exact .ok holds
  | fault holds =>
    rw [attempt_of_fault ran]
    exact .ok holds

end EndsIn

end Act

namespace Board

variable {board after : Board} {store : Store} {busy : Bool}

/-- A board that a program can reach, over a certain store, with its key-value unit busy or not. -/
structure Over (board : Board) (busy : Bool) (store : Store) : Prop where
  reachable : board.Reachable
  pending : board.keyValue.pending.isSome = busy
  stored : board.store = store

/-- On a board whose key-value unit is not busy no access is pending. -/
theorem Over.idle (atop : board.Over false store) : board.keyValue.pending = none := by
  simpa using atop.pending

/-- A reachable board without a pending access is one over its own store. -/
theorem Reachable.over_of_idle (reachable : board.Reachable)
    (idle : board.keyValue.pending = none) : board.Over false board.store :=
  ⟨reachable, by simp [idle], rfl⟩

/-- Once an access is over, the board is as it was but for what the access did to the store. -/
theorem Over.of_access {α : Type} {act : BoardAct α} {outcome : Except Fault α}
    (reachable : board.Reachable) (roams : BoardAct.Roams 0 act)
    (ends : Act.EndsIn (fun after => after.keyValue.pending = none ∧ after.store = store) outcome
      (act board)) : Act.EndsIn (·.Over false store) outcome (act board) := by
  have moves := roams board reachable (Nat.zero_le _)
  generalize act board = result at moves ends
  cases ends with
  | ok holds => exact .ok ⟨moves.reachable, by rw [holds.1]; rfl, holds.2⟩
  | fault holds => exact .fault ⟨moves.reachable, by rw [holds.1]; rfl, holds.2⟩

/-- What a refused access leaves. -/
theorem Over.hush (atop : board.Over true store) : (board.hush .keyValue).Over true store :=
  ⟨(atop.reachable.drawn.unsubscribe .keyValue).reachable, atop.pending, atop.stored⟩

/-- To turn a light on or off makes no difference to the store and its unit. -/
theorem Over.setLight (atop : board.Over busy store) (light : Nat) (lit : Bool) :
    (board.settle (board.setLight light lit)).Over busy store := by
  have moves : board.Reaches (board.settle (board.setLight light lit)) :=
    atop.reachable.settle (.setLight light lit) (by simp [Command.subscriber?]) (fun _ => .done) rfl
  have same : (board.settle (board.setLight light lit)).keyValue = board.keyValue := by
    unfold settle
    split
    next accepted =>
      obtain ⟨lights, _, left⟩ := bind_eq_ok accepted
      cases left
      rfl
    next => rfl
  exact ⟨moves.reachable, by rw [same, atop.pending], by rw [Board.store, same]; exact atop.stored⟩

/-- Printing makes no difference to the store and its unit. -/
theorem Over.print (atop : board.Over busy store) (text : String) :
    (board.print text).Over busy store := by
  have printed : board.obey (.print text) = .ok (.done, board.print text) := rfl
  exact ⟨.obeyed atop.reachable (by simp [Command.subscriber?]) printed, atop.pending, atop.stored⟩

end Board

/-- What a write comes to when the key-value unit is busy or not, and the store after that. -/
def Store.writing (store : Store) (busy : Bool) (key value : Bytes) : Except Fault Unit × Store :=
  if busy then (.error (.storage .busy), store)
  else
    match store.put key value with
    | .ok later => (.ok (), later)
    | .error _ => (.error (.storage .fail), store)

/-- A write that is not refused leaves the store that has been written. -/
theorem Store.writing_idle (store : Store) (key value : Bytes) :
    (store.writing false key value).2 = store.written key value := by
  cases put : store.put key value with
  | ok later => simp [writing, put, written_of_ok put]
  | error error => simp [writing, put, written_of_error put]

namespace BoardAct

variable {board : Board} {store : Store} {busy : Bool}

/-- An idle unit reads the store. -/
theorem endsIn_getValue (atop : board.Over false store) {key : Bytes} (size : Nat) (keyed : key ≠ [])
    (bound : size < UInt32.size) :
    EndsIn (·.Over false store)
      (match store.get? key with
        | some value =>
          if value.length ≤ size then .ok (value, value.length) else .error (.storage .size)
        | none => .error (.storage .noSupport))
      (getValue key size board) := by
  refine Over.of_access atop.reachable (Roams.getValue key size) ?_
  obtain ⟨served, after, visited, ran⟩ :=
    visited_getValue atop.reachable.live atop.idle keyed bound
  rw [atop.stored] at visited ran
  rw [ran]
  cases store.get? key with
  | none => exact .fault visited.over
  | some value =>
    dsimp only
    by_cases fits : value.length ≤ size
    · rw [if_pos fits, if_pos fits]
      exact .ok visited.over
    · rw [if_neg fits, if_neg fits]
      exact .fault visited.over

/-- A write ends as the store takes it, unless the unit is busy. -/
theorem endsIn_setValue (atop : board.Over busy store) {key : Bytes} (value : Bytes)
    (keyed : key ≠ []) :
    EndsIn (·.Over busy (store.writing busy key value).2) (store.writing busy key value).1
      (setValue key value board) := by
  cases busy with
  | true =>
    rw [setValue_of_busy atop.pending]
    exact .fault atop.hush
  | false =>
    refine Over.of_access atop.reachable (Roams.setValue key value) ?_
    have outcome := visited_setValue atop.reachable.live atop.idle keyed value
    rw [atop.stored] at outcome
    rw [Store.writing]
    cases put : store.put key value with
    | ok later =>
      rw [put] at outcome
      obtain ⟨served, after, visited, ran⟩ := outcome
      rw [ran]
      exact .ok visited.over
    | error error =>
      rw [put] at outcome
      obtain ⟨served, after, visited, ran⟩ := outcome
      rw [ran]
      exact .fault visited.over

end BoardAct

namespace Store

variable {store : Store} {busy : Bool} {slot other : Slot}

/-- What is read of a slot when the key-value unit is busy or not. -/
def seen (store : Store) (busy : Bool) (slot : Slot) : Option Credential :=
  if busy then none else store.credential? slot

/-- The store once a slot has been restored when the key-value unit is busy or not. -/
def mended (store : Store) (busy : Bool) (slot : Slot) : Store :=
  if busy then store else store.mend slot

/-- The restoring of a slot changes nothing of what is read of the others. -/
theorem seen_mended (apart : slot ≠ other) :
    (store.mended busy slot).seen busy other = store.seen busy other := by
  cases busy with
  | true => rfl
  | false => exact credential?_mend apart

/-- A slot whose credential is read is left as it is. -/
theorem mended_of_some {credential : Credential} (found : store.seen busy slot = some credential) :
    store.mended busy slot = store := by
  cases busy with
  | true => rfl
  | false => exact mend_of_some found

/-- A slot of which nothing is read is restored by writing a blank record. -/
theorem mended_of_none (none : store.seen busy slot = none) :
    store.mended busy slot =
      (store.writing busy (Keystore.recordKey slot) (Credential.blank slot).record).2 := by
  cases busy with
  | true => rfl
  | false => exact (mend_of_none none).trans (writing_idle ..).symm

end Store

namespace Keystore

variable {board : Board} {store : Store} {busy : Bool}

/-- Saving a credential ends as the write of its record does, over the store that the write leaves.
-/
theorem endsIn_save (atop : board.Over busy store) (slot : Slot) (credential : Credential) :
    EndsIn (·.Over busy (store.writing busy (recordKey slot) credential.record).2)
      (store.writing busy (recordKey slot) credential.record).1 (save slot credential board) :=
  BoardAct.endsIn_setValue atop credential.record (recordKey_ne_nil slot)

/-- What is loaded for a slot is what the store keeps for it. -/
theorem endsIn_load (atop : board.Over false store) (slot : Slot) :
    EndsIn (·.Over false store) (.ok (store.credential? slot)) (load slot board) := by
  have got := BoardAct.endsIn_getValue atop Credential.recordSize (recordKey_ne_nil slot) (by decide)
  unfold load
  cases found : store.get? (recordKey slot) with
  | none =>
    rw [found] at got
    rw [Store.credential?, found]
    exact got.attempt.bind fun between holds => .ok holds
  | some value =>
    rw [found] at got
    rw [Store.credential?, found]
    by_cases fits : value.length ≤ Credential.recordSize
    · simp only [if_pos fits] at got
      exact got.attempt.bind fun between holds => .ok holds
    · simp only [if_neg fits] at got
      have noRecord : Credential.ofRecord? slot value = none := by
        refine dif_neg fun valid => fits ?_
        exact Nat.le_of_eq valid.1
      rw [Option.bind_some, noRecord]
      exact got.attempt.bind fun between holds => .ok holds

/-- Nothing is loaded while the unit is busy. -/
theorem endsIn_load_busy (atop : board.Over true store) (slot : Slot) :
    EndsIn (·.Over true store) (.error (.storage .busy)) (load slot board) := by
  have got : EndsIn (·.Over true store) (.error (.storage .busy))
      (BoardAct.getValue (recordKey slot) Credential.recordSize board) := by
    rw [BoardAct.getValue_of_busy atop.pending]
    exact .fault atop.hush
  exact got.attempt.bind fun between holds => .fault holds

/-- A slot is restored to what is read of it, or else is formatted as far as its blank record is
taken. -/
theorem endsIn_restore (atop : board.Over busy store) (before : Restored) (slot : Slot) :
    EndsIn (·.Over busy (store.mended busy slot))
      (.ok (before.enter (store.seen busy) slot)) (restore before slot board) := by
  have formats : store.seen busy slot = none → ∀ between : Board, between.Over busy store →
      EndsIn (·.Over busy (store.mended busy slot)) (.ok (before.enter (store.seen busy) slot))
        ((do
          let blank := Credential.blank slot
          let _ ← attempt (save slot blank)
          return { credentials := before.credentials.set slot.val blank slot.isLt
                   formatted := before.formatted ++ [slot] } : BoardAct Restored) between) := by
    intro none between holds
    rw [Store.mended_of_none none, Restored.enter, none]
    exact (endsIn_save holds slot (.blank slot)).attempt.bind fun _ saved => .ok saved
  unfold restore
  cases busy with
  | true => exact (endsIn_load_busy atop slot).attempt.bind (formats rfl)
  | false =>
    have loaded := (endsIn_load atop slot).attempt
    cases kept : store.credential? slot with
    | none =>
      rw [kept] at loaded
      exact loaded.bind (formats kept)
    | some credential =>
      rw [kept] at loaded
      have found : store.seen false slot = some credential := kept
      rw [Store.mended_of_some found, Restored.enter, found]
      exact loaded.bind fun _ holds => .ok holds

/-- Slots are restored one after the other, each by what was read of it before the first. -/
theorem endsIn_restoreAll (atop : board.Over busy store) {slots : List Slot}
    (distinct : slots.Nodup) {found : Slot → Option Credential}
    (same : ∀ slot ∈ slots, store.seen busy slot = found slot) (before : Restored) :
    EndsIn (·.Over busy (slots.foldl (·.mended busy) store))
      (.ok (slots.foldl (Restored.enter found) before)) (slots.foldlM restore before board) := by
  induction slots generalizing board store before with
  | nil => exact .ok atop
  | cons slot slots ih =>
    obtain ⟨fresh, distinct⟩ := List.nodup_cons.mp distinct
    have own := same slot List.mem_cons_self
    have entered : before.enter (store.seen busy) slot = before.enter found slot := by
      rw [Restored.enter, Restored.enter, own]
    have first := endsIn_restore atop before slot
    rw [entered] at first
    rw [List.foldlM_cons, List.foldl_cons, List.foldl_cons]
    refine first.bind fun between holds => ih holds distinct (fun other member => ?_) _
    have apart : slot ≠ other := by
      rintro rfl
      exact fresh member
    rw [Store.seen_mended apart]
    exact same other (List.mem_cons_of_mem _ member)

/-- All slots are restored to what the store keeps for them, and the store is repaired as far as it
takes the blank records. While the key-value unit is busy, all slots end up blank, and the store is
left alone. -/
theorem endsIn_loadAll (atop : board.Over busy store) :
    EndsIn (·.Over busy (if busy then store else store.repaired))
      (.ok (Restored.ofFound (store.seen busy))) (loadAll board) := by
  have ends := endsIn_restoreAll atop (List.nodup_finRange slotCount)
    (fun slot _ => rfl) ⟨Vector.ofFn Credential.blank, []⟩
  have entered : (List.finRange slotCount).foldl (Restored.enter (store.seen busy))
      ⟨Vector.ofFn Credential.blank, []⟩ = Restored.ofFound (store.seen busy) :=
    Restored.foldl_enter_all _
  rw [entered] at ends
  cases busy with
  | false => exact ends
  | true =>
    have still : (List.finRange slotCount).foldl (·.mended true) store = store :=
      List.foldl_fixed' (fun _ => rfl) _
    rw [still] at ends
    exact ends

end Keystore

end OtpToken
