import OtpToken.Delivery
import OtpToken.Proofs.Blocking.Calls
import OtpToken.Proofs.Code
import OtpToken.Proofs.Text

/-!
# Codes and their delivery

A code can be typed, since it is shown as decimal digits. The keyed-hash unit derives
it from a secret without a trace, and its delivery leaves the code in the transcript,
and with a keyboard among the typed texts as well.
-/

namespace OtpToken

open Act Board

/-- What the keyboard has typed for an ASCII text is that text. -/
theorem Keyboard.textOf_ofText {text : String} (ascii : ∀ c ∈ text.toList, c.toNat < 128) :
    textOf (Bytes.ofText text) = text := by
  rw [Bytes.ofText_eq_ofChars, Bytes.ofChars_of_ascii ascii, textOf, List.map_map]
  have same : ∀ c ∈ text.toList,
      ((fun byte : UInt8 => Char.ofNat byte.toNat) ∘ fun c : Char => UInt8.ofNat c.toNat) c = c := by
    intro c member
    have small : c.toNat < 256 := Nat.lt_trans (ascii c member) (by decide)
    simp only [Function.comp, UInt8.toNat_ofNat_of_lt' small, Char.ofNat_toNat]
  rw [List.map_congr_left same, List.map_id', String.ofList_toList]

namespace Code

/-- A code is shown as ASCII digits. -/
theorem ofText_text (code : Code) : Bytes.ofText code.text =
    (decimalDigits code.digits code.value).map fun c => UInt8.ofNat c.toNat := by
  rw [text, Bytes.ofText_ofList, Bytes.ofChars_of_ascii]
  intro c member
  exact Nat.lt_of_le_of_lt (decimal_of_mem member).2 (by decide)

/-- The digits of a code are single bytes. -/
theorem toNat_of_mem {code : Code} {c : Char} (member : c ∈ decimalDigits code.digits code.value) :
    (UInt8.ofNat c.toNat).toNat = c.toNat := by
  have high := (decimal_of_mem member).2
  exact UInt8.toNat_ofNat_of_lt' (Nat.lt_of_le_of_lt high (by decide))

/-- A code can be typed. -/
theorem isPrintable_text (code : Code) :
    (Bytes.ofText code.text).all Keyboard.isPrintable = true := by
  rw [ofText_text, List.all_map, List.all_eq_true]
  intro c member
  obtain ⟨low, high⟩ := decimal_of_mem member
  simp only [Function.comp, Keyboard.isPrintable, Bool.and_eq_true, decide_eq_true_eq,
    UInt8.le_iff_toNat_le, toNat_of_mem member, UInt8.reduceToNat]
  omega

/-- A code with digits is shown as some bytes. -/
theorem ofText_text_ne_nil {code : Code} (digits : 1 ≤ code.digits) :
    Bytes.ofText code.text ≠ [] := by
  rw [ofText_text]
  refine List.ne_nil_of_length_pos ?_
  rw [List.length_map, length_decimalDigits]
  exact digits

/-- What the keyboard has typed for a code is the text of that code. -/
theorem textOf_ofText_text (code : Code) : Keyboard.textOf (Bytes.ofText code.text) = code.text := by
  refine Keyboard.textOf_ofText fun c member => ?_
  rw [text, String.toList_ofList] at member
  exact Nat.lt_of_le_of_lt (decimal_of_mem member).2 (by decide)

end Code

namespace Traces

/-- The traces after a line has been printed. -/
def printLine (traces : Traces) (line : String) : Traces :=
  { traces with transcript := traces.transcript ++ (line ++ "\r\n") }

/-- The traces after the code of a counter value has been delivered. -/
def deliver (traces : Traces) (code : Code) (counter : UInt64) : Traces :=
  match traces.typed? with
  | none => traces.printLine (Delivery.printedLine code)
  | some typed =>
    { traces with typed? := some (Keyboard.remember code.text typed) }.printLine
      (Delivery.typedLine code counter)

/-- A delivery does not touch the store. -/
theorem store_deliver (traces : Traces) (code : Code) (counter : UInt64) :
    (traces.deliver code counter).store = traces.store := by
  unfold deliver
  split <;> rfl

end Traces

namespace Code

/-- What comes of deriving a code from a secret: the keyed-hash unit takes keys of one to 64
bytes. -/
def derive (secret : Bytes) (counter : UInt64) (digits : Nat) : Except Fault Code :=
  if secret = [] then .error (.rejected .reserve)
  else if MacUnit.maxKeyLength < secret.length then .error (.rejected .size)
  else truncate (Hmac.mac secret (movingFactor counter)) digits

variable {secret : Bytes} {counter : UInt64} {digits : Nat} {code : Code}

/-- For a secret that fits, a code is derived from its digest of the moving factor. -/
theorem derive_of_fit (keyed : secret ≠ []) (short : secret.length ≤ MacUnit.maxKeyLength) :
    derive secret counter digits = truncate (Hmac.mac secret (movingFactor counter)) digits := by
  rw [derive, if_neg keyed, if_neg (Nat.not_lt.mpr short)]

/-- A code that has been derived has as many digits as were asked for. -/
theorem digits_of_derive (right : 1 ≤ digits ∧ digits ≤ maxDigits)
    (derived : derive secret counter digits = .ok code) : code.digits = digits := by
  unfold derive at derived
  split at derived
  next => cases derived
  next =>
    split at derived
    next => cases derived
    next =>
      rw [truncate_of_right right] at derived
      cases derived
      rfl

end Code

namespace BoardAct

variable {board : Board}

/-- A code is derived without a trace. -/
theorem ends_generateCode (ready : board.Ready) (secret : Bytes) (counter : UInt64) {digits : Nat}
    (right : 1 ≤ digits ∧ digits ≤ Code.maxDigits) :
    board.Ends board.traces (Code.derive secret counter digits)
      (generateCode secret counter digits board) := by
  have check : Code.checkDigits digits = .ok () := if_pos right
  have first : (Act.ofExcept (Code.checkDigits digits) : BoardAct Unit) board = .ok () board := by
    rw [check]
    rfl
  unfold generateCode
  rw [bind_of_ok first]
  by_cases fit : secret ≠ [] ∧ secret.length ≤ MacUnit.maxKeyLength
  · have digest := ends_computeMac ready (Code.movingFactor counter) fit.1 fit.2
    generalize ran : computeMac secret (Code.movingFactor counter) board = result at digest
    cases digest with
    | ok continues left =>
      rw [bind_of_ok ran, Code.derive_of_fit fit.1 fit.2, Code.truncate_of_right right]
      exact .ok continues left
    | cut charged spent left =>
      rw [bind_of_error ran]
      exact .cut charged spent left
  · have unfit : secret = [] ∨ MacUnit.maxKeyLength < secret.length := by
      by_cases none : secret = []
      · exact .inl none
      · exact .inr (Nat.lt_of_not_le fun short => fit ⟨none, short⟩)
    have refused : Code.derive secret counter digits =
        .error (.rejected (if secret = [] then .reserve else .size)) := by
      by_cases none : secret = [] <;> simp [Code.derive, none, unfit.resolve_left]
    have digest := ends_computeMac_refused ready (Code.movingFactor counter) unfit
    rw [refused]
    generalize ran : computeMac secret (Code.movingFactor counter) board = result at digest
    cases digest with
    | fault continues left =>
      rw [bind_of_error ran]
      exact .fault continues left
    | cut charged spent left =>
      rw [bind_of_error ran]
      exact .cut charged spent left

/-- A code is delivered on whatever there is to deliver it on. -/
theorem ends_deliver (ready : board.Ready) {code : Code} (counter : UInt64)
    (digits : 1 ≤ code.digits) :
    board.Ends (board.traces.deliver code counter)
      (.ok (if board.traces.typed?.isNone then .console else .keyboard))
      (Delivery.deliver code counter board) := by
  cases present : board.keyboard with
  | none =>
    have typed : board.traces.typed? = none := congrArg (Option.map Keyboard.typed) present
    simp only [Delivery.deliver, look, bind, EStateM.bind, present, Option.isNone_none,
      if_true, Traces.deliver, typed]
    exact .ok (continues_print ready _) rfl
  | some keyboard =>
    have typed : board.traces.typed? = some keyboard.typed :=
      congrArg (Option.map Keyboard.typed) present
    have typing := ends_typeText ready present (Code.ofText_text_ne_nil digits)
      (Code.isPrintable_text code)
    rw [Code.textOf_ofText_text] at typing
    simp only [Delivery.deliver, look, bind, EStateM.bind, present, Option.isNone_some,
      Bool.false_eq_true, if_false, Traces.deliver, typed]
    generalize typeText code.text board = result at typing
    cases typing with
    | @ok _ after continues left =>
      refine .ok (continues.trans (continues_print continues.ready _)) ?_
      have printed : (after.printLine (Delivery.typedLine code counter)).traces =
        after.traces.printLine (Delivery.typedLine code counter) := rfl
      exact printed.trans (congrArg (Traces.printLine · _) left)
    | cut charged spent left => exact .cut charged spent left

end BoardAct

end OtpToken
