import OtpToken.Code

/-!
# Codes in decimal

The four bytes that a digest names lie inside it, and hold a number of 31 bits. Its lowest decimal
digits are the code: as many as were asked for, leading zeros included, so that a shorter code of a
digest is the end of every longer one (`truncate_shown`).
-/

namespace OtpToken

/-- The number that decimal digits denote. -/
def decimalValue (digits : List Char) : Nat :=
  digits.foldl (fun value c => 10 * value + (c.toNat - '0'.toNat)) 0

/-- One more digit makes ten times the value, and adds its own. -/
theorem decimalValue_concat (digits : List Char) (c : Char) :
    decimalValue (digits ++ [c]) = 10 * decimalValue digits + (c.toNat - '0'.toNat) := by
  rw [decimalValue, List.foldl_append]
  rfl

/-- Decimal digits denote the number they were taken of, less its higher digits. -/
theorem decimalValue_decimalDigits (count value : Nat) :
    decimalValue (decimalDigits count value) = value % decimalCount count := by
  induction count generalizing value with
  | zero => exact (Nat.mod_one value).symm
  | succ count ih =>
    have lowest : (Nat.digitChar (value % 10)).toNat - '0'.toNat = value % 10 := by
      rw [Nat.toNat_digitChar_of_lt_ten (Nat.mod_lt value (by decide))]
      exact Nat.add_sub_cancel_left '0'.toNat (value % 10)
    have power : decimalCount (count + 1) = 10 * decimalCount count := Nat.pow_succ'
    rw [decimalDigits, decimalValue_concat, ih, lowest, power, Nat.mod_mul, Nat.add_comm]

/-- The lowest digits of a number stand behind those of what is left without them. -/
theorem decimalDigits_add (front count value : Nat) :
    decimalDigits (front + count) value =
      decimalDigits front (value / decimalCount count) ++ decimalDigits count value := by
  induction count generalizing value with
  | zero => rw [Nat.add_zero, decimalCount, Nat.div_one, decimalDigits, List.append_nil]
  | succ count ih =>
    have power : decimalCount (count + 1) = 10 * decimalCount count := Nat.pow_succ'
    rw [← Nat.add_assoc, decimalDigits, ih, power, ← Nat.div_div_eq_div_mul, List.append_assoc]
    rfl

/-- Higher digits do not show in the lowest ones. -/
theorem decimalDigits_mod (count more value : Nat) :
    decimalDigits count (value % decimalCount (count + more)) = decimalDigits count value := by
  induction count generalizing value with
  | zero => rfl
  | succ count ih =>
    have power : decimalCount (count + 1 + more) = 10 * decimalCount (count + more) := by
      rw [Nat.add_right_comm]
      exact Nat.pow_succ'
    rw [decimalDigits, decimalDigits, power, Nat.mod_mul_right_div_self, ih,
      Nat.mod_mul_right_mod]

/-- The last digits of a number do not depend on how many stand before them. -/
theorem drop_decimalDigits (front count value : Nat) :
    (decimalDigits (front + count) value).drop front = decimalDigits count value := by
  rw [decimalDigits_add, List.drop_left' (length_decimalDigits ..)]

namespace Code

section

variable {digest : Digest} {digits : Nat} {code : Code}

/-- The digits of a number are ASCII digits. -/
theorem decimal_of_mem {count value : Nat} {c : Char} (member : c ∈ decimalDigits count value) :
    0x30 ≤ c.toNat ∧ c.toNat ≤ 0x39 := by
  induction count generalizing value with
  | zero => cases member
  | succ count ih =>
    rcases List.mem_append.mp member with h | h
    · exact ih h
    · have digit : ∀ digit < 10, 0x30 ≤ digit.digitChar.toNat ∧ digit.digitChar.toNat ≤ 0x39 := by
        decide
      rw [List.mem_singleton.mp h]
      exact digit _ (Nat.mod_lt _ (by decide))

/-- With 1 to 9 digits, a code is the truncated digest to as many digits. -/
theorem truncate_of_right (right : 1 ≤ digits ∧ digits ≤ maxDigits) :
    truncate digest digits = .ok ⟨truncated digest % decimalCount digits, digits,
      Nat.mod_lt _ (decimalCount_pos digits)⟩ := by
  rw [truncate, checkDigits, if_pos right]
  rfl

/-- With no digits or too many, no code is made. -/
theorem truncate_of_wrong (wrong : ¬(1 ≤ digits ∧ digits ≤ maxDigits)) :
    truncate digest digits = .error (.unsupportedDigits digits) := by
  rw [truncate, checkDigits, if_neg wrong]
  rfl

/-- No code is made exactly if no digits or more than 9 are asked for, and the fault says how many.
-/
theorem truncate_eq_error_iff {fault : Fault} :
    truncate digest digits = .error fault ↔
      (digits = 0 ∨ 9 < digits) ∧ fault = .unsupportedDigits digits := by
  by_cases right : 1 ≤ digits ∧ digits ≤ maxDigits
  · have bounds : 1 ≤ digits ∧ digits ≤ 9 := right
    rw [truncate_of_right right]
    simp only [reduceCtorEq, false_iff, not_and]
    omega
  · have bounds : ¬(1 ≤ digits ∧ digits ≤ 9) := right
    rw [truncate_of_wrong right, Except.error.injEq]
    exact ⟨fun same => ⟨by omega, same.symm⟩, fun named => named.2.symm⟩

/-- A code that has been cut has digits. -/
theorem digits_pos (cut : truncate digest digits = .ok code) : 1 ≤ code.digits := by
  by_cases right : 1 ≤ digits ∧ digits ≤ maxDigits
  · rw [truncate_of_right right] at cut
    cases cut
    exact right.1
  · rw [truncate_of_wrong right] at cut
    cases cut

/-- A code is shown as the lowest digits of the number that the digest holds. -/
theorem toList_text (cut : truncate digest digits = .ok code) :
    code.text.toList = decimalDigits digits (truncated digest) := by
  by_cases right : 1 ≤ digits ∧ digits ≤ maxDigits
  · rw [truncate_of_right right] at cut
    cases cut
    exact String.toList_ofList.trans (decimalDigits_mod digits 0 _)
  · rw [truncate_of_wrong right] at cut
    cases cut

/-- A code is shown with as many digits as have been asked for. -/
theorem length_text (cut : truncate digest digits = .ok code) : code.text.length = digits := by
  rw [← String.length_toList, toList_text cut, length_decimalDigits]

/-- The fewer digits of a number are the last ones of the more. -/
theorem toList_text_eq_drop {fewer more : Nat} {short long : Code} (le : fewer ≤ more)
    (cutShort : truncate digest fewer = .ok short) (cutLong : truncate digest more = .ok long) :
    short.text.toList = long.text.toList.drop (more - fewer) := by
  obtain ⟨front, rfl⟩ := Nat.exists_eq_add_of_le' le
  rw [toList_text cutShort, toList_text cutLong, Nat.add_sub_cancel, drop_decimalDigits]

/-- A power of ten that a code is cut by fits 32 bits. -/
theorem decimalCount_lt (narrow : digits ≤ maxDigits) : decimalCount digits < UInt32.size :=
  Nat.lt_of_le_of_lt (Nat.pow_le_pow_right (by decide) narrow) (by decide)

end

/-- The last byte of a digest tells where the four bytes start. -/
theorem offset_eq (digest : Digest) (last : 31 < digest.val.length) :
    offset digest = digest.val[31].toNat % 16 := by
  have final : digest.val.getLastD 0 = digest.val[31] := by
    rw [List.getLastD_eq_getLast?, List.getLast?_eq_getElem?, digest.property]
    exact congrArg (·.getD 0) (List.getElem?_eq_getElem last)
  rw [offset, final]

/-- The four bytes lie inside the digest. -/
theorem offset_inside (digest : Digest) : offset digest + 3 < digest.val.length := by
  have size : digest.val.length = 32 := digest.property
  have low : offset digest < 16 := Nat.mod_lt _ (by decide)
  omega

/-- The number is made of four bytes, of which the first one counts without its top bit. -/
theorem truncated_eq (digest : Digest) (inside : offset digest + 3 < digest.val.length) :
    truncated digest =
      (digest.val[offset digest] &&& 0x7f).toNat * 0x1000000 +
        digest.val[offset digest + 1].toNat * 0x10000 +
        digest.val[offset digest + 2].toNat * 0x100 + digest.val[offset digest + 3].toNat := by
  have four : (digest.val.drop (offset digest)).take 4 =
      [digest.val[offset digest], digest.val[offset digest + 1], digest.val[offset digest + 2],
        digest.val[offset digest + 3]] := by
    rw [List.drop_eq_getElem_cons, List.drop_eq_getElem_cons, List.drop_eq_getElem_cons,
      List.drop_eq_getElem_cons]
    rfl
  have masked : (digest.val[offset digest] &&& 0x7f).toNat = digest.val[offset digest].toNat % 128 :=
    (UInt8.toNat_and ..).trans (Nat.and_two_pow_sub_one_eq_mod _ 7)
  have second := digest.val[offset digest + 1].toNat_lt
  have third := digest.val[offset digest + 2].toNat_lt
  have fourth := digest.val[offset digest + 3].toNat_lt
  rw [truncated, four, masked]
  simp only [ofBigEndian, List.foldl_cons, List.foldl_nil]
  omega

/-- Every digest has a code of one to nine digits and of no other number of them, which is shown as
just so many digits. These are the lowest ones of the number that the digest holds, and nothing that
is computed on the way leaves the digest or its 32 bits. -/
theorem truncate_shown (digest : Digest) :
    (∃ last : 31 < digest.val.length, offset digest = digest.val[31].toNat % 16) ∧
    (∀ digits fault, truncate digest digits = .error fault ↔
      (digits = 0 ∨ 9 < digits) ∧ fault = .unsupportedDigits digits) ∧
    (∃ inside : offset digest + 3 < digest.val.length,
      ∀ digits, 1 ≤ digits → digits ≤ 9 → Nat.pow 10 digits < UInt32.size ∧
        ∃ code, truncate digest digits = .ok code ∧ code.text.length = digits ∧
          (∀ c ∈ code.text.toList, '0' ≤ c ∧ c ≤ '9') ∧
          decimalValue code.text.toList =
            ((digest.val[offset digest] &&& 0x7f).toNat * 0x1000000 +
              digest.val[offset digest + 1].toNat * 0x10000 +
              digest.val[offset digest + 2].toNat * 0x100 +
              digest.val[offset digest + 3].toNat) % Nat.pow 10 digits) ∧
    ∀ fewer more short long, fewer ≤ more → truncate digest fewer = .ok short →
      truncate digest more = .ok long → short.text.length = fewer ∧
        short.text.toList = long.text.toList.drop (more - fewer) := by
  have last : 31 < digest.val.length := by rw [digest.property]; decide
  have inside := offset_inside digest
  refine ⟨⟨last, offset_eq digest last⟩, fun _ _ => truncate_eq_error_iff, ⟨inside, ?_⟩, ?_⟩
  · intro digits positive narrow
    obtain ⟨code, cut⟩ : ∃ code, truncate digest digits = .ok code :=
      ⟨_, truncate_of_right ⟨positive, narrow⟩⟩
    refine ⟨decimalCount_lt narrow, code, cut, length_text cut, ?_, ?_⟩
    · intro c member
      rw [toList_text cut] at member
      exact decimal_of_mem member
    · rw [toList_text cut, decimalValue_decimalDigits, truncated_eq digest inside]
      rfl
  · intro fewer more short long le cutShort cutLong
    exact ⟨length_text cutShort, toList_text_eq_drop le cutShort cutLong⟩

/-- A digest whose last byte points at its eleventh. -/
def pointing : Digest :=
  ⟨[0x1f, 0x86, 0x98, 0x69, 0x0e, 0x02, 0xca, 0x16, 0x61, 0x85, 0x50, 0xef, 0x7f, 0x19, 0xda, 0x8e,
    0x94, 0x5b, 0x55, 0x5a, 0, 0, 0, 0, 0, 0, 0, 0, 0, 0, 0, 0x5a], by decide⟩

/-- A digest of a small number. -/
def sparse : Digest := ⟨[0, 0, 0, 42] ++ List.replicate 28 0, by decide⟩

/-- A number of ten digits is cut, and a small one is shown with zeros in front. -/
theorem truncate_shown_padded :
    (∃ code, truncate pointing 6 = .ok code ∧ decimalValue code.text.toList = 872921) ∧
    (∃ short long, truncate sparse 3 = .ok short ∧ truncate sparse 8 = .ok long ∧
      decimalValue short.text.toList = 42 ∧ long.text.length = 8 ∧
      short.text.toList = long.text.toList.drop 5) ∧
    truncate sparse 10 = .error (.unsupportedDigits 10) := by
  obtain ⟨_, _, ⟨_, shown⟩, _⟩ := truncate_shown pointing
  obtain ⟨_, refused, ⟨_, padded⟩, suffix⟩ := truncate_shown sparse
  obtain ⟨_, code, cut, _, _, value⟩ := shown 6 (by decide) (by decide)
  obtain ⟨_, short, cutShort, _, _, low⟩ := padded 3 (by decide) (by decide)
  obtain ⟨_, long, cutLong, length, _⟩ := padded 8 (by decide) (by decide)
  rw [← truncated_eq] at value low
  have last := (suffix 3 8 short long (by decide) cutShort cutLong).2
  exact ⟨⟨code, cut, value.trans (by decide)⟩,
    ⟨short, long, cutShort, cutLong, low.trans (by decide), length, last⟩,
    (refused 10 _).mpr ⟨by decide, rfl⟩⟩

end Code

end OtpToken
