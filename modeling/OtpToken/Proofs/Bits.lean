import Mathlib.Algebra.Group.Nat.Defs
import OtpToken.Bytes

/-!
# Bit strings

The bits of a number in a fixed width, most significant bit first. Numbers that are
written in groups of bits, as bytes or as the values of base32 symbols, are the groups'
bits in a row (`bits_foldl`), which is what regrouping them comes down to.
-/

namespace OtpToken

/-- The lowest `width` bits of a number, most significant bit first. -/
def bits : (width number : Nat) → List Bool
  | 0, _ => []
  | width + 1, number => bits width (number / 2) ++ [number % 2 == 1]

/-- A number has as many bits as are asked for. -/
@[simp] theorem length_bits (width number : Nat) : (bits width number).length = width := by
  induction width generalizing number with
  | zero => rfl
  | succ width ih => simp [bits, ih]

/-- The bits of a number are those of its upper part, followed by those of its lower part. -/
theorem bits_add (front back number : Nat) :
    bits (front + back) number = bits front (number / 2 ^ back) ++ bits back number := by
  induction back generalizing number with
  | zero => simp [bits]
  | succ back ih =>
    have halved : number / 2 / 2 ^ back = number / 2 ^ (back + 1) := by
      rw [Nat.div_div_eq_div_mul, Nat.pow_succ, Nat.mul_comm]
    rw [← Nat.add_assoc, bits, bits, ih, halved, List.append_assoc]

/-- Only the lowest bits matter. -/
theorem bits_mod (width number : Nat) : bits width (number % 2 ^ width) = bits width number := by
  induction width generalizing number with
  | zero => rfl
  | succ width ih =>
    have halved : number % 2 ^ (width + 1) / 2 = number / 2 % 2 ^ width := by
      rw [Nat.pow_succ, Nat.mul_comm, Nat.mod_mul_right_div_self]
    have lowest : number % 2 ^ (width + 1) % 2 = number % 2 :=
      Nat.mod_mod_of_dvd number ⟨2 ^ width, by rw [Nat.pow_succ, Nat.mul_comm]⟩
    rw [bits, bits, halved, lowest, ih]

/-- A group of bits behind a number. -/
theorem bits_mul_add {width group number value : Nat} (small : value < 2 ^ group) :
    bits (width + group) (2 ^ group * number + value) = bits width number ++ bits group value := by
  have above : (2 ^ group * number + value) / 2 ^ group = number := by
    rw [Nat.mul_add_div (Nat.two_pow_pos group), Nat.div_eq_of_lt small, Nat.add_zero]
  rw [bits_add, above, ← bits_mod group (2 ^ group * number + value), Nat.mul_add_mod,
    bits_mod group value]

/-- The first bits of a number are those of the number shifted down. -/
theorem take_bits {count width number : Nat} (fits : count ≤ width) :
    (bits width number).take count = bits count (number >>> (width - count)) := by
  have split := bits_add count (width - count) number
  rw [Nat.add_sub_cancel' fits] at split
  rw [split, List.take_left' (length_bits _ _), Nat.shiftRight_eq_div_pow]

/-- Groups of bits behind a number. -/
theorem bits_foldl {group : Nat} {values : List Nat} (small : ∀ value ∈ values, value < 2 ^ group)
    (width start : Nat) :
    bits (width + group * values.length)
        (values.foldl (fun number value => 2 ^ group * number + value) start) =
      bits width start ++ values.flatMap (bits group) := by
  induction values generalizing width start with
  | nil => simp
  | cons value rest ih =>
    have regrouped : width + group * (value :: rest).length =
        width + group + group * rest.length := by
      rw [List.length_cons, Nat.mul_succ]
      omega
    rw [regrouped, List.foldl_cons,
      ih (fun other member => small other (List.mem_cons_of_mem value member)),
      bits_mul_add (small value List.mem_cons_self), List.flatMap_cons, List.append_assoc]

/-- Numbers that fit are told apart by their bits. -/
theorem eq_of_bits_eq {width first second : Nat} (smallFirst : first < 2 ^ width)
    (smallSecond : second < 2 ^ width) (same : bits width first = bits width second) :
    first = second := by
  induction width generalizing first second with
  | zero => rw [Nat.pow_zero] at smallFirst smallSecond; omega
  | succ width ih =>
    rw [Nat.pow_succ] at smallFirst smallSecond
    obtain ⟨halves, lowest⟩ := List.append_inj' same rfl
    have half : first / 2 = second / 2 := ih (by omega) (by omega) halves
    have parity : (first % 2 == 1) = (second % 2 == 1) := by simpa using lowest
    rcases Nat.mod_two_eq_zero_or_one first with even | odd <;>
      rcases Nat.mod_two_eq_zero_or_one second with even' | odd' <;>
      simp_all <;> omega

/-- The bits of a byte string, most significant bit of every byte first. -/
def Bytes.bits (bytes : Bytes) : List Bool :=
  bytes.flatMap fun byte => OtpToken.bits 8 byte.toNat

/-- The bits of the bytes of a number are the bits of the number. -/
theorem bits_bigEndian (width number : Nat) :
    Bytes.bits (bigEndian width number) = bits (8 * width) number := by
  induction width generalizing number with
  | zero => rfl
  | succ width ih =>
    have last : Bytes.bits [UInt8.ofNat number] = bits 8 number := by
      rw [Bytes.bits, List.flatMap_singleton, UInt8.toNat_ofNat', bits_mod]
    have front : Bytes.bits (bigEndian width (number / 256)) =
        bits (8 * width) (number / 2 ^ 8) := ih _
    have joined : Bytes.bits (bigEndian width (number / 256) ++ [UInt8.ofNat number]) =
        Bytes.bits (bigEndian width (number / 256)) ++ Bytes.bits [UInt8.ofNat number] :=
      List.flatMap_append
    rw [bigEndian, joined, front, last, Nat.mul_succ, bits_add]

/-- The bits of a byte string are those of the number it is. -/
theorem Bytes.bits_eq (bytes : Bytes) :
    bytes.bits = OtpToken.bits (8 * bytes.length) (ofBigEndian bytes) := by
  have small : ∀ value ∈ bytes.map UInt8.toNat, value < 2 ^ 8 := by
    intro value member
    obtain ⟨byte, _, rfl⟩ := List.mem_map.mp member
    exact byte.toNat_lt
  have grouped := bits_foldl small 0 0
  rw [Nat.zero_add, List.length_map, List.foldl_map, List.flatMap_map] at grouped
  exact grouped.symm

/-- Bytes of one length with the same bits are the same. -/
theorem Bytes.bits_inj {first second : Bytes} (length : first.length = second.length)
    (same : first.bits = second.bits) : first = second := by
  induction first generalizing second with
  | nil => exact (List.length_eq_zero_iff.mp length.symm).symm
  | cons byte rest ih =>
    cases second with
    | nil => cases length
    | cons other rest' =>
      obtain ⟨heads, tails⟩ := List.append_inj same ((length_bits 8 _).trans (length_bits 8 _).symm)
      have head : byte = other :=
        UInt8.toNat_inj.mp (eq_of_bits_eq byte.toNat_lt other.toNat_lt heads)
      rw [head, ih (Nat.succ.inj length) tails]

end OtpToken
