import OtpToken.Bytes

/-!
# Parts of byte strings

What slices of a block or of several blocks in a row come to.
-/

namespace OtpToken.Block

/-- A slice in the middle of a byte string is what stands there. -/
theorem slice_of_append {size offset : Nat} (front back : Bytes) (block : Block size)
    (start : front.length = offset)
    (fits : offset + size ≤ (front ++ block.val ++ back).length) :
    slice size offset (front ++ block.val ++ back) fits = block := by
  apply Subtype.ext
  change ((front ++ block.val ++ back).drop offset).take size = block.val
  rw [List.append_assoc, ← start, List.drop_left, List.take_left' block.property]

/-- The slice of a whole block is that block. -/
theorem slice_self {size : Nat} (block : Block size) (fits : 0 + size ≤ block.val.length) :
    slice size 0 block.val fits = block := by
  apply Subtype.ext
  change (block.val.drop 0).take size = block.val
  rw [List.drop_zero, List.take_of_length_le (Nat.le_of_eq block.property)]

end OtpToken.Block
