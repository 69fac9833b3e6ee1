import OtpToken.Bytes

/-!
# Tables of values by key

The entries of a table are kept in the order of their keys. A table is seen through
`get?`: after `insert` the new key has the new value and every other key is as it
was.
-/

namespace OtpToken

/-- Keys with their values, in the order of the keys. -/
abbrev Table := List (Bytes × Bytes)

namespace Table

/-- The value of a key. -/
def get? (key : Bytes) : Table → Option Bytes
  | [] => none
  | (other, value) :: rest => if other = key then some value else get? key rest

/-- Gives a key a value, in place of the one it had. -/
def insert (key value : Bytes) : Table → Table
  | [] => [(key, value)]
  | (other, old) :: rest =>
    if other = key then (key, value) :: rest
    else if key < other then (key, value) :: (other, old) :: rest
    else (other, old) :: insert key value rest

/-- An insertion changes the value under its key, and no other. -/
theorem get?_insert (key other value : Bytes) (table : Table) :
    get? other (insert key value table) = if key = other then some value else get? other table := by
  induction table with
  | nil => simp [insert, get?]
  | cons entry rest ih =>
    obtain ⟨first, old⟩ := entry
    simp only [insert]
    split
    next same => subst same; simp only [get?]; split <;> simp_all
    next differ =>
      split
      next => simp only [get?]
      next =>
        simp only [get?, ih]
        split <;> split <;> simp_all

end Table

end OtpToken
