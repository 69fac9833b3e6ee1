/-!
# Rows

A row has places that are numbered from zero, and each place is on or off. Only the
places that differ from the rest are written down, so a long row costs no more than a
short one. What setting a place does is said place by place (`get?_set?`).
-/

namespace OtpToken

/-- Places that are on or off. -/
structure Row where
  size : Nat
  /-- What the places have in common. -/
  common : Bool
  /-- The places that differ from the others, in ascending order. -/
  exceptions : List Nat
  deriving DecidableEq, Repr

namespace Row

/-- A row of places that are all on, or all off. -/
def all (size : Nat) (on : Bool) : Row := ⟨size, on, []⟩

/-- Whether a place is on, if there is such a place. -/
def get? (row : Row) (place : Nat) : Option Bool :=
  if place < row.size then some (row.common != decide (place ∈ row.exceptions)) else none

/-- Puts a number into an ascending list, once. -/
def insertOnce (number : Nat) : List Nat → List Nat
  | [] => [number]
  | first :: rest =>
    if number < first then number :: first :: rest
    else if number = first then first :: rest
    else first :: insertOnce number rest

/-- What has been inserted is among the numbers, and nothing else is new. -/
@[simp] theorem mem_insertOnce {number other : Nat} {numbers : List Nat} :
    other ∈ insertOnce number numbers ↔ other = number ∨ other ∈ numbers := by
  induction numbers with
  | nil => simp [insertOnce]
  | cons first rest ih =>
    unfold insertOnce
    split
    next => simp
    next =>
      split
      next same => simp [same]
      next => simp [ih, or_left_comm]

/-- Turns a place on or off, if there is such a place. -/
def set? (row : Row) (place : Nat) (on : Bool) : Option Row :=
  if place < row.size then
    some { row with
      exceptions :=
        if on = row.common then row.exceptions.filter (· != place)
        else insertOnce place row.exceptions }
  else none

/-- Turns all places on, or all off. -/
def setAll (row : Row) (on : Bool) : Row := all row.size on

/-- The places that are on, in ascending order. -/
def placesOn (row : Row) : List Nat :=
  if row.common then (List.range row.size).filter (· ∉ row.exceptions)
  else row.exceptions.filter (· < row.size)

/-- Every place of a row that is all on or all off is so. -/
@[simp] theorem get?_all (size place : Nat) (on : Bool) :
    (all size on).get? place = if place < size then some on else none := by
  simp [get?, all]

/-- A row has no places from its size on. -/
theorem get?_eq_none_iff {row : Row} {place : Nat} :
    row.get? place = none ↔ row.size ≤ place := by
  simp [get?]

/-- A place that a row does not have cannot be set. -/
theorem set?_eq_none_iff {row : Row} {place : Nat} {on : Bool} :
    row.set? place on = none ↔ row.size ≤ place := by
  simp [set?]

/-- Setting a place keeps the size of a row. -/
theorem size_set? {row after : Row} {place : Nat} {on : Bool}
    (h : row.set? place on = some after) : after.size = row.size := by
  unfold set? at h
  split at h <;> cases h
  rfl

/-- A place that has been set is as it was set, and every other one as it was before. -/
theorem get?_set? {row after : Row} {place : Nat} {on : Bool}
    (h : row.set? place on = some after) (other : Nat) :
    after.get? other = if other = place then some on else row.get? other := by
  unfold set? at h
  split at h <;> cases h
  next inside =>
    by_cases same : on = row.common
    · by_cases here : other = place <;> simp [get?, inside, same, here]
    · by_cases here : other = place <;> cases on <;> simp_all [get?]

/-- The places that are on are those that are read as on. -/
theorem mem_placesOn {row : Row} {place : Nat} :
    place ∈ row.placesOn ↔ row.get? place = some true := by
  unfold placesOn get?
  split <;> simp_all [and_comm]

end Row

end OtpToken
