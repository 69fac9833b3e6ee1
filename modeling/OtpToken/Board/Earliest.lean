/-!
# The earliest of several deadlines

Of entries with a deadline the earliest is chosen, and the first in the list where
several are equally early.
-/

namespace OtpToken

variable {α : Type}

/-- The entry with the least number; the first of these. -/
def earliest? : List (Nat × α) → Option (Nat × α)
  | [] => none
  | entry :: rest =>
    match earliest? rest with
    | none => some entry
    | some other => if other.1 < entry.1 then some other else some entry

/-- Only among no entries there is no earliest one. -/
theorem earliest?_eq_none_iff {entries : List (Nat × α)} :
    earliest? entries = none ↔ entries = [] := by
  cases entries with
  | nil => simp [earliest?]
  | cons entry rest =>
    simp only [earliest?, reduceCtorEq, iff_false]
    split <;> (try split) <;> simp

/-- The entry chosen is one of the entries. -/
theorem mem_of_earliest?_eq_some {entries : List (Nat × α)} {found : Nat × α}
    (h : earliest? entries = some found) : found ∈ entries := by
  induction entries with
  | nil => simp [earliest?] at h
  | cons entry rest ih =>
    simp only [earliest?] at h
    cases hrest : earliest? rest with
    | none => simp_all
    | some other =>
      simp only [hrest] at h
      split at h
      next => exact List.mem_cons_of_mem _ (ih (hrest.trans h))
      next => simp_all

/-- No entry has a lesser number than the one chosen. -/
theorem le_of_earliest?_eq_some {entries : List (Nat × α)} {found : Nat × α}
    (h : earliest? entries = some found) {entry : Nat × α} (member : entry ∈ entries) :
    found.1 ≤ entry.1 := by
  induction entries generalizing found with
  | nil => simp [earliest?] at h
  | cons first rest ih =>
    simp only [earliest?] at h
    cases hrest : earliest? rest with
    | none =>
      have : rest = [] := earliest?_eq_none_iff.mp hrest
      simp_all
    | some other =>
      simp only [hrest] at h
      rcases List.mem_cons.mp member with rfl | later
      · split at h <;> cases h <;> omega
      · have := ih hrest later
        split at h <;> cases h <;> omega

end OtpToken
