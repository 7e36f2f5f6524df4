/-! Sets of code points as ascending lists of inclusive ranges, the form in which the tables of
character properties are kept.  The tables are those of Unicode 17.0. -/

namespace SqlReader.Text

/-- Inclusive ranges of code points, ascending and disjoint. -/
abbrev Ranges := List (Nat × Nat)

/-- The code point lies in one of the ranges.  The search ends at the first range that starts
above it. -/
def Ranges.contains : Ranges → Nat → Bool
  | [], _ => false
  | (low, high) :: rest, n =>
    if n < low then false else if n ≤ high then true else Ranges.contains rest n

theorem Ranges.contains_cons (low high n : Nat) (rest : Ranges) :
    Ranges.contains ((low, high) :: rest) n =
      if n < low then false else if n ≤ high then true else Ranges.contains rest n := rfl

/-- A code point that the table contains lies in one of its ranges. -/
theorem Ranges.exists_of_contains {ranges : Ranges} {n : Nat} (h : ranges.contains n = true) :
    ∃ range ∈ ranges, range.1 ≤ n ∧ n ≤ range.2 := by
  induction ranges with
  | nil => cases h
  | cons range rest ih =>
    obtain ⟨low, high⟩ := range
    rw [contains_cons] at h
    split at h
    · cases h
    · split at h
      · exact ⟨(low, high), by simp, by simp; omega, by simpa⟩
      · obtain ⟨found, hFound, hIn⟩ := ih h
        exact ⟨found, by simp [hFound], hIn⟩

end SqlReader.Text
