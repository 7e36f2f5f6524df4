import Mathlib.Data.List.TakeWhile

/-! Runs of elements that pass a test, told from what follows them by its first element.  A number
is written as a run of digits. -/

namespace SqlReader

variable {α : Type} {test : α → Bool} {run run' rest rest' : List α}

theorem takeWhile_append_of_ends (h : ∀ a ∈ run, test a = true)
    (hEnds : ∀ a ∈ rest.head?, test a = false) :
    (run ++ rest).takeWhile test = run ∧ (run ++ rest).dropWhile test = rest := by
  rw [List.takeWhile_append_of_pos h, List.dropWhile_append_of_pos h]
  cases rest with
  | nil => simp
  | cons a rest => simp [hEnds a (by simp)]

/-- A run and what follows it can be read off the two together. -/
theorem run_append_injective (h : ∀ a ∈ run, test a = true) (h' : ∀ a ∈ run', test a = true)
    (hEnds : ∀ a ∈ rest.head?, test a = false) (hEnds' : ∀ a ∈ rest'.head?, test a = false)
    (hSame : run ++ rest = run' ++ rest') : run = run' ∧ rest = rest' := by
  obtain ⟨hTake, hDrop⟩ := takeWhile_append_of_ends h hEnds
  obtain ⟨hTake', hDrop'⟩ := takeWhile_append_of_ends h' hEnds'
  rw [hSame] at hTake hDrop
  exact ⟨hTake.symm.trans hTake', hDrop.symm.trans hDrop'⟩

/-- The same for texts. -/
theorem text_append_injective {test : Char → Bool} {run run' rest rest' : String}
    (h : ∀ c ∈ run.toList, test c = true) (h' : ∀ c ∈ run'.toList, test c = true)
    (hEnds : ∀ c ∈ rest.toList.head?, test c = false)
    (hEnds' : ∀ c ∈ rest'.toList.head?, test c = false)
    (hSame : run ++ rest = run' ++ rest') : run = run' ∧ rest = rest' := by
  have hChars := congrArg String.toList hSame
  rw [String.toList_append, String.toList_append] at hChars
  obtain ⟨hRun, hRest⟩ := run_append_injective h h' hEnds hEnds' hChars
  exact ⟨String.toList_inj.mp hRun, String.toList_inj.mp hRest⟩

/-! ### Numbers -/

theorem isDigit_of_mem_toString {n : Nat} : ∀ c ∈ (toString n).toList, c.isDigit = true := by
  intro c hc
  rw [Nat.toString_eq_ofList_toDigits, String.toList_ofList] at hc
  exact Nat.isDigit_of_mem_toDigits (by decide) (by decide) hc

theorem toString_injective {m n : Nat} (h : toString m = toString n) : m = n := by
  rw [Nat.toString_eq_ofList_toDigits, Nat.toString_eq_ofList_toDigits] at h
  rw [← Nat.ofDigitChars_ten_toDigits (n := m), String.ofList_inj.mp h,
    Nat.ofDigitChars_ten_toDigits]

/-- A number ends at what is no digit. -/
theorem toString_append_injective {m n : Nat} {rest rest' : String}
    (hEnds : ∀ c ∈ rest.toList.head?, c.isDigit = false)
    (hEnds' : ∀ c ∈ rest'.toList.head?, c.isDigit = false)
    (h : toString m ++ rest = toString n ++ rest') : m = n ∧ rest = rest' := by
  obtain ⟨hDigits, hRest⟩ := text_append_injective isDigit_of_mem_toString
    isDigit_of_mem_toString hEnds hEnds' h
  exact ⟨toString_injective hDigits, hRest⟩

/-- A number is read off after what the texts begin with in common. -/
theorem toString_between_injective {m n : Nat} {before rest rest' : String}
    (hEnds : ∀ c ∈ rest.toList.head?, c.isDigit = false)
    (hEnds' : ∀ c ∈ rest'.toList.head?, c.isDigit = false)
    (h : before ++ (toString m ++ rest) = before ++ (toString n ++ rest')) :
    m = n ∧ rest = rest' :=
  toString_append_injective hEnds hEnds' ((String.append_right_inj before).mp h)

end SqlReader
