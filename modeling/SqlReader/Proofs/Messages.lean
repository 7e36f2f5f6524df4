import SqlReader.Proofs.Session.Truncation
import SqlReader.Proofs.Text.Runs
import SqlReader.Settings

/-! The texts of errors.  Each of them tells which error it is of, with the numbers and the names in
it; and of a session none is shown but that its output is full or its input is no text. -/

namespace SqlReader

/-! ### Misuse of a log -/

namespace EditLog

variable {log : EditLog} {mark : Mark}

/-- A node cannot be exited where none is open, and that is what the text says. -/
theorem exit_refused : log.depth = 0 ↔ ∃ violation, log.exit = .error violation ∧
    violation.message = "exit_node called while the root node is open" := by
  rw [exit]
  split
  · exact iff_of_true ‹_› ⟨.exitAtRoot, rfl, rfl⟩
  · refine iff_of_false ‹_› ?_
    rintro ⟨violation, hError, -⟩
    cases hError

/-- The text tells the mark and the length of the log that it lies beyond. -/
theorem rollback_refused : log.edits.size < mark.length ↔ ∃ violation,
    log.rollback mark = .error violation ∧
      violation.message = "rollback to mark " ++ toString mark.length ++ " beyond log of " ++
        toString log.edits.size ++ " edits" := by
  rw [rollback]
  split
  · refine iff_of_false (Nat.not_lt.mpr ‹_›) ?_
    rintro ⟨violation, hError, -⟩
    cases hError
  · exact iff_of_true (Nat.lt_of_not_le ‹_›) ⟨.markBeyondLog _ _, rfl, rfl⟩

end EditLog

theorem Violation.message_injective {v w : Violation} (h : v.message = w.message) : v = w := by
  have hHead (mark edits : Nat) : exitAtRoot.message ≠ (markBeyondLog mark edits).message := by
    intro h
    unfold message at h
    have hChars := congrArg (·.toList.head?) h
    simp at hChars
  cases v with
  | exitAtRoot =>
    cases w with
    | exitAtRoot => rfl
    | markBeyondLog mark edits => exact absurd h (hHead mark edits)
  | markBeyondLog mark edits =>
    cases w with
    | exitAtRoot => exact absurd h.symm (hHead mark edits)
    | markBeyondLog mark' edits' =>
      unfold message at h
      simp only [String.append_assoc, String.append_right_inj] at h
      obtain ⟨rfl, hEdits⟩ := toString_append_injective (by simp) (by simp) h
      obtain ⟨rfl, -⟩ := toString_between_injective (by simp) (by simp) hEdits
      rfl

/-! ### Failures of a session -/

/-- The text of a misuse begins with the step that has been refused. -/
theorem Violation.message_head (v : Violation) : v.message.toList.head? ≠ some 'I' := by
  cases v with
  | exitAtRoot => decide
  | markBeyondLog mark edits =>
    unfold message
    simp

theorem Failure.message_injective {f g : Failure} (h : f.message = g.message) : f = g := by
  have hMisuse {v : Violation} {text : String} (hText : text.toList.head? = some 'I') :
      (misuse v).message ≠ text :=
    fun h => v.message_head ((congrArg (·.toList.head?) h).trans hText)
  have hIO : outputFull.message ≠ notText.message := by decide
  cases f with
  | outputFull =>
    cases g with
    | outputFull => rfl
    | notText => exact absurd h hIO
    | misuse => exact absurd h.symm (hMisuse (by decide))
  | notText =>
    cases g with
    | outputFull => exact absurd h.symm hIO
    | notText => rfl
    | misuse => exact absurd h.symm (hMisuse (by decide))
  | misuse v =>
    cases g with
    | outputFull | notText => exact absurd h (hMisuse (by decide))
    | misuse w => rw [Violation.message_injective h]

namespace Session

variable {α : Type} {x : Session α} {acts : List Act} {result : Except Failure α}
  {room : Option Nat} {failure : Failure} {settings : Settings}

/-- A session fails as it does by itself, or because its output is full. -/
theorem StopsWhenFull.failure_cases (h : x.StopsWhenFull acts result)
    (hFailure : (x.run (.empty room)).1 = .error failure) :
    result = .error failure ∨ failure = .outputFull ∧ ∃ n, room = some n ∧
      n < (written acts).size := by
  cases room with
  | none =>
    rw [h.endless] at hFailure
    exact .inl hFailure
  | some n =>
    by_cases hFits : (written acts).size ≤ n
    · rw [h.fits n hFits] at hFailure
      exact .inl hFailure
    · obtain ⟨before, text, after, -, -, -, -, hRun⟩ := h.full n (Nat.lt_of_not_le hFits)
      rw [hRun] at hFailure
      exact .inr ⟨(Except.error.inj hFailure).symm, n, rfl, Nat.lt_of_not_le hFits⟩

/-- A report fails only where its output is full. -/
theorem report_failure {text : String}
    (h : ((report settings text).run (.empty room)).1 = .error failure) :
    room.isSome ∧ failure.message = "I/O error: failed to write whole buffer" := by
  obtain ⟨acts, hActs⟩ := report_performs settings text
  rcases hActs.stopsWhenFull.failure_cases h with hOwn | ⟨rfl, n, rfl, -⟩
  · cases hOwn
  · exact ⟨rfl, rfl⟩

/-- A dialogue fails where its output is full, and where a line of its input is no text. -/
theorem dialogue_failure {input : ByteArray}
    (h : ((dialogue settings input).run (.empty room)).1 = .error failure) :
    room.isSome ∧ failure.message = "I/O error: failed to write whole buffer" ∨
      failure.message = "I/O error: stream did not contain valid UTF-8" := by
  obtain ⟨acts, result, hActs, hOwn⟩ := dialogue_straight settings input
  rcases hActs.stopsWhenFull.failure_cases h with rfl | ⟨rfl, n, rfl, -⟩
  · obtain rfl := List.mem_singleton.mp (hOwn failure rfl)
    exact .inr rfl
  · exact .inl ⟨rfl, rfl⟩

end Session

end SqlReader
