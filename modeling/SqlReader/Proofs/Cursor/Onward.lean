import SqlReader.Cursor

/-! A cursor only goes on: whatever is taken, whole tokens or characters, the tokens stay the same
and the place moves no further back. -/

namespace SqlReader.Cursor

/-- `d` has the tokens of `c` and stands at the same token or at a later one. -/
structure Onward (c d : Cursor) : Prop where
  tokens : d.tokens = c.tokens
  position : c.place.position ≤ d.place.position

variable {c d e : Cursor}

theorem Onward.refl (c : Cursor) : c.Onward c := ⟨rfl, Nat.le_refl _⟩

theorem Onward.trans (h : c.Onward d) (h' : d.Onward e) : c.Onward e :=
  ⟨h'.tokens.trans h.tokens, Nat.le_trans h.position h'.position⟩

theorem Onward.tokensLeft_le (h : c.Onward d) : d.tokensLeft ≤ c.tokensLeft := by
  have hPosition := h.position
  rw [tokensLeft, tokensLeft, h.tokens]
  omega

theorem onward_advance (c : Cursor) : c.Onward c.advance := by
  refine ⟨rfl, ?_⟩
  unfold advance
  dsimp only
  split <;> omega

/-- A token that is taken is one token less. -/
theorem tokensLeft_advance_lt {texts : List String} (h : c.peekAny texts = true) :
    c.advance.tokensLeft < c.tokensLeft := by
  have hInside : c.place.position < c.tokens.size := by
    refine Nat.lt_of_not_le fun hOut => ?_
    have hCurrent : c.current = .endOfInput := by simp [current, hOut]
    rw [peekAny, atEnd, hCurrent] at h
    cases h
  simp only [tokensLeft, advance, if_pos hInside]
  omega

theorem onward_terminalAny (c : Cursor) (texts : List String) :
    c.Onward (c.terminalAny texts).2 := by
  unfold terminalAny
  split
  · exact onward_advance c
  · exact .refl c

theorem onward_consume (c : Cursor) (test : Char → Bool) : c.Onward (c.consume test).2 := by
  unfold consume
  split
  · exact .refl c
  · dsimp only
    split
    · exact ⟨rfl, Nat.le_refl _⟩
    · exact onward_advance c

end SqlReader.Cursor
