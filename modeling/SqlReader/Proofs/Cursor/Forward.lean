import SqlReader.Proofs.Cursor.Onward

/-! The order of places.  No step takes a cursor to an earlier place, in whatever token it stands
and wherever in it; and a step that takes what it looks for ends at the start of a later token. -/

namespace SqlReader

/-- The place is the other one or comes before it. -/
def Place.UpTo (a b : Place) : Prop :=
  a.position < b.position ∨ a.position = b.position ∧ a.offset ≤ b.offset

theorem Place.UpTo.refl (a : Place) : a.UpTo a := .inr ⟨rfl, Nat.le_refl _⟩

theorem Place.UpTo.trans {a b c : Place} (h : a.UpTo b) (h' : b.UpTo c) : a.UpTo c := by
  unfold Place.UpTo at *
  omega

namespace Cursor

open Text

/-- `d` has the tokens of `c` and a place that is not before the one of `c`. -/
structure Forward (c d : Cursor) : Prop where
  tokens : d.tokens = c.tokens
  place : c.place.UpTo d.place

/-- `d` is at the start of a token that comes after the one of `c`. -/
structure Past (c d : Cursor) : Prop where
  position : c.place.position < d.place.position
  offset : d.place.offset = 0

variable {c d e : Cursor} {test : Char → Bool} {char : Char} {texts : List String}

theorem Forward.refl (c : Cursor) : c.Forward c := ⟨rfl, .refl _⟩

theorem Forward.trans (h : c.Forward d) (h' : d.Forward e) : c.Forward e :=
  ⟨h'.tokens.trans h.tokens, h.place.trans h'.place⟩

theorem Forward.onward (h : c.Forward d) : c.Onward d := by
  refine ⟨h.tokens, ?_⟩
  have hPlace := h.place
  unfold Place.UpTo at hPlace
  omega

theorem Forward.past (h : c.Forward d) (h' : d.Past e) : c.Past e :=
  ⟨Nat.lt_of_le_of_lt h.onward.position h'.position, h'.offset⟩

theorem past_advance (h : c.place.position < c.tokens.size) : c.Past c.advance := by
  refine ⟨?_, rfl⟩
  rw [advance, if_pos h]
  exact Nat.lt_succ_self _

theorem Past.forward (h : c.Past d) (hTokens : d.tokens = c.tokens) : c.Forward d :=
  ⟨hTokens, .inl h.position⟩

/-! ### Steps -/

theorem past_advance_of_peekAny (h : c.peekAny texts = true) : c.Past c.advance := by
  have hLess := tokensLeft_advance_lt h
  refine past_advance ?_
  simp only [tokensLeft] at hLess
  omega

theorem past_terminalAny (h : (c.terminalAny texts).1 = true) :
    c.Past (c.terminalAny texts).2 := by
  unfold terminalAny at h ⊢
  split at h
  · rename_i hPeek
    rw [if_pos hPeek]
    exact past_advance_of_peekAny hPeek
  · cases h

theorem forward_terminalAny (c : Cursor) (texts : List String) :
    c.Forward (c.terminalAny texts).2 := by
  unfold terminalAny
  split
  · rename_i hPeek
    exact (past_advance_of_peekAny hPeek).forward rfl
  · exact .refl c

/-- The last character of a token takes the cursor past it. -/
theorem past_consume (hChar : c.currentChar? = some char)
    (hEnded : (c.consume test).1.ended = true) : c.Past (c.consume test).2 := by
  have hLess := tokensLeft_consume_lt hChar hEnded
  have hInside : c.place.position < c.tokens.size := by
    simp only [tokensLeft] at hLess
    omega
  unfold consume at hEnded ⊢
  rw [hChar] at hEnded ⊢
  dsimp only at hEnded ⊢
  split at hEnded
  · cases hEnded
  · rw [if_neg ‹_›]
    exact past_advance hInside

theorem currentChar?_of_matched (h : (c.consume test).1.matched = true) :
    ∃ char, c.currentChar? = some char := by
  refine Option.ne_none_iff_exists'.mp fun hNone => ?_
  rw [consume, hNone] at h
  cases h

theorem forward_consume (c : Cursor) (test : Char → Bool) : c.Forward (c.consume test).2 := by
  cases hChar : c.currentChar? with
  | none =>
    rw [consume, hChar]
    exact .refl c
  | some char =>
    refine ⟨(onward_consume c test).tokens, ?_⟩
    cases hEnded : (c.consume test).1.ended with
    | true => exact .inl (past_consume hChar hEnded).position
    | false =>
      obtain ⟨-, hPosition, hOffset, -⟩ := consume_of_not_ended hEnded
      exact .inr ⟨hPosition.symm, Nat.le_of_lt hOffset⟩

/-! ### Words and quoted texts -/

theorem forward_consumeRest (c : Cursor) (test : Char → Bool) :
    c.Forward (c.consumeRest test).2 := by
  fun_induction consumeRest c test with
  | case1 c step _ _ ih => exact (forward_consume c test).trans ih
  | case2 c step | case3 c step => exact forward_consume c test

theorem past_consumeRest (h : (c.consumeRest test).1 = true) : c.Past (c.consumeRest test).2 := by
  fun_induction consumeRest c test with
  | case1 c step _ _ ih => exact (forward_consume c test).past (ih h)
  | case2 c step => cases h
  | case3 c step hEnded =>
    obtain ⟨char, hChar⟩ := currentChar?_of_matched h
    exact past_consume hChar (by simpa using hEnded)

theorem forward_consumeWord (c : Cursor) (first others : Char → Bool) :
    c.Forward (c.consumeWord first others).2 := by
  simp only [consumeWord]
  split
  · exact (forward_consume c first).trans (forward_consumeRest _ others)
  · exact forward_consume c first

theorem past_consumeWord {first others : Char → Bool}
    (h : (c.consumeWord first others).1 = true) : c.Past (c.consumeWord first others).2 := by
  simp only [consumeWord] at h ⊢
  split at h
  · rename_i hMore
    rw [if_pos hMore]
    exact (forward_consume c first).past (past_consumeRest h)
  · rename_i hLast
    rw [if_neg hLast]
    have hMatched : (c.consume first).1.matched = true := h
    have hEnded : (c.consume first).1.ended = true := by simpa [hMatched] using hLast
    obtain ⟨char, hChar⟩ := currentChar?_of_matched h
    exact past_consume hChar hEnded

theorem forward_quotedText (c : Cursor) (text : String) (lastStop : Option Nat) :
    c.Forward (c.quotedText text lastStop).2 := by
  fun_induction quotedText c text lastStop with
  | case1 c | case2 c => exact .refl c
  | case3 c _ _ _ _ _ _ _ _ step _ ih => exact (forward_consume c isAlphanumeric).trans ih
  | case4 c => exact forward_consume c isAlphanumeric

end Cursor

end SqlReader
