import SqlReader.Proofs.Cursor.Characters

/-! A cursor over the tokens that another one has to come.  Every step does over these tokens alone
what it does over all of them; only the position counts from elsewhere. -/

namespace SqlReader.Cursor

/-- `c` taken to the place of `d`, whose first token is the current one of `c`. -/
def resume (c d : Cursor) : Cursor :=
  { c with place := ⟨c.place.position + d.place.position, d.place.offset⟩ }

/-- The tokens of `d` are those that `c` has to come. -/
def Covers (c d : Cursor) : Prop := d.tokens.toList = c.rest

/-- The cursor over the tokens to come, at the first of them. -/
def alone (c : Cursor) : Cursor := ⟨c.rest.toArray, ⟨0, c.place.offset⟩⟩

/-- The step does over the tokens to come what it does over all of them. -/
def Local {α : Type} (f : Cursor → α × Cursor) : Prop :=
  ∀ c d, Covers c d → Covers c (f d).2 ∧ f (c.resume d) = ((f d).1, c.resume (f d).2)

variable {c d : Cursor}

theorem covers_alone (c : Cursor) : Covers c c.alone := rfl

theorem resume_alone (c : Cursor) : c.resume c.alone = c := rfl

theorem alone_eq {rest : List Token} {offset : Nat} (hRest : c.rest = rest)
    (hOffset : c.place.offset = offset) : c.alone = ⟨rest.toArray, ⟨0, offset⟩⟩ := by
  rw [alone, hRest, hOffset]

theorem Covers.size (h : Covers c d) : d.tokens.size = c.tokens.size - c.place.position := by
  rw [← Array.length_toList, h, length_rest, tokensLeft]

theorem Covers.current (h : Covers c d) : (c.resume d).current = d.current := by
  have hToken : d.tokens[d.place.position]? =
      c.tokens[c.place.position + d.place.position]? := by
    rw [← Array.getElem?_toList, h, rest, List.getElem?_drop, Array.getElem?_toList]
  rw [Cursor.current, Cursor.current, hToken]
  rfl

theorem Covers.advance (h : Covers c d) : (c.resume d).advance = c.resume d.advance := by
  have hSize := h.size
  unfold Cursor.advance resume
  by_cases hInside : d.place.position < d.tokens.size
  · simp only [hInside, if_true]
    rw [if_pos (by omega)]
    rfl
  · simp only [hInside, if_false]
    rw [if_neg (by omega)]

theorem Covers.tokensLeft (h : Covers c d) : (c.resume d).tokensLeft = d.tokensLeft := by
  rw [Cursor.tokensLeft, Cursor.tokensLeft, h.size]
  show c.tokens.size - (c.place.position + d.place.position) = _
  omega

theorem Covers.peekAny (h : Covers c d) (texts : List String) :
    (c.resume d).peekAny texts = d.peekAny texts := by
  rw [Cursor.peekAny, Cursor.peekAny, atEnd, atEnd, h.current]

theorem Covers.currentChar? (h : Covers c d) : (c.resume d).currentChar? = d.currentChar? := by
  rw [Cursor.currentChar?, Cursor.currentChar?, h.current]
  rfl

theorem local_terminalAny (texts : List String) : Local (·.terminalAny texts) := by
  intro c d h
  simp only [terminalAny, h.peekAny]
  split
  · exact ⟨h, by rw [h.advance]⟩
  · exact ⟨h, rfl⟩

theorem Covers.consume (h : Covers c d) (test : Char → Bool) :
    Covers c (d.consume test).2 ∧
      (c.resume d).consume test = ((d.consume test).1, c.resume (d.consume test).2) := by
  simp only [Cursor.consume, h.currentChar?]
  cases hChar : d.currentChar? with
  | none => exact ⟨h, rfl⟩
  | some char =>
    have hOffset : (c.resume d).place.offset = d.place.offset := rfl
    simp only [h.current, h.advance, hOffset]
    split
    · exact ⟨h, rfl⟩
    · exact ⟨h, rfl⟩

theorem Covers.consumeRest (h : Covers c d) (test : Char → Bool) :
    Covers c (d.consumeRest test).2 ∧ (c.resume d).consumeRest test =
      ((d.consumeRest test).1, c.resume (d.consumeRest test).2) := by
  fun_induction Cursor.consumeRest d test with
  | case1 d step hInside hMatched ih =>
    obtain ⟨hCovers, hSame⟩ := h.consume test
    obtain ⟨hCovers', hSame'⟩ := ih hCovers
    refine ⟨hCovers', ?_⟩
    rw [Cursor.consumeRest]
    simp only [hSame]
    rw [dif_pos hInside, if_pos hMatched, hSame']
  | case2 d step hInside hMatched =>
    obtain ⟨hCovers, hSame⟩ := h.consume test
    refine ⟨hCovers, ?_⟩
    rw [Cursor.consumeRest]
    simp only [hSame]
    rw [dif_pos hInside, if_neg hMatched]
  | case3 d step hInside =>
    obtain ⟨hCovers, hSame⟩ := h.consume test
    refine ⟨hCovers, ?_⟩
    rw [Cursor.consumeRest]
    simp only [hSame]
    rw [dif_neg hInside]

theorem local_consumeRest (test : Char → Bool) : Local (·.consumeRest test) :=
  fun _ _ h => h.consumeRest test

theorem local_consumeWord (first others : Char → Bool) : Local (·.consumeWord first others) := by
  intro c d h
  obtain ⟨hCovers, hSame⟩ := h.consume first
  obtain ⟨hCovers', hSame'⟩ := hCovers.consumeRest others
  simp only [consumeWord, hSame]
  split
  · exact ⟨hCovers', hSame'⟩
  · exact ⟨hCovers, rfl⟩

/-- The text before a closing quote is read character by character, so each case of the recursion is
one step of the cursor. -/
theorem Covers.quotedText (h : Covers c d) (text : String) (lastStop : Option Nat) :
    Covers c (d.quotedText text lastStop).2 ∧ (c.resume d).quotedText text lastStop =
      ((d.quotedText text lastStop).1, c.resume (d.quotedText text lastStop).2) := by
  have hPeek (d : Cursor) (h : Covers c d) : (c.resume d).peek "\"" = d.peek "\"" := h.peekAny _
  fun_induction Cursor.quotedText d text lastStop with
  | case1 d text lastStop hQuote =>
    refine ⟨h, ?_⟩
    rw [Cursor.quotedText, if_pos ((hPeek d h).trans hQuote)]
  | case2 d text lastStop hQuote =>
    have hNot := (hPeek d h).trans (Bool.eq_false_iff.mpr hQuote)
    exact ⟨h, quotedText_none hNot (h.currentChar?.trans ‹_›) text lastStop⟩
  | case3 d text lastStop hQuote gap text' lastStop' char hChar step hMatched ih =>
    have hNot := (hPeek d h).trans (Bool.eq_false_iff.mpr hQuote)
    obtain ⟨hCovers, hSame⟩ := h.consume Text.isAlphanumeric
    obtain ⟨hCovers', hSame'⟩ := ih hCovers
    refine ⟨hCovers', ?_⟩
    rw [quotedText_some hNot (h.currentChar?.trans hChar), hSame, h.current, if_pos hMatched]
    exact hSame'
  | case4 d text lastStop hQuote char hChar step hMatched =>
    have hNot := (hPeek d h).trans (Bool.eq_false_iff.mpr hQuote)
    obtain ⟨hCovers, hSame⟩ := h.consume Text.isAlphanumeric
    refine ⟨hCovers, ?_⟩
    rw [quotedText_some hNot (h.currentChar?.trans hChar), hSame, if_neg hMatched]

theorem local_quotedText (text : String) (lastStop : Option Nat) :
    Local (·.quotedText text lastStop) := fun _ _ h => h.quotedText text lastStop

end SqlReader.Cursor
