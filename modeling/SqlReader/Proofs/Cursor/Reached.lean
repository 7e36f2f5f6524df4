import SqlReader.Proofs.Cursor.Characters
import SqlReader.Proofs.Cursor.Onward

/-! The cursors that steps come to.  A cursor that has been come to stands between two characters of
its token, and past the first of them only if another is left. -/

namespace SqlReader.Cursor

open Text

/-- The cursors that steps come to from the first token: tokens taken by their text, characters, and
going back to where the cursor has been before. -/
inductive Reached (tokens : List Token) : Cursor → Prop
  | start : Reached tokens (ofTokens tokens)
  | terminalAny {c : Cursor} (h : Reached tokens c) (texts : List String) :
      Reached tokens (c.terminalAny texts).2
  | consume {c : Cursor} (h : Reached tokens c) (test : Char → Bool) :
      Reached tokens (c.consume test).2
  | restore {c saved : Cursor} (h : Reached tokens c) (hSaved : Reached tokens saved) :
      Reached tokens { c with place := saved.place }

/-- The cursor is at the start of its token, or inside it with a character left. -/
structure Settled (c : Cursor) : Prop where
  inside : c.place.position ≤ c.tokens.size
  between : ∃ before after, c.Between before after ∧ (after = [] → before = [])

variable {tokens : List Token} {c : Cursor}

theorem settled_start (hOffset : c.place.offset = 0) (hInside : c.place.position ≤ c.tokens.size) :
    c.Settled :=
  ⟨hInside, [], _, between_start hOffset, fun _ => rfl⟩

theorem advance_inside_tokens (h : c.place.position ≤ c.tokens.size) :
    c.advance.place.position ≤ c.advance.tokens.size := by
  simp only [advance]
  split <;> omega

theorem Settled.advance (h : c.Settled) : c.advance.Settled :=
  settled_start rfl (advance_inside_tokens h.inside)

theorem Settled.terminalAny (h : c.Settled) (texts : List String) :
    (c.terminalAny texts).2.Settled := by
  unfold Cursor.terminalAny
  split
  · exact h.advance
  · exact h

theorem Settled.consume (h : c.Settled) (test : Char → Bool) : (c.consume test).2.Settled := by
  obtain ⟨before, after, hBetween, -⟩ := h.between
  match after, hBetween with
  | [], hBetween =>
    rw [hBetween.consume_nil]
    exact h
  | [char], hBetween =>
    rw [hBetween.consume_last]
    exact h.advance
  | char :: next :: after, hBetween =>
    rw [hBetween.consume_cons]
    exact ⟨h.inside, _, _, hBetween.step, nofun⟩

theorem Reached.tokens_eq (h : Reached tokens c) : c.tokens = tokens.toArray := by
  induction h with
  | start => rfl
  | terminalAny h texts ih => exact (onward_terminalAny _ texts).tokens.trans ih
  | consume h test ih => exact (onward_consume _ test).tokens.trans ih
  | restore h hSaved ih => exact ih

theorem Reached.settled (h : Reached tokens c) : c.Settled := by
  induction h with
  | start => exact settled_start rfl (Nat.zero_le _)
  | terminalAny h texts ih => exact ih.terminalAny texts
  | consume h test ih => exact ih.consume test
  | @restore c saved h hSaved ih ihSaved =>
    have hSame : { c with place := saved.place } = saved := by
      rw [h.tokens_eq, ← hSaved.tokens_eq]
    rw [hSame]
    exact ihSaved

/-- Where the cursor is settled, no character is left in an empty token only. -/
theorem Settled.currentChar?_eq_none_iff (h : c.Settled) :
    c.currentChar? = none ↔ c.current.value = "" := by
  obtain ⟨before, after, hBetween, hAfter⟩ := h.between
  rw [hBetween.currentChar?, List.head?_eq_none_iff, ← String.toList_eq_nil_iff, hBetween.value,
    List.append_eq_nil_iff]
  exact ⟨fun hNil => ⟨hAfter hNil, hNil⟩, And.right⟩

/-- A step over a character stays where it is only if there is none. -/
theorem consume_eq_self_iff (c : Cursor) (test : Char → Bool) :
    c.consume test = (⟨false, true⟩, c) ↔ c.currentChar? = none := by
  constructor
  · intro hSame
    refine Option.eq_none_iff_forall_ne_some.mpr fun char hChar => ?_
    have hEnded : (c.consume test).1.ended = true := by rw [hSame]
    have hLess := tokensLeft_consume_lt hChar hEnded
    rw [hSame] at hLess
    exact Nat.lt_irrefl _ hLess
  · intro hNone
    rw [Cursor.consume, hNone]

end SqlReader.Cursor
