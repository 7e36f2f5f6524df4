import Mathlib.Data.List.Induction
import SqlReader.Proofs.Cursor.Reached

/-! Checkpoints of a cursor.  A checkpoint is the place at which it has been saved, and going back to
it sets the place alone.  However a cursor is moved, as long as it goes back only to checkpoints
that have been saved on it, it stands between two characters of its token; and from a checkpoint it
goes on as it would have when the checkpoint was saved. -/

namespace SqlReader.Cursor

open Text

/-- What is done with a cursor. -/
inductive Move where
  /-- Takes a token that has one of the texts, of which there may be one only. -/
  | terminalAny (texts : List String)
  | consume (test : Char → Bool)
  | save
  | restore (checkpoint : Place)

/-- What a move answers. -/
inductive Found where
  | taken (answer : Bool)
  | char (found : CharMatch)
  | checkpoint (place : Place)
  | nothing
  deriving DecidableEq, Repr

def Move.run (c : Cursor) : Move → Found × Cursor
  | terminalAny texts => (.taken (c.terminalAny texts).1, (c.terminalAny texts).2)
  | consume test => (.char (c.consume test).1, (c.consume test).2)
  | save => (.checkpoint c.place, c)
  | restore checkpoint => (.nothing, { c with place := checkpoint })

/-- Makes the moves one after the other, whatever they answer. -/
def run (c : Cursor) : List Move → List Found × Cursor
  | [] => ([], c)
  | move :: moves =>
    let step := move.run c
    let later := step.2.run moves
    (step.1 :: later.1, later.2)

/-- The moves go back only to checkpoints that one of them has saved before. -/
def GoesBackToSaved (c : Cursor) (moves : List Move) : Prop :=
  ∀ earlier checkpoint later, moves = earlier ++ .restore checkpoint :: later →
    .checkpoint checkpoint ∈ (c.run earlier).1

variable {tokens : List Token} {c : Cursor} {moves earlier later : List Move} {move : Move}

theorem run_append (c : Cursor) (earlier later : List Move) :
    c.run (earlier ++ later) =
      ((c.run earlier).1 ++ ((c.run earlier).2.run later).1, ((c.run earlier).2.run later).2) := by
  induction earlier generalizing c with
  | nil => rfl
  | cons move earlier ih => rw [List.cons_append, run, run, ih]; rfl

theorem GoesBackToSaved.of_append (h : c.GoesBackToSaved (earlier ++ later)) :
    c.GoesBackToSaved earlier := by
  rintro before checkpoint after rfl
  exact h before checkpoint (after ++ later) (by simp)

/-! ### Moves lead to cursors that steps come to -/

/-- A move that goes back only to where the cursor has been leads to a cursor that steps come to. -/
theorem Reached.step (h : Reached tokens c) (hBack : ∀ checkpoint, move = .restore checkpoint →
      ∃ saved, Reached tokens saved ∧ saved.place = checkpoint) :
    Reached tokens (move.run c).2 := by
  cases move with
  | terminalAny texts => exact h.terminalAny texts
  | consume test => exact h.consume test
  | save => exact h
  | restore checkpoint =>
    obtain ⟨saved, hSaved, rfl⟩ := hBack checkpoint rfl
    exact h.restore hSaved

/-- A checkpoint is the place of a cursor that steps come to. -/
theorem reached_run (h : (ofTokens tokens).GoesBackToSaved moves) :
    Reached tokens ((ofTokens tokens).run moves).2 ∧
      ∀ checkpoint, .checkpoint checkpoint ∈ ((ofTokens tokens).run moves).1 →
        ∃ saved, Reached tokens saved ∧ saved.place = checkpoint := by
  induction moves using List.reverseRecOn with
  | nil => exact ⟨.start, nofun⟩
  | append_singleton moves move ih =>
    obtain ⟨hReached, hSaved⟩ := ih h.of_append
    rw [run_append]
    refine ⟨hReached.step fun checkpoint hMove => ?_, fun checkpoint hMem => ?_⟩
    · subst hMove
      exact hSaved checkpoint (h moves checkpoint [] rfl)
    · rcases List.mem_append.mp hMem with hMem | hMem
      · exact hSaved checkpoint hMem
      · cases move with
        | save =>
          obtain rfl : checkpoint = _ := by simpa [run, Move.run] using hMem
          exact ⟨_, hReached, rfl⟩
        | _ => simp [run, Move.run] at hMem

/-! ### The places that are come to -/

/-- The place is inside a token only before one of its characters. -/
theorem Settled.offset_lt (h : c.Settled) :
    c.place.offset = 0 ∨ c.place.offset < c.current.value.utf8ByteSize := by
  obtain ⟨before, after, hBetween, hEmpty⟩ := h.between
  rw [hBetween.utf8ByteSize]
  by_cases hAfter : after = []
  · left
    rw [hBetween.offset, hEmpty hAfter, byteSize_nil]
  · right
    exact Nat.lt_add_of_pos_right (byteSize_pos hAfter)

theorem Settled.offset_past (h : c.Settled) (hPast : c.place.position = c.tokens.size) :
    c.place.offset = 0 := by
  have hCurrent : c.current = .endOfInput := by simp [current, hPast]
  refine h.offset_lt.resolve_right ?_
  rw [hCurrent]
  exact Nat.not_lt_zero _

/-- Going back to where steps have come from the same tokens restores the cursor. -/
theorem Reached.restore_eq {saved : Cursor} (h : Reached tokens c)
    (hSaved : Reached tokens saved) : { c with place := saved.place } = saved := by
  rw [h.tokens_eq, ← hSaved.tokens_eq]

/-- However a cursor has been moved, taking tokens and characters and going back to checkpoints that
have been saved on it: it is at one of its tokens or past the last one, between two characters of
the token, and at the start of it or before a character; past the last token it is at the start.  So
it has no next character exactly if the token is empty.  Whatever is done after going back to a
checkpoint answers and leaves what it would have when the checkpoint was saved. -/
theorem runs_go_on_from_checkpoints (h : (ofTokens tokens).GoesBackToSaved moves)
    (hRun : ((ofTokens tokens).run moves).2 = c) :
    c.tokens = tokens.toArray ∧ c.place.position ≤ tokens.length ∧
      (∃ before after, c.current.value.toList = before ++ after ∧
        c.place.offset = byteSize before) ∧
      (c.place.offset = 0 ∨ c.place.offset < c.current.value.utf8ByteSize) ∧
      (c.place.position = tokens.length → c.place.offset = 0) ∧
      (c.currentChar? = none ↔ c.current.value = "") ∧
      ∀ earlier later saved, moves = earlier ++ .save :: later →
        ((ofTokens tokens).run earlier).2 = saved → ∀ others,
          c.run (.restore saved.place :: others) =
            (.nothing :: (saved.run others).1, (saved.run others).2) := by
  subst hRun
  obtain ⟨hReached, -⟩ := reached_run h
  have hSettled := hReached.settled
  have hSize : ((ofTokens tokens).run moves).2.tokens.size = tokens.length := by
    rw [hReached.tokens_eq, List.size_toArray]
  obtain ⟨before, after, hBetween, -⟩ := hSettled.between
  refine ⟨hReached.tokens_eq, hSize ▸ hSettled.inside, ⟨before, after, hBetween.value,
    hBetween.offset⟩, hSettled.offset_lt, fun hPast => hSettled.offset_past (hPast.trans hSize.symm),
    hSettled.currentChar?_eq_none_iff, ?_⟩
  rintro earlier later saved rfl rfl others
  obtain ⟨hSaved, -⟩ := reached_run h.of_append
  rw [run, Move.run, hReached.restore_eq hSaved]

/-- A cursor that goes back into a token, to a character of two bytes, from the next token and from
behind that character. -/
theorem runs_go_on_from_checkpoint_inside_token :
    (ofTokens [⟨"aéb", .id, 0⟩, ⟨"7", .int, 4⟩]).GoesBackToSaved
        [.consume isAlphabetic, .save, .terminalAny ["AéB"], .restore ⟨0, 1⟩,
          .consume Char.isDigit] ∧
      ((ofTokens [⟨"aéb", .id, 0⟩, ⟨"7", .int, 4⟩]).run
          [.consume isAlphabetic, .save, .terminalAny ["AéB"], .restore ⟨0, 1⟩,
            .consume Char.isDigit]).2 =
        ⟨#[⟨"aéb", .id, 0⟩, ⟨"7", .int, 4⟩], ⟨0, 3⟩⟩ ∧
      run ⟨#[⟨"aéb", .id, 0⟩, ⟨"7", .int, 4⟩], ⟨0, 3⟩⟩
          [.restore ⟨0, 1⟩, .consume isAlphabetic, .consume isAlphabetic] =
        ([.nothing, .char ⟨true, false⟩, .char ⟨true, true⟩],
          ⟨#[⟨"aéb", .id, 0⟩, ⟨"7", .int, 4⟩], ⟨1, 0⟩⟩) := by
  have hSaved : (ofTokens [⟨"aéb", .id, 0⟩, ⟨"7", .int, 4⟩]).GoesBackToSaved
      [.consume isAlphabetic, .save, .terminalAny ["AéB"], .restore ⟨0, 1⟩,
        .consume Char.isDigit] := by
    intro earlier checkpoint later hMoves
    rcases earlier with _ | ⟨_, _ | ⟨_, _ | ⟨_, _ | ⟨_, _ | ⟨_, earlier⟩⟩⟩⟩⟩
    · cases hMoves
    · cases hMoves
    · cases hMoves
    · cases hMoves
      decide +kernel
    · cases hMoves
    · simp at hMoves
  have hRun : ((ofTokens [⟨"aéb", .id, 0⟩, ⟨"7", .int, 4⟩]).run
      [.consume isAlphabetic, .save, .terminalAny ["AéB"], .restore ⟨0, 1⟩,
        .consume Char.isDigit]).2 = ⟨#[⟨"aéb", .id, 0⟩, ⟨"7", .int, 4⟩], ⟨0, 3⟩⟩ := by
    decide +kernel
  have hBegun : ((ofTokens [⟨"aéb", .id, 0⟩, ⟨"7", .int, 4⟩]).run [.consume isAlphabetic]).2 =
      ⟨#[⟨"aéb", .id, 0⟩, ⟨"7", .int, 4⟩], ⟨0, 1⟩⟩ := by
    decide +kernel
  obtain ⟨-, -, -, -, -, -, hOthers⟩ := runs_go_on_from_checkpoints hSaved hRun
  refine ⟨hSaved, hRun, (hOthers [.consume isAlphabetic] _ _ rfl hBegun _).trans ?_⟩
  decide +kernel

end SqlReader.Cursor
