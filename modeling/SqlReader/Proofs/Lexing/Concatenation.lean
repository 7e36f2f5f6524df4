import Mathlib.Control.Monad.Basic
import SqlReader.Proofs.Lexing.Lossless

/-! Texts put one after the other with white space between them.  A lexeme depends on the text up
to the end of its word only, and white space ends every word.  So the text before the white space
is cut as it is by itself, and so is the text after it, only further on; and the first error is the
error of the whole. -/

namespace SqlReader

open Text

/-- The token `n` bytes further on. -/
def Token.shift (n : Nat) (t : Token) : Token := { t with start := n + t.start }

@[simp] theorem Token.start_shift (n : Nat) (t : Token) : (t.shift n).start = n + t.start := rfl

@[simp] theorem Token.kind_shift (n : Nat) (t : Token) : (t.shift n).kind = t.kind := rfl

@[simp] theorem Token.value_shift (n : Nat) (t : Token) : (t.shift n).value = t.value := rfl

@[simp] theorem Token.stop_shift (n : Nat) (t : Token) : (t.shift n).stop = n + t.stop :=
  Nat.add_assoc n t.start t.value.utf8ByteSize

def LexError.shift (n : Nat) (e : LexError) : LexError := { e with offset := n + e.offset }

variable {start : Nat} {text rest : List Char} {e : LexError}

/-! ### The text before -/

/-- Up to the end of a word, a text is scanned as it is by itself. -/
theorem onePass_before (hEnd : atWordEnd rest = true) (start : Nat) (text : List Char) :
    onePass ruleLexeme start (text ++ rest) =
      match onePass ruleLexeme start text with
      | .ok ts => (onePass ruleLexeme (start + byteSize text) rest).map (ts ++ ·)
      | .error e => .error ⟨e.offset, e.remaining ++ String.ofList rest⟩ := by
  fun_induction onePass ruleLexeme start text with
  | case1 start =>
    show _ = (onePass ruleLexeme start rest).map id
    rw [Except.map_id, id, List.nil_append]
  | case2 start c cs hSpace ih =>
    rw [List.cons_append, onePass, if_pos hSpace, ih, byteSize_cons, Nat.add_assoc]
  | case3 start c cs hSpace hNone =>
    have hSpace := Bool.eq_false_iff.mpr hSpace
    have hWhole := (ruleLexeme_before hSpace hEnd).trans hNone
    rw [List.cons_append] at hWhole ⊢
    rw [onePass_none hSpace hWhole, ← List.cons_append, String.ofList_append]
  | case4 start c cs hSpace kind value hSome ih =>
    have hSpace := Bool.eq_false_iff.mpr hSpace
    -- The lexeme ends inside the text or at its end, so what is left of the text still stands
    -- before the end of a word.
    have hWhole := (ruleLexeme_before hSpace hEnd).trans hSome
    obtain ⟨vs, after, rfl, rfl⟩ := ruleLexeme_cut hSome
    have hHead : ∀ d ∈ (c :: vs).head?, isWhiteSpace d = false := by simpa using hSpace
    have hDrop : (vs ++ after).drop ((c :: vs).length - 1) = after := List.drop_left
    rw [hDrop] at ih ⊢
    rw [← List.cons_append, List.append_assoc] at hWhole ⊢
    rw [onePass_lexeme (List.cons_ne_nil c vs) hHead hWhole, ih, byteSize_append, Nat.add_assoc]
    cases onePass ruleLexeme (start + byteSize (c :: vs)) after with
    | error e => rfl
    | ok ts =>
      show Except.map _ (Except.map (ts ++ ·) _) = Except.map (_ :: ts ++ ·) _
      cases onePass ruleLexeme (start + (byteSize (c :: vs) + byteSize after)) rest <;> rfl

/-- A text that is cut by itself is cut so before the end of a word. -/
theorem cuts_of_onePass {ts : List Token} (h : onePass ruleLexeme start text = .ok ts)
    (hEnd : atWordEnd rest = true) : Cuts start text rest ts := by
  rw [Cuts, onePass_before hEnd, h]

/-! ### The text after -/

/-- From a place on, a text is scanned as it is by itself, only further on. -/
theorem onePass_shift (n start : Nat) (text : List Char) :
    onePass ruleLexeme (n + start) text =
      match onePass ruleLexeme start text with
      | .ok ts => .ok (ts.map (Token.shift n))
      | .error e => .error (e.shift n) := by
  have hLexeme : ∀ c cs, isWhiteSpace c = false → ruleLexeme ((c :: cs).map id) =
      (ruleLexeme (c :: cs)).map fun found => (found.1, found.2.map id) := by simp
  have hImage := onePass_image (f := id) (fun _ => rfl) (fun _ => rfl) hLexeme n start text
  rw [List.map_id] at hImage
  rw [hImage]
  cases onePass ruleLexeme start text with
  | ok ts => simp [scanImage, Token.image, Token.shift]
  | error e => simp [scanImage, LexError.image, LexError.shift]

/-- Across white space, the tokens of two texts are those of the first and then those of the
second, which stand further on by the first text and the white space.  If the first text cannot be
cut, the whole cannot be cut there; if only the second cannot, the whole cannot be cut there. -/
theorem lex_across_white_space {a b w : String} (hNe : w ≠ "") (hWhite : isBlank w = true) :
    match lex a, lex b with
    | .ok ts, .ok us =>
      lex (a ++ w ++ b) = .ok (ts ++ us.map (Token.shift (a ++ w).utf8ByteSize))
    | .ok _, .error e => lex (a ++ w ++ b) = .error (e.shift (a ++ w).utf8ByteSize)
    | .error e, _ =>
      lex (a ++ w ++ b) = .error ⟨e.offset, e.remaining ++ w ++ b⟩ ∧
        ∃ before, a.toList = before ++ e.remaining.toList ∧ e.offset = byteSize before := by
  have hSpace : ∀ c ∈ w.toList, isWhiteSpace c = true := List.all_eq_true.mp hWhite
  have hEnd : atWordEnd (w.toList ++ b.toList) = true :=
    atWordEnd_white (mt String.toList_eq_nil_iff.mp hNe) hSpace
  have hWhole : lex (a ++ w ++ b) = onePass ruleLexeme 0 (a.toList ++ (w.toList ++ b.toList)) := by
    rw [lex_eq_onePass, String.toList_append, String.toList_append, List.append_assoc]
  have hSize : 0 + byteSize a.toList + byteSize w.toList = (a ++ w).utf8ByteSize + 0 := by
    rw [utf8ByteSize_eq, String.toList_append, byteSize_append, Nat.zero_add, Nat.add_zero]
  rw [onePass_before hEnd, onePass_space hSpace, hSize, onePass_shift] at hWhole
  rw [lex_eq_onePass a, lex_eq_onePass b]
  cases ha : onePass ruleLexeme 0 a.toList with
  | error e =>
    rw [ha] at hWhole
    obtain ⟨before, c, after, hText, -, rfl⟩ := onePass_error_place ha
    refine ⟨?_, before, by rw [hText, String.toList_ofList], Nat.zero_add _⟩
    rw [hWhole]
    simp [String.append_assoc]
  | ok ts =>
    rw [ha] at hWhole
    cases hb : onePass ruleLexeme 0 b.toList with
    | error e => rw [hWhole, hb]; rfl
    | ok us => rw [hWhole, hb]; rfl

/-- A keyword before white space of two bytes, and after it a keyword spelled with the long s or a
name that a letter follows which is none of ASCII. -/
theorem lex_across_next_line : "\u0085" ≠ "" ∧ isBlank "\u0085" = true ∧
    lex ("Select" ++ "\u0085" ++ "\u017Fet") =
      .ok [⟨"Select", .reserved, 0⟩, ⟨"\u017Fet", .reserved, 8⟩] ∧
    lex ("Select" ++ "\u0085" ++ "fromé") = .error ⟨12, "é"⟩ ∧
    lex ("fromé" ++ "\u0085" ++ "Select") = .error ⟨4, "é\u0085Select"⟩ := by
  have hNe : "\u0085" ≠ "" := by decide
  have hWhite : isBlank "\u0085" = true := by decide
  have hSelect : lex "Select" = .ok [⟨"Select", .reserved, 0⟩] := by decide +kernel
  have hSet : lex "\u017Fet" = .ok [⟨"\u017Fet", .reserved, 0⟩] := by decide +kernel
  have hFrom : lex "fromé" = .error ⟨4, "é"⟩ := by decide +kernel
  have hBoth := lex_across_white_space (a := "Select") (b := "\u017Fet") hNe hWhite
  have hSecond := lex_across_white_space (a := "Select") (b := "fromé") hNe hWhite
  have hFirst := lex_across_white_space (a := "fromé") (b := "Select") hNe hWhite
  rw [hSelect, hSet] at hBoth
  rw [hSelect, hFrom] at hSecond
  rw [hFrom] at hFirst
  exact ⟨hNe, hWhite, hBoth, hSecond, hFirst.1⟩

end SqlReader
