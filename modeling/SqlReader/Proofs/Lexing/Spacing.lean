import SqlReader.Proofs.Cursor.Characters
import SqlReader.Proofs.Lexing.Direct
import SqlReader.Proofs.Lexing.Lossless
import SqlReader.Proofs.Text.Words

/-! Tokens with a space between two that do not touch.  They are cut in other places than the words
of the text, but a word ends only where two of them do not touch, and one space is left of what
stands there.  So they give the words of the text with one space between two. -/

namespace SqlReader

open Text Cursor

variable {start : Nat} {text word : List Char} {t : Token} {ts us : List Token}

/-! ### Parts of a text that is laid out -/

/-- The text before a token is laid out as the tokens before it, and the text after it as those
after it. -/
theorem Laid.split (h : Laid start text (ts ++ t :: us)) : ∃ before after,
    text = before ++ (t.value.toList ++ after) ∧ t.start = start + byteSize before ∧
      Laid start before ts ∧ Laid t.stop after us := by
  induction ts generalizing start text with
  | nil =>
    cases h with
    | @token _ space rest _ _ hSpace hStart _ _ hRest =>
      exact ⟨space, rest, by rw [List.append_assoc], hStart, .space hSpace, hRest⟩
  | cons u ts ih =>
    cases h with
    | @token _ space rest _ _ hSpace hStart hValue hKind hRest =>
      obtain ⟨before, after, rfl, hPlace, hBefore, hAfter⟩ := ih hRest
      refine ⟨space ++ u.value.toList ++ before, after, by simp, ?_,
        .token hSpace hStart hValue hKind hBefore, hAfter⟩
      rw [hPlace, Token.stop_eq, hStart, byteSize_append, byteSize_append]
      omega

/-- A character of the text is white space or stands in a token. -/
theorem Laid.white_or_mem (h : Laid start text ts) :
    ∀ c ∈ text, isWhiteSpace c = true ∨ ∃ t ∈ ts, c ∈ t.value.toList := by
  induction h with
  | space hSpace => exact fun c hc => .inl (hSpace c hc)
  | @token _ space rest t ts hSpace _ _ _ _ ih =>
    intro c hc
    rcases List.mem_append.mp hc with hc | hc
    · rcases List.mem_append.mp hc with hc | hc
      · exact .inl (hSpace c hc)
      · exact .inr ⟨t, List.mem_cons_self, hc⟩
    · exact (ih c hc).imp id fun ⟨u, hu, hMem⟩ => ⟨u, List.mem_cons_of_mem t hu, hMem⟩

/-- A character of a token stands in the text. -/
theorem Laid.mem_text (h : Laid start text ts) (ht : t ∈ ts) : ∀ c ∈ t.value.toList, c ∈ text := by
  obtain ⟨-, -, before, after, rfl, -⟩ := h.place ht
  exact fun c hc => List.mem_append_left after (List.mem_append_right before hc)

/-! ### Words -/

/-- After a word that ends where the text begins, the tokens of the text go on with it. -/
theorem Laid.append_spaced (h : Laid start text ts)
    (hVisible : ∀ t ∈ ts, ∀ c ∈ t.value.toList, isWhiteSpace c = false)
    (hNe : word ≠ []) (hWord : ∀ c ∈ word, isWhiteSpace c = false) :
    word ++ spaced (some start) ts = [' '].intercalate (words (word ++ text)) := by
  -- The word grows by a token that touches it; white space ends it, and the token after the white
  -- space is the first part of the next word.
  induction h generalizing word with
  | space hSpace =>
    rw [words_word hNe hWord fun c hc => hSpace c (List.mem_of_mem_head? hc),
      words_of_white hSpace, List.intercalate_singleton, spaced, List.append_nil]
  | @token start space rest t ts hSpace hStart hValue _ _ ih =>
    obtain ⟨hToken, hLater⟩ := List.forall_mem_cons.mp hVisible
    have hTokenNe : t.value.toList ≠ [] := mt String.toList_eq_nil_iff.mp hValue
    by_cases hTouch : space = []
    · have hGrownNe : word ++ t.value.toList ≠ [] := List.append_ne_nil_of_left_ne_nil hNe _
      have hGrown := ih hLater hGrownNe (List.forall_mem_append.mpr ⟨hWord, hToken⟩)
      rw [hTouch, byteSize_nil, Nat.add_zero] at hStart
      rw [spaced, hStart, gap_stop, hTouch, List.nil_append, ← List.append_assoc, hGrown,
        List.append_assoc]
    · obtain ⟨c, cs, hChars⟩ := List.exists_cons_of_ne_nil hTokenNe
      have hMore : words (t.value.toList ++ rest) ≠ [] :=
        words_ne_nil (c := c) (by simp [hChars]) (hToken c (by simp [hChars]))
      have hEnds : ∀ c ∈ (space ++ (t.value.toList ++ rest)).head?, isWhiteSpace c = true := by
        obtain ⟨d, ds, rfl⟩ := List.exists_cons_of_ne_nil hTouch
        simpa using hSpace d List.mem_cons_self
      have hGap : gap (some start) t.start = [' '] :=
        gap_of_lt (by rw [hStart]; exact Nat.lt_add_of_pos_right (byteSize_pos hTouch))
      rw [spaced, hGap, List.append_assoc, List.append_assoc, ih hLater hTokenNe hToken,
        words_word hNe hWord hEnds, words_space hSpace, intercalate_cons hMore,
        List.singleton_append]

/-- Put together with a space between two that do not touch, the tokens of a text are its words with
one space between two. -/
theorem Laid.spaced_eq (h : Laid start text ts)
    (hVisible : ∀ t ∈ ts, ∀ c ∈ t.value.toList, isWhiteSpace c = false) :
    String.ofList (spaced none ts) = joined text := by
  apply String.toList_inj.mp
  rw [String.toList_ofList, toList_joined]
  cases h with
  | space hSpace =>
    rw [words_of_white hSpace]
    rfl
  | @token _ space rest t ts hSpace _ hValue _ hRest =>
    obtain ⟨hToken, hLater⟩ := List.forall_mem_cons.mp hVisible
    have hNe : t.value.toList ≠ [] := mt String.toList_eq_nil_iff.mp hValue
    have hGap : gap none t.start = [] := rfl
    rw [spaced, hGap, List.nil_append, List.append_assoc, words_space hSpace,
      hRest.append_spaced hLater hNe hToken]

/-! ### Texts of letters, digits and white space -/

/-- A text of letters and digits of ASCII and of white space is cut into tokens, whatever keywords
are in it. -/
theorem onePass_ok_of_ascii
    (h : ∀ c ∈ text, isWhiteSpace c = true ∨ c.isAlphanum = true) (start : Nat) :
    ∃ ts, onePass ruleLexeme start text = .ok ts := by
  have hLong : longS ∉ text := fun hMem => by
    have hNot : ¬(isWhiteSpace longS = true ∨ longS.isAlphanum = true) := by decide
    exact hNot (h longS hMem)
  have hIn : ∀ c ∈ text, inAlphabet c = true := fun c hc => by
    rcases h c hc with hSpace | hAlphanum
    · simp [inAlphabet, hSpace]
    · simp [inAlphabet, isNameChar_of_isAlphanum hAlphanum]
  have hNil : text.dropWhile inAlphabet = [] := by
    rw [← List.append_nil text, List.dropWhile_append_of_pos hIn, List.dropWhile_nil]
  cases hScan : onePass ruleLexeme start text with
  | ok ts => exact ⟨ts, rfl⟩
  | error e =>
    rw [onePass_rule_eq_direct start text hLong, onePass_direct_error] at hScan
    exact absurd hNil hScan.1

end SqlReader
