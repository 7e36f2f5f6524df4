import SqlReader.Proofs.Canonical.Leaves
import SqlReader.Proofs.Phrase.Classes

/-! Names, integers and literals that were cut from a text can be read back.  A word that stands
for a name is made of name characters or spells a keyword.  A literal is printed with one space
where there was white space, and nothing where two tokens touched, so that its words end where they
ended before and the same tokens are cut off again. -/

namespace SqlReader

open Text Phrase Pattern Cursor

variable {start : Nat} {text word after rest : List Char} {t q : Token} {ts us more : List Token}

/-! ### Tokens of a text -/

/-- The first token stands after white space, and the others are cut from what comes after it. -/
structure CutFirst (start : Nat) (text : List Char) (t : Token) (ts : List Token)
    (space after : List Char) : Prop where
  split : text = space ++ (t.value.toList ++ after)
  white : ∀ c ∈ space, isWhiteSpace c = true
  start_eq : t.start = start + byteSize space
  value_ne : t.value.toList ≠ []
  head : ∀ c ∈ t.value.toList.head?, isWhiteSpace c = false
  lexeme : ruleLexeme (t.value.toList ++ after) = some (t.kind, t.value.toList)
  scan : onePass ruleLexeme t.stop after = .ok ts

theorem onePass_cutFirst (h : onePass ruleLexeme start text = .ok (t :: ts)) :
    ∃ space after, CutFirst start text t ts space after := by
  fun_induction onePass ruleLexeme start text with
  | case1 => cases h
  | case2 start c cs hSpace ih =>
    obtain ⟨space, after, hCut⟩ := ih h
    refine ⟨c :: space, after, { hCut with split := ?_, white := ?_, start_eq := ?_ }⟩
    · rw [hCut.split, List.cons_append]
    · exact List.forall_mem_cons.mpr ⟨hSpace, hCut.white⟩
    · rw [hCut.start_eq, byteSize_cons, Nat.add_assoc]
  | case3 => cases h
  | case4 start c cs hSpace kind value hLexeme ih =>
    obtain ⟨ds, after, rfl, rfl⟩ := ruleLexeme_cut hLexeme
    have hDrop : (ds ++ after).drop ((c :: ds).length - 1) = after := List.drop_left
    rw [hDrop] at h
    cases hLater : onePass ruleLexeme (start + byteSize (c :: ds)) after with
    | error e =>
      rw [hLater] at h
      cases h
    | ok us =>
      rw [hLater] at h
      cases h
      refine ⟨[], after, ⟨by simp, by simp, by simp, by simp, ?_, ?_, ?_⟩⟩
      · simpa using hSpace
      · simpa using hLexeme
      · rwa [Token.stop, utf8ByteSize_ofList]

/-- The tokens follow one another in a text that is cut into tokens. -/
def Lexed (ts : List Token) : Prop :=
  ∃ start text more, onePass ruleLexeme start text = .ok (ts ++ more)

theorem Lexed.left (h : Lexed (ts ++ us)) : Lexed ts := by
  obtain ⟨start, text, more, hScan⟩ := h
  exact ⟨start, text, us ++ more, by rw [hScan, List.append_assoc]⟩

theorem Lexed.tail (h : Lexed (t :: ts)) : Lexed ts := by
  obtain ⟨start, text, more, hScan⟩ := h
  obtain ⟨space, after, hCut⟩ := onePass_cutFirst hScan
  exact ⟨t.stop, after, more, hCut.scan⟩

theorem Lexed.right (h : Lexed (ts ++ us)) : Lexed us := by
  induction ts with
  | nil => exact h
  | cons t ts ih => exact ih h.tail

/-! ### Names -/

theorem isWord_of_lexeme {kind : TokenKind} (hName : isName word = true)
    (hHead : ∀ c ∈ word.head?, isWhiteSpace c = false)
    (h : ruleLexeme (word ++ after) = some (kind, word)) : IsWord word := by
  obtain ⟨c, cs, rfl⟩ := List.exists_cons_of_ne_nil (ruleLexeme_split h).2
  have hAlphabetic : isAlphabetic c = true := (Bool.and_eq_true _ _ ▸ hName).1
  have hNotMark : c ∉ '*' :: punctuation := fun hMem => by
    obtain ⟨-, hAscii, -, hAlpha⟩ := marks_outside_names c hMem
    rw [isAlphabetic_ascii hAscii, hAlpha] at hAlphabetic
    cases hAlphabetic
  obtain ⟨hStar, hMark⟩ := not_or.mp (mt List.mem_cons.mpr hNotMark)
  have hRun {test : Char → Bool} (hTest : ∀ d, test d = true → isNameChar d = true)
      (hTake : (c :: (cs ++ after)).takeWhile test = c :: cs) : IsWord (c :: cs) := by
    refine .inl fun d hd => hTest d ?_
    rw [← hTake] at hd
    exact List.all_eq_true.mp List.all_takeWhile d hd
  rw [List.cons_append, ruleLexeme_cons (hHead c rfl)] at h
  cases hFound : headKeyword? (c :: (cs ++ after)) with
  | some k =>
    simp only [hFound, Option.some.injEq, Prod.mk.injEq] at h
    exact .inr ⟨k, h.2 ▸ headKeyword?_eq_some.mp hFound⟩
  | none =>
    simp only [hFound, hMark, hStar, if_false] at h
    split at h
    · exact hRun (fun _ => isNameChar_of_isDigit) (Prod.mk.inj (Option.some.inj h)).2
    · split at h
      · exact hRun (fun _ hd => hd) (Prod.mk.inj (Option.some.inj h)).2
      · cases h

theorem Lexed.name (h : Lexed [t]) (hName : TokenClass.name.has t = true) :
    LeafTexts.printable.name t.value := by
  obtain ⟨start, text, more, hScan⟩ := h
  obtain ⟨space, after, hCut⟩ := onePass_cutFirst hScan
  exact printable_name hName (isWord_of_lexeme hName hCut.head hCut.lexeme)

/-! ### Literals -/

/-- Both texts have the same characters up to the end of a word. -/
def SameWord (a b : List Char) : Prop :=
  ∃ word after after', a = word ++ after ∧ b = word ++ after' ∧
    atWordEnd after = true ∧ atWordEnd after' = true

theorem SameWord.ends (ha : atWordEnd text = true) (hb : atWordEnd rest = true) :
    SameWord text rest := ⟨[], text, rest, rfl, rfl, ha, hb⟩

theorem SameWord.append (h : SameWord text rest) (word : List Char) :
    SameWord (word ++ text) (word ++ rest) := by
  obtain ⟨word', after, after', rfl, rfl, hEnd, hEnd'⟩ := h
  exact ⟨word ++ word', after, after', by simp, by simp, hEnd, hEnd'⟩

/-- Texts that go on with the same word are cut in the same place. -/
theorem SameWord.ruleLexeme_eq (h : SameWord text rest) (hNe : word ≠ [])
    (hHead : ∀ c ∈ word.head?, isWhiteSpace c = false) :
    ruleLexeme (word ++ text) = ruleLexeme (word ++ rest) := by
  obtain ⟨word', after, after', rfl, rfl, hEnd, hEnd'⟩ := h
  obtain ⟨c, cs, rfl⟩ := List.exists_cons_of_ne_nil hNe
  have hCut {after : List Char} (hEnd : atWordEnd after = true) :
      ruleLexeme (c :: cs ++ (word' ++ after)) = ruleLexeme (c :: (cs ++ word')) := by
    have hBefore : ruleLexeme (c :: (cs ++ word') ++ after) = ruleLexeme (c :: (cs ++ word')) :=
      ruleLexeme_before (hHead c rfl) hEnd
    rwa [List.cons_append, List.append_assoc, ← List.cons_append] at hBefore
  rw [hCut hEnd, hCut hEnd']

/-- White space between two tokens is printed as one space. -/
theorem CutFirst.gap_eq {space : List Char} (h : CutFirst start text t ts space after) :
    gap (some start) t.start = if space = [] then [] else [' '] := by
  rw [h.start_eq]
  split
  · rename_i hNil
    rw [hNil]
    exact gap_stop start
  · rename_i hNe
    have hPos := byteSize_pos hNe
    exact gap_of_lt (by omega)

/-- Up to the end of a word, the text from a token of a literal on is printed as it is. -/
theorem sameWord_spaced (hScan : onePass ruleLexeme start text = .ok (ts ++ q :: more))
    (hQuote : quotationMark.has q = true) (rest : List Char) :
    SameWord text (spaced (some start) ts ++ '"' :: rest) := by
  have hMark (cs : List Char) : atWordEnd ('"' :: cs) = true := atWordEnd_mark (by decide) cs
  induction ts generalizing start text with
  | nil =>
    obtain ⟨space, after, hCut⟩ := onePass_cutFirst hScan
    have hValue : q.value.toList = ['"'] := TokenClass.value_of_mark rfl (by decide) hQuote
    refine .ends ?_ (hMark rest)
    rw [hCut.split, hValue]
    by_cases hNe : space = []
    · rw [hNe]
      exact hMark after
    · exact atWordEnd_white hNe hCut.white
  | cons t ts ih =>
    obtain ⟨space, after, hCut⟩ := onePass_cutFirst hScan
    rw [spaced, hCut.gap_eq, hCut.split]
    by_cases hNe : space = []
    · rw [if_pos hNe, hNe, List.nil_append, List.nil_append, List.append_assoc]
      exact (ih hCut.scan).append t.value.toList
    · rw [if_neg hNe]
      exact .ends (atWordEnd_white hNe hCut.white) (atWordEnd_space _)

/-- The tokens of a literal are cut again, at other places, from the text that is printed for
them. -/
theorem reread_literal (hScan : onePass ruleLexeme start text = .ok (ts ++ q :: more))
    (hPlain : ∀ t ∈ ts, TokenClass.plain.has t = true) (hQuote : quotationMark.has q = true)
    (lastStop : Option Nat) (start' : Nat) (rest : List Char) :
    ∃ us, (∀ u ∈ us, TokenClass.plain.has u = true) ∧
      spaced (lastStop.map fun _ => start') us = spaced lastStop ts ∧
      Cuts start' (spaced lastStop ts) ('"' :: rest) us := by
  induction ts generalizing start text lastStop start' with
  | nil => exact ⟨[], by simp, rfl, cuts_nil⟩
  | cons t ts ih =>
    obtain ⟨space, after, hCut⟩ := onePass_cutFirst hScan
    obtain ⟨hFirst, hOthers⟩ := List.forall_mem_cons.mp hPlain
    have hWhite := gap_cases lastStop t.start
    generalize hGap : gap lastStop t.start = white at hWhite
    -- The printed text goes on with the same word, so the same lexeme is cut off.
    have hSame := sameWord_spaced hCut.scan hQuote rest
    obtain ⟨us, hUs, hText, hLater⟩ := ih hCut.scan hOthers (some t.stop)
      (start' + byteSize white + byteSize t.value.toList)
    have hLexeme := (hSame.ruleLexeme_eq hCut.value_ne hCut.head).symm.trans hCut.lexeme
    -- The gap that is printed is found again between the new places.
    have hGap' : gap (lastStop.map fun _ => start') (start' + byteSize white) = white := by
      cases lastStop with
      | none => exact hGap
      | some stop => exact gap_space hWhite
    have hStop : Token.stop ⟨t.value, t.kind, start' + byteSize white⟩ =
        start' + byteSize white + byteSize t.value.toList := by
      rw [Token.stop, utf8ByteSize_eq]
    refine ⟨⟨t.value, t.kind, start' + byteSize white⟩ :: us, ?_, ?_, ?_⟩
    · exact List.forall_mem_cons.mpr ⟨hFirst, hUs⟩
    · rw [Option.map_some] at hText
      rw [spaced, spaced, hGap, hGap', hStop, hText]
    · have hFirst := cuts_lexeme hCut.value_ne hCut.head hLexeme (start' + byteSize white)
      rw [String.ofList_toList] at hFirst
      rw [spaced, hGap, List.append_assoc]
      exact (cuts_space (white_of_gap hWhite)).append (hFirst.append hLater)

theorem Lexed.literal (h : Lexed (ts ++ [q])) (hPlain : ∀ t ∈ ts, TokenClass.plain.has t = true)
    (hQuote : quotationMark.has q = true) :
    LeafTexts.printable.literal (String.ofList (spaced none ts)) := by
  obtain ⟨start, text, more, hScan⟩ := h
  rw [List.append_assoc, List.singleton_append] at hScan
  refine printable_literal fun start' rest => ?_
  rw [String.toList_ofList]
  exact reread_literal hScan hPlain hQuote none start' rest

end SqlReader
