import SqlReader.Proofs.Canonical.Leaves

/-! Names and words of ASCII can be read back.  A word between quotes may be cut into several
tokens, as digits end where a letter comes, but they touch. -/

namespace SqlReader

open Text Phrase Pattern Cursor

variable {word u v space after : List Char} {c : Char} {cs : List Char} {start : Nat}
  {ts us : List Token}

theorem ruleLexeme_alphanum (cs : List Char) (hFirst : c.isAlphanum = true) :
    ∃ kind test, test c = true ∧
      ruleLexeme (c :: cs) = some (kind, (c :: cs).takeWhile test) := by
  have hName := isNameChar_of_isAlphanum hFirst
  by_cases hDigit : c.isDigit = true
  · exact ⟨.int, Char.isDigit, hDigit, ruleLexeme_digit hDigit⟩
  · rw [ruleLexeme_name hName (Bool.eq_false_iff.mpr hDigit)]
    cases headKeyword? (c :: cs) with
    | some k => exact ⟨.reserved, isWordChar, isWordChar_of_isNameChar hName, rfl⟩
    | none => exact ⟨.id, isNameChar, hName, rfl⟩

/-- From byte `start` on, the text before `after` is cut into letters and numbers that give it
back. -/
structure CutPlain (start : Nat) (text after : List Char) (ts : List Token) : Prop where
  plain : ∀ t ∈ ts, TokenClass.plain.has t = true
  spaced_append : ∀ lastStop us, spaced lastStop (ts ++ us) =
    gap lastStop start ++ text ++ spaced (some (start + byteSize text)) us
  cuts : Cuts start text after ts

theorem CutPlain.append (hu : CutPlain start u (space ++ (v ++ after)) ts)
    (hSpace : space = [] ∨ space = [' '])
    (hv : CutPlain (start + byteSize u + byteSize space) v after us) :
    CutPlain start (u ++ (space ++ v)) after (ts ++ us) := by
  have hSize : start + byteSize u + byteSize space + byteSize v =
      start + byteSize (u ++ (space ++ v)) := by
    rw [byteSize_append, byteSize_append]
    omega
  refine ⟨List.forall_mem_append.mpr ⟨hu.plain, hv.plain⟩, fun lastStop ws => ?_, ?_⟩
  · rw [List.append_assoc, hu.spaced_append, hv.spaced_append, gap_space hSpace, hSize]
    simp
  · have hCuts := hu.cuts
    rw [← List.append_assoc] at hCuts
    exact hCuts.append ((cuts_space (white_of_gap hSpace)).append hv.cuts)

theorem cutPlain_run {kind : TokenKind}
    (hLexeme : ruleLexeme (c :: cs ++ after) = some (kind, c :: cs))
    (hWord : ∀ d ∈ c :: cs, d.isAlphanum = true) (start : Nat) :
    CutPlain start (c :: cs) after [⟨String.ofList (c :: cs), kind, start⟩] := by
  have hSpace : isWhiteSpace c = false :=
    isWhiteSpace_of_isNameChar (isNameChar_of_isAlphanum (hWord c List.mem_cons_self))
  have hPlain : TokenClass.plain.has ⟨String.ofList (c :: cs), kind, start⟩ = true := by
    have hAll : ∀ d ∈ c :: cs, isAlphanumeric d = true := fun d hd =>
      isAlphanumeric_of_isAlphanum (hWord d hd)
    simpa [TokenClass.has, isRun] using hAll
  refine ⟨by simpa using hPlain, fun lastStop us => ?_,
    cuts_lexeme (List.cons_ne_nil c cs) (by simpa using hSpace) hLexeme start⟩
  rw [List.singleton_append, spaced, Token.stop, utf8ByteSize_ofList, String.toList_ofList]

/-- A word of ASCII is cut into runs of letters and digits that touch. -/
theorem cutPlain_word (hNe : word ≠ []) (hWord : ∀ c ∈ word, c.isAlphanum = true)
    (hEnd : atWordEnd after = true) (start : Nat) : ∃ ts, CutPlain start word after ts := by
  induction hLength : word.length using Nat.strongRecOn generalizing word start with
  | _ n ih =>
    obtain ⟨c, cs, rfl⟩ := List.exists_cons_of_ne_nil hNe
    have hFirst := hWord c List.mem_cons_self
    have hSpace := isWhiteSpace_of_isNameChar (isNameChar_of_isAlphanum hFirst)
    obtain ⟨kind, test, hTest, hLexeme⟩ := ruleLexeme_alphanum cs hFirst
    rw [← ruleLexeme_before hSpace hEnd] at hLexeme
    obtain ⟨run, later, hRun, hSplit⟩ : ∃ run later, (c :: cs).takeWhile test = c :: run ∧
        c :: cs = c :: run ++ later :=
      ⟨cs.takeWhile test, cs.dropWhile test, by simp [hTest], by simp⟩
    rw [hRun, hSplit, List.append_assoc] at hLexeme
    rw [hSplit, List.forall_mem_append] at hWord
    have hCut := cutPlain_run hLexeme hWord.1 start
    rw [hSplit]
    cases later with
    | nil =>
      rw [List.append_nil]
      exact ⟨_, hCut⟩
    | cons d later =>
      have hShorter : (d :: later).length < n := by
        rw [← hLength, hSplit, List.length_append, List.length_cons (a := c)]
        omega
      obtain ⟨ts, hTs⟩ := ih _ hShorter (List.cons_ne_nil d later) hWord.2
        (start + byteSize (c :: run)) rfl
      exact ⟨_, hCut.append (.inl rfl) hTs⟩

theorem cutPlain_words {words : List String} (hNe : words ≠ [])
    (hWords : ∀ word ∈ words, word ≠ "" ∧ ∀ c ∈ word.toList, c.isAlphanum = true)
    (hEnd : atWordEnd after = true) (start : Nat) :
    ∃ ts, CutPlain start (" ".intercalate words).toList after ts := by
  induction words generalizing start with
  | nil => exact absurd rfl hNe
  | cons word words ih =>
    obtain ⟨⟨hWord, hChars⟩, hLater⟩ := List.forall_mem_cons.mp hWords
    have hWord : word.toList ≠ [] := by simpa using hWord
    cases words with
    | nil =>
      rw [String.intercalate_singleton]
      exact cutPlain_word hWord hChars hEnd start
    | cons word' words =>
      obtain ⟨ts, hTs⟩ := cutPlain_word hWord hChars (atWordEnd_space _) start
      obtain ⟨us, hUs⟩ := ih (List.cons_ne_nil word' words) hLater
        (start + byteSize word.toList + byteSize [' '])
      have hText : (" ".intercalate (word :: word' :: words)).toList =
          word.toList ++ ([' '] ++ (" ".intercalate (word' :: words)).toList) := by simp
      rw [hText]
      exact ⟨_, hTs.append (.inr rfl) hUs⟩

/-! ### Leaves -/

theorem ascii_name {text : String} (h : LeafTexts.ascii.name text) :
    LeafTexts.printable.name text := by
  obtain ⟨c, cs, hText, hFirst, hOthers⟩ := h
  have hLetter : c.isAlphanum = true := by simp [Char.isAlphanum, hFirst]
  have hAscii : isAlphabetic c = true := by
    rw [isAlphabetic_ascii (isNameChar_ascii (isNameChar_of_isAlphanum hLetter)), hFirst]
  have hName : isName (c :: cs) = true := by
    simpa [isName, hAscii] using fun d hd => isAlphanumeric_of_isAlphanum (hOthers d hd)
  have hWord : IsWord (c :: cs) :=
    .inl (List.forall_mem_cons.mpr ⟨isNameChar_of_isAlphanum hLetter,
      fun d hd => isNameChar_of_isAlphanum (hOthers d hd)⟩)
  rw [← hText] at hName hWord
  exact printable_name hName hWord

theorem ascii_int {text : String} (h : LeafTexts.ascii.int text) :
    LeafTexts.printable.int text := by
  obtain ⟨sign, digits, hText, hSign, hNe, hDigits⟩ := h
  exact printable_int hText hSign hNe hDigits

theorem ascii_literal {text : String} (h : LeafTexts.ascii.literal text) :
    LeafTexts.printable.literal text := by
  obtain ⟨words, rfl, hWords⟩ := h
  refine printable_literal fun start rest => ?_
  by_cases hNe : words = []
  · rw [hNe]
    exact ⟨[], by simp, by simp [spaced], cuts_nil⟩
  · obtain ⟨ts, hTs⟩ := cutPlain_words hNe hWords
      (atWordEnd_mark (m := '"') (by decide) rest) start
    refine ⟨ts, hTs.plain, ?_, hTs.cuts⟩
    have hText := hTs.spaced_append none []
    rwa [List.append_nil, spaced, List.append_nil] at hText

theorem ascii_statement {tree : Tree} (h : LeafTexts.ascii.IsStatement tree) :
    LeafTexts.printable.IsStatement tree :=
  h.imp (fun _ => ascii_name) (fun _ => ascii_int) fun _ => ascii_literal

end SqlReader
