import SqlReader.Proofs.Lexing.OnePass

/-! A scanner without rules, which looks at one character to see what kind of lexeme begins there.
On texts without the long s it gives what the rules give.  The two may take a word for different
things, but then the character after the word begins no lexeme and both fail there. -/

namespace SqlReader

open Text Pattern

/-- The word is one of the language, ignoring the case of ASCII. -/
def isKeyword (word : List Char) : Bool :=
  Keyword.all.any fun k => sameIgnoringCase (String.ofList word) k.spelling

/-- A lexeme told by its first character: a run of digits, a run of name characters, or a mark. -/
def directLexeme : List Char → Option (TokenKind × List Char)
  | [] => none
  | c :: cs =>
    if c.isDigit then some (.int, (c :: cs).takeWhile Char.isDigit)
    else if isNameChar c then
      let word := (c :: cs).takeWhile isNameChar
      some (if isKeyword word then .reserved else .id, word)
    else if c ∈ punctuation then some (.reserved, [c])
    else if c = '*' then some (.id, ['*'])
    else none

/-- The characters that texts of the language are made of. -/
def inAlphabet (c : Char) : Bool := isWhiteSpace c || isNameChar c || c == '*' || c ∈ punctuation

variable {c : Char} {cs text word rest : List Char} {k : Keyword} {start : Nat}

theorem isKeyword_iff : isKeyword word = true ↔
    ∃ k : Keyword, sameIgnoringCase (String.ofList word) k.spelling = true := by
  simp [isKeyword, Keyword.mem_all]

/-! ### One lexeme -/

theorem marks_outside_names : ∀ m ∈ '*' :: punctuation,
    isNameChar m = false ∧ m.toNat < 128 ∧ m ≠ longS ∧ m.isAlpha = false := by
  have hAll : ('*' :: punctuation).all (fun m =>
      !isNameChar m && decide (m.toNat < 128) && m != longS && !m.isAlpha) = true := by decide
  intro m hm
  simpa [and_assoc] using List.all_eq_true.mp hAll m hm

theorem isWhiteSpace_mark {m : Char} (hm : m ∈ '*' :: punctuation) : isWhiteSpace m = false := by
  have hAll : ('*' :: punctuation).all (fun m => !isWhiteSpace m) = true := by decide
  simpa using List.all_eq_true.mp hAll m hm

theorem headKeyword?_of_head (hAlpha : c.isAlpha = false) (hLong : c ≠ longS) :
    headKeyword? (c :: cs) = none := by
  refine Option.eq_none_iff_forall_ne_some.mpr fun k h => ?_
  have hSpells := headKeyword?_eq_some.mp h
  by_cases hWord : isWordChar c = true
  · have hMem : c ∈ headWord (c :: cs) := by simp [headWord, hWord]
    simpa [hAlpha, hLong] using spells_alpha hSpells c hMem
  · exact spells_ne_nil hSpells (by simp [headWord, hWord])

theorem ruleLexeme_cons (hSpace : isWhiteSpace c = false) :
    ruleLexeme (c :: cs) = match headKeyword? (c :: cs) with
      | some _ => some (.reserved, headWord (c :: cs))
      | none =>
        if c ∈ punctuation then some (.reserved, [c])
        else if c = '*' then some (.id, ['*'])
        else if c.isDigit then some (.int, (c :: cs).takeWhile Char.isDigit)
        else if isNameChar c then some (.id, (c :: cs).takeWhile isNameChar)
        else none := by
  rw [ruleLexeme, firstMatch_lexicon, hSpace, if_neg (by simp)]
  cases headKeyword? (c :: cs) with
  | some k => rfl
  | none =>
    dsimp only
    repeat' split
    all_goals rfl

theorem not_mark_of_isNameChar (h : isNameChar c = true) : c ∉ '*' :: punctuation := fun hMem => by
  simp [(marks_outside_names c hMem).1] at h

theorem ruleLexeme_digit (hDigit : c.isDigit = true) :
    ruleLexeme (c :: cs) = some (.int, (c :: cs).takeWhile Char.isDigit) := by
  have hName := isNameChar_of_isDigit hDigit
  obtain ⟨hStar, hMark⟩ := not_or.mp (mt List.mem_cons.mpr (not_mark_of_isNameChar hName))
  have hLong : c ≠ longS := by
    rintro rfl
    exact absurd hDigit (by decide)
  rw [ruleLexeme_cons (isWhiteSpace_of_isNameChar hName),
    headKeyword?_of_head (isAlpha_of_isDigit hDigit) hLong]
  simp [hMark, hStar, hDigit]

theorem ruleLexeme_name (hName : isNameChar c = true) (hDigit : c.isDigit = false) :
    ruleLexeme (c :: cs) = match headKeyword? (c :: cs) with
      | some _ => some (.reserved, headWord (c :: cs))
      | none => some (.id, (c :: cs).takeWhile isNameChar) := by
  obtain ⟨hStar, hMark⟩ := not_or.mp (mt List.mem_cons.mpr (not_mark_of_isNameChar hName))
  rw [ruleLexeme_cons (isWhiteSpace_of_isNameChar hName)]
  simp [hMark, hStar, hDigit, hName]

/-- What is cut off a word does not depend on what comes after the word. -/
theorem ruleLexeme_before (hSpace : isWhiteSpace c = false) (hEnd : atWordEnd rest = true) :
    ruleLexeme (c :: cs ++ rest) = ruleLexeme (c :: cs) := by
  have hWord : headWord (c :: cs ++ rest) = headWord (c :: cs) := headWord_before hEnd
  have hKeyword : headKeyword? (c :: cs ++ rest) = headKeyword? (c :: cs) := by
    rw [headKeyword?, headKeyword?, hWord]
  have hDigits : (c :: cs ++ rest).takeWhile Char.isDigit = (c :: cs).takeWhile Char.isDigit :=
    takeWhile_before (fun _ h => isWordChar_of_isNameChar (isNameChar_of_isDigit h)) hEnd
  have hNames : (c :: cs ++ rest).takeWhile isNameChar = (c :: cs).takeWhile isNameChar :=
    takeWhile_before (fun _ => isWordChar_of_isNameChar) hEnd
  rw [List.cons_append] at hKeyword hDigits hNames hWord ⊢
  rw [ruleLexeme_cons hSpace, ruleLexeme_cons hSpace, hKeyword, hDigits, hNames, hWord]

/-- A word of name characters is a word of the language exactly if it spells a keyword. -/
theorem isKeyword_eq (hName : ∀ c ∈ word, isNameChar c = true) (hEnd : atWordEnd rest = true) :
    isKeyword word = (headKeyword? (word ++ rest)).isSome := by
  have hHead : headWord (word ++ rest) = word :=
    headWord_append (fun c hc => isWordChar_of_isNameChar (hName c hc)) hEnd
  have hLong : longS ∉ word := fun hMem => absurd (hName _ hMem) (by decide)
  rw [Bool.eq_iff_iff, isKeyword_iff, Option.isSome_iff_exists]
  refine exists_congr fun k => ?_
  rw [sameIgnoringCase_spelling_iff, headKeyword?_eq_some, hHead, and_iff_left hLong]

/-- The rules and the direct scanner cut off the same, unless a name stands before a word character
that is not one of names. -/
theorem ruleLexeme_eq_direct (hSpace : isWhiteSpace c = false) (hHead : c ≠ longS)
    (hEnd : c.isDigit = false → isNameChar c = true →
      atWordEnd ((c :: cs).dropWhile isNameChar) = true) :
    ruleLexeme (c :: cs) = directLexeme (c :: cs) := by
  by_cases hDigit : c.isDigit = true
  · rw [ruleLexeme_digit hDigit, directLexeme, if_pos hDigit]
  · by_cases hName : isNameChar c = true
    · have hEnd := hEnd (Bool.eq_false_iff.mpr hDigit) hName
      have hNames : ∀ d ∈ (c :: cs).takeWhile isNameChar, isNameChar d = true :=
        List.all_eq_true.mp List.all_takeWhile
      have hKeyword := isKeyword_eq hNames hEnd
      have hWord := headWord_append (fun d hd => isWordChar_of_isNameChar (hNames d hd)) hEnd
      rw [List.takeWhile_append_dropWhile] at hKeyword hWord
      rw [ruleLexeme_name hName (Bool.eq_false_iff.mpr hDigit), directLexeme, if_neg hDigit,
        if_pos hName]
      dsimp only
      rw [hKeyword, hWord]
      cases headKeyword? (c :: cs) <;> rfl
    · have hNot := mt (isNameChar_iff c).mpr hName
      rw [not_or, not_or] at hNot
      rw [ruleLexeme_cons hSpace, headKeyword?_of_head (Bool.eq_false_iff.mpr hNot.1) hHead]
      simp [directLexeme, hNot.2.1, hName]

/-! ### Whole texts -/

theorem inAlphabet_eq_false : inAlphabet c = false ↔ isWhiteSpace c = false ∧
    isNameChar c = false ∧ c ≠ '*' ∧ c ∉ punctuation := by
  simp [inAlphabet, and_assoc]

theorem directLexeme_outside (h : inAlphabet c = false) : directLexeme (c :: cs) = none := by
  obtain ⟨-, hName, hStar, hMark⟩ := inAlphabet_eq_false.mp h
  have hNot := mt (isNameChar_iff c).mpr (by simp [hName])
  rw [not_or, not_or] at hNot
  simp [directLexeme, hNot.2.1, hName, hStar, hMark]

theorem ruleLexeme_outside (h : inAlphabet c = false) (hLong : c ≠ longS) :
    ruleLexeme (c :: cs) = none := by
  obtain ⟨hSpace, hName, -, -⟩ := inAlphabet_eq_false.mp h
  rw [ruleLexeme_eq_direct hSpace hLong (by simp [hName]), directLexeme_outside h]

theorem directLexeme_inside (cs : List Char) (hSpace : isWhiteSpace c = false)
    (h : inAlphabet c = true) :
    ∃ kind value, directLexeme (c :: cs) = some (kind, c :: value) ∧ (c :: value) <+: c :: cs ∧
      ∀ d ∈ c :: value, inAlphabet d = true := by
  have hRun {test : Char → Bool} (hTest : test c = true)
      (hIn : ∀ d, test d = true → inAlphabet d = true) :
      ∃ value, (c :: cs).takeWhile test = c :: value ∧ (c :: value) <+: c :: cs ∧
        ∀ d ∈ c :: value, inAlphabet d = true := by
    have hTake : (c :: cs).takeWhile test = c :: cs.takeWhile test := by simp [hTest]
    refine ⟨_, hTake, hTake ▸ List.takeWhile_prefix test, fun d hd => hIn d ?_⟩
    rw [← hTake] at hd
    exact List.all_eq_true.mp List.all_takeWhile d hd
  have hName {d : Char} (hd : isNameChar d = true) : inAlphabet d = true := by
    simp [inAlphabet, hd]
  by_cases hDigit : c.isDigit = true
  · obtain ⟨value, hValue, hSplit⟩ := hRun hDigit fun d hd =>
      hName (isNameChar_of_isDigit hd)
    exact ⟨_, value, by rw [directLexeme, if_pos hDigit, hValue], hSplit⟩
  · by_cases hLetter : isNameChar c = true
    · obtain ⟨value, hValue, hSplit⟩ := hRun hLetter fun _ => hName
      exact ⟨_, value, by rw [directLexeme, if_neg hDigit, if_pos hLetter, hValue], hSplit⟩
    · have hOne : [c] <+: c :: cs ∧ ∀ d ∈ [c], inAlphabet d = true := by simpa using h
      by_cases hMark : c ∈ punctuation
      · exact ⟨.reserved, [], by simp [directLexeme, hDigit, hLetter, hMark], hOne⟩
      · obtain rfl : c = '*' := by simpa [inAlphabet, hSpace, hLetter, hMark] using h
        exact ⟨.id, [], by simp [directLexeme, hDigit, hLetter, hMark], hOne⟩

theorem directLexeme_none_iff (hSpace : isWhiteSpace c = false) :
    directLexeme (c :: cs) = none ↔ inAlphabet c = false := by
  refine ⟨fun hNone => Bool.eq_false_iff.mpr fun hIn => ?_, directLexeme_outside⟩
  obtain ⟨kind, value, hSome, -⟩ := directLexeme_inside cs hSpace hIn
  rw [hNone] at hSome
  cases hSome

theorem directLexeme_split {kind : TokenKind} {value : List Char} (hSpace : isWhiteSpace c = false)
    (h : directLexeme (c :: cs) = some (kind, value)) :
    value ≠ [] ∧ (∀ d ∈ value.head?, isWhiteSpace d = false) ∧
      c :: cs = value ++ cs.drop (value.length - 1) ∧ ∀ d ∈ value, inAlphabet d = true := by
  have hIn : inAlphabet c = true := by
    refine (Bool.not_eq_false _).mp fun hOut => ?_
    rw [directLexeme_outside hOut] at h
    cases h
  obtain ⟨kind', value', hSome, ⟨after, hAfter⟩, hAll⟩ := directLexeme_inside cs hSpace hIn
  obtain ⟨rfl, rfl⟩ := Prod.mk.inj (Option.some.inj (hSome.symm.trans h))
  refine ⟨List.cons_ne_nil c value', by simpa using hSpace, ?_, hAll⟩
  obtain ⟨-, rfl⟩ := List.cons.inj hAfter
  simp

/-- The direct scanner fails at the first character outside the alphabet. -/
theorem onePass_direct_error (start : Nat) (text : List Char) (error : LexError) :
    onePass directLexeme start text = .error error ↔
      text.dropWhile inAlphabet ≠ [] ∧
        error = ⟨start + byteSize (text.takeWhile inAlphabet),
          String.ofList (text.dropWhile inAlphabet)⟩ := by
  fun_induction onePass directLexeme start text with
  | case1 start => simp
  | case2 start c cs hSpace ih =>
    have hIn : inAlphabet c = true := by simp [inAlphabet, hSpace]
    rw [ih]
    simp [hIn, Nat.add_assoc]
  | case3 start c cs hSpace hNone =>
    have hOut := (directLexeme_none_iff (Bool.eq_false_iff.mpr hSpace)).mp hNone
    simp [hOut, eq_comm]
  | case4 start c cs hSpace kind value hSome ih =>
    obtain ⟨-, -, hSplit, hAll⟩ := directLexeme_split (Bool.eq_false_iff.mpr hSpace) hSome
    rw [hSplit, List.takeWhile_append_of_pos hAll, List.dropWhile_append_of_pos hAll,
      byteSize_append, ← Nat.add_assoc, ← ih]
    cases onePass directLexeme (start + byteSize value) (cs.drop (value.length - 1)) <;>
      simp [Except.map]

/-! ### The rules and the direct scanner -/

theorem inAlphabet_of_isWordChar (hWord : isWordChar c = true) (hName : isNameChar c = false) :
    inAlphabet c = false := by
  have hMarks : c ∉ '*' :: punctuation := fun hMem => by
    have hAscii := (marks_outside_names c hMem).2.1
    rw [isWordChar_ascii hAscii, hName] at hWord
    cases hWord
  obtain ⟨hStar, hMark⟩ := not_or.mp (mt List.mem_cons.mpr hMarks)
  exact inAlphabet_eq_false.mpr ⟨isWhiteSpace_of_isWordChar hWord, hName, hStar, hMark⟩

theorem ruleLexeme_of_unended {d : Char} {ds : List Char} (hName : isNameChar c = true)
    (hDigit : c.isDigit = false) (hRest : (c :: cs).dropWhile isNameChar = d :: ds)
    (hWord : isWordChar d = true) (hNot : isNameChar d = false) (hLong : d ≠ longS) :
    ruleLexeme (c :: cs) = some (.id, (c :: cs).takeWhile isNameChar) := by
  have hNames : ∀ d ∈ (c :: cs).takeWhile isNameChar, isWordChar d = true := fun d hd =>
    isWordChar_of_isNameChar (List.all_eq_true.mp List.all_takeWhile d hd)
  have hMem : d ∈ headWord (c :: cs) := by
    rw [headWord, ← List.takeWhile_append_dropWhile (p := isNameChar) (l := c :: cs), hRest,
      List.takeWhile_append_of_pos hNames]
    simp [hWord]
  have hNone : headKeyword? (c :: cs) = none := by
    refine Option.eq_none_iff_forall_ne_some.mpr fun k h => ?_
    rcases spells_alpha (headKeyword?_eq_some.mp h) d hMem with hAlpha | hEq
    · simp [isNameChar_of_isAlpha hAlpha] at hNot
    · exact hLong hEq
  rw [ruleLexeme_name hName hDigit, hNone]

/-- A name that a word character follows is cut off by both, and both fail after it. -/
theorem onePass_unended {d : Char} {ds : List Char} (hName : isNameChar c = true)
    (hDigit : c.isDigit = false) (hRest : (c :: cs).dropWhile isNameChar = d :: ds)
    (hWord : isWordChar d = true) (hLong : d ≠ longS) :
    onePass ruleLexeme start (c :: cs) = onePass directLexeme start (c :: cs) := by
  have hNot : isNameChar d = false := by
    have hFirst := List.head?_dropWhile_not isNameChar (c :: cs)
    rwa [hRest] at hFirst
  have hOut := inAlphabet_of_isWordChar hWord hNot
  have hSpace := (inAlphabet_eq_false.mp hOut).1
  have hRule := ruleLexeme_of_unended hName hDigit hRest hWord hNot hLong
  have hDirect : directLexeme (c :: cs) =
      some (if isKeyword ((c :: cs).takeWhile isNameChar) then .reserved else .id,
        (c :: cs).takeWhile isNameChar) := by
    simp [directLexeme, hDigit, hName]
  have hSplit : c :: cs = (c :: cs).takeWhile isNameChar ++ d :: ds := by
    rw [← hRest, List.takeWhile_append_dropWhile]
  have hNe : (c :: cs).takeWhile isNameChar ≠ [] := by simp [hName]
  have hFirst : ∀ x ∈ ((c :: cs).takeWhile isNameChar).head?, isWhiteSpace x = false := by
    simpa [hName] using isWhiteSpace_of_isNameChar hName
  generalize (c :: cs).takeWhile isNameChar = word at *
  rw [hSplit] at hRule hDirect ⊢
  rw [onePass_lexeme hNe hFirst hRule, onePass_lexeme hNe hFirst hDirect,
    onePass_none hSpace (ruleLexeme_outside hOut hLong),
    onePass_none hSpace (directLexeme_outside hOut)]
  rfl

/-- Without the long s the scans agree.  Where their lexemes differ, both fail at the next one. -/
theorem onePass_rule_eq_direct (start : Nat) (text : List Char) (hLong : longS ∉ text) :
    onePass ruleLexeme start text = onePass directLexeme start text := by
  fun_induction onePass directLexeme start text with
  | case1 start => rw [onePass_nil]
  | case2 start c cs hSpace ih =>
    rw [onePass, if_pos hSpace, ih (fun hMem => hLong (List.mem_cons_of_mem c hMem))]
  | case3 start c cs hSpace hNone =>
    have hSpace := Bool.eq_false_iff.mpr hSpace
    have hHead : c ≠ longS := fun hEq => hLong (hEq ▸ List.mem_cons_self)
    exact onePass_none hSpace
      (ruleLexeme_outside ((directLexeme_none_iff hSpace).mp hNone) hHead)
  | case4 start c cs hSpace kind value hSome ih =>
    have hSpace := Bool.eq_false_iff.mpr hSpace
    have hHead : c ≠ longS := fun hEq => hLong (hEq ▸ List.mem_cons_self)
    obtain ⟨hValue, hFirst, hSplit, -⟩ := directLexeme_split hSpace hSome
    have hLater : longS ∉ cs.drop (value.length - 1) := fun hMem =>
      hLong (hSplit ▸ List.mem_append_right value hMem)
    by_cases hEnd : c.isDigit = false → isNameChar c = true →
        atWordEnd ((c :: cs).dropWhile isNameChar) = true
    · have hRule := (ruleLexeme_eq_direct hSpace hHead hEnd).trans hSome
      rw [hSplit] at hRule ⊢
      rw [onePass_lexeme hValue hFirst hRule, ih hLater]
    · obtain ⟨hDigit, hName, hWord⟩ : c.isDigit = false ∧ isNameChar c = true ∧
          atWordEnd ((c :: cs).dropWhile isNameChar) = false := by simpa using hEnd
      cases hRest : (c :: cs).dropWhile isNameChar with
      | nil => simp [hRest, atWordEnd] at hWord
      | cons d ds =>
        rw [hRest, atWordEnd, Bool.not_eq_false'] at hWord
        have hMem : d ∈ c :: cs :=
          (List.dropWhile_suffix isNameChar).mem (hRest ▸ List.mem_cons_self)
        have hNext : d ≠ longS := fun hEq => hLong (hEq ▸ hMem)
        rw [onePass_unended hName hDigit hRest hWord hNext, onePass, if_neg (by simp [hSpace]),
          hSome]

/-- Cutting a text by the rules is scanning it directly, and fails exactly at the first character
outside the alphabet. -/
theorem lex_eq_direct_scan (text : String) (hLong : longS ∉ text.toList) :
    lex text = onePass directLexeme 0 text.toList ∧
      ∀ error, lex text = .error error ↔ text.toList.dropWhile inAlphabet ≠ [] ∧
        error = ⟨byteSize (text.toList.takeWhile inAlphabet),
          String.ofList (text.toList.dropWhile inAlphabet)⟩ := by
  have hEq : lex text = onePass directLexeme 0 text.toList := by
    rw [lex_eq_onePass, onePass_rule_eq_direct 0 text.toList hLong]
  refine ⟨hEq, fun error => ?_⟩
  rw [hEq, onePass_direct_error, Nat.zero_add]

/-- A keyword before a word character: the rules take it for a name, and fail after it. -/
theorem lex_eq_direct_scan_fails : longS ∉ "SELECTé".toList ∧
    lex "SELECTé" = onePass directLexeme 0 "SELECTé".toList ∧
    lex "SELECTé" = .error ⟨6, "é"⟩ := by
  have hLong : longS ∉ "SELECTé".toList := by decide
  obtain ⟨hEq, hError⟩ := lex_eq_direct_scan "SELECTé" hLong
  exact ⟨hLong, hEq, (hError _).mpr ⟨by decide, by decide⟩⟩

end SqlReader
