import SqlReader.Cursor
import SqlReader.Proofs.Lexing.Direct

/-! The two readings of a keyword: the rule that cuts it off a text, which folds the case of all
characters and wants a whole word, and the comparison of a token with its spelling, which ignores
the case of ASCII.  They agree but for the long s, which the rule takes for an `s` and which ends
no word. -/

namespace SqlReader

open Text

variable {rules : List Rule} {start : Nat} {text word after : List Char} {lexeme : Lexeme}
  {k l : Keyword}

/-! ### Where a lexeme stands -/

theorem scan_of_none (h : firstMatch rules text = none) :
    scan rules start text = ⟨[], start, text⟩ := by
  rw [scan]
  split
  · rfl
  · simp_all

theorem scan_of_some {rule : Rule} {value : List Char}
    (h : firstMatch rules text = some (rule, value)) :
    scan rules start text =
      { scan rules (start + byteSize value) (text.drop value.length) with
        lexemes := ⟨rule, String.ofList value, start⟩ ::
          (scan rules (start + byteSize value) (text.drop value.length)).lexemes } := by
  rw [scan]
  split
  · simp_all
  · rename_i hSome
    rw [h] at hSome
    cases hSome
    rfl

/-- The lexeme stands after `before`; the rule that cut it off was the first to match there; and
what the scan leaves unread is what it leaves of the text after the lexeme. -/
structure CutOff (rules : List Rule) (s : Scan) (start : Nat) (text : List Char) (lexeme : Lexeme)
    (before after : List Char) : Prop where
  split : text = before ++ lexeme.value.toList ++ after
  start_eq : lexeme.start = start + byteSize before
  rule : firstMatch rules (lexeme.value.toList ++ after) =
    some (lexeme.rule, lexeme.value.toList)
  unread : s.unread = (scan rules (lexeme.start + byteSize lexeme.value.toList) after).unread

theorem scan_cutOff (hMem : lexeme ∈ (scan rules start text).lexemes) :
    ∃ before after, CutOff rules (scan rules start text) start text lexeme before after := by
  fun_induction scan rules start text with
  | case1 => cases hMem
  | case2 start text rule value hMatch rest ih =>
    obtain ⟨later, rfl⟩ := firstMatch_isPrefix hMatch
    have hDrop : (value ++ later).drop value.length = later := List.drop_left
    rcases List.mem_cons.mp hMem with rfl | hMem
    · refine ⟨[], later, ⟨by simp, by simp, by simpa using hMatch, ?_⟩⟩
      rw [String.toList_ofList, ← hDrop]
    · obtain ⟨before, after, hCut⟩ := ih hMem
      have hRest : rest = scan rules (start + byteSize value) later := by rw [← hDrop]
      rw [hDrop] at hCut
      refine ⟨value ++ before, after, ⟨?_, ?_, hCut.rule, ?_⟩⟩
      · rw [hCut.split]
        simp
      · rw [hCut.start_eq, byteSize_append, Nat.add_assoc]
      · rw [hRest]
        exact hCut.unread

theorem CutOff.charAt?_stop {text : String} {before after : List Char} {s : Scan}
    (h : CutOff rules s 0 text.toList lexeme before after) :
    charAt? text lexeme.token.stop = after.head? := by
  have hStop : lexeme.token.stop = byteSize (before ++ lexeme.value.toList) := by
    rw [Token.stop, Lexeme.token, utf8ByteSize_eq, h.start_eq, byteSize_append, Nat.zero_add]
  rw [hStop]
  exact charAt?_byteSize h.split

theorem CutOff.firstMatch_after {s : Scan} {before after : List Char}
    (h : CutOff rules s start text lexeme before after) (hUnread : s.unread = [])
    (hAfter : after ≠ []) : firstMatch rules after ≠ none := by
  intro hNone
  have hLeft := h.unread.symm.trans hUnread
  rw [scan_of_none hNone] at hLeft
  exact hAfter hLeft

/-! ### The two readings -/

theorem spells_of_keyword_rule {rule : Rule} {value : List Char}
    (h : firstMatch lexicon text = some (rule, value)) (hRule : rule.pattern = .keyword k) :
    spells value k.spelling = true := by
  obtain ⟨-, hMatched, hValue⟩ := firstMatch_some h
  rw [hRule, keyword_matched] at hMatched
  split at hMatched
  · rw [hMatched]
    assumption
  · exact absurd hMatched hValue

theorem firstMatch_keyword (h : spells word k.spelling = true) (hEnd : atWordEnd after = true) :
    firstMatch lexicon (word ++ after) = some (⟨.keyword k, .reserved⟩, word) := by
  have hWord := headWord_append (spells_wordChars h) hEnd
  have hFound : headKeyword? (word ++ after) = some k :=
    headKeyword?_eq_some.mpr (by rw [hWord]; exact h)
  obtain ⟨c, cs, rfl⟩ := List.exists_cons_of_ne_nil (spells_ne_nil h)
  have hSpace := isWhiteSpace_of_isWordChar (spells_wordChars h c List.mem_cons_self)
  rw [List.cons_append] at hFound hWord ⊢
  rw [firstMatch_lexicon, hSpace, if_neg (by simp), hFound, hWord]

/-- A word that starts with a letter and is cut off before a word character is cut off by the rule
of names, before a character that is not one of names. -/
theorem rule_of_unended {rule : Rule} {c d : Char} {cs ds : List Char} (hAlpha : c.isAlpha = true)
    (hWord : ∀ x ∈ c :: cs, isWordChar x = true) (hNext : isWordChar d = true)
    (h : firstMatch lexicon (c :: cs ++ d :: ds) = some (rule, c :: cs)) :
    rule = ⟨.name, .id⟩ ∧ Pattern.isNameChar d = false := by
  have hName := isNameChar_of_isAlpha hAlpha
  obtain ⟨hStar, hMark⟩ := not_or.mp (mt List.mem_cons.mpr (not_mark_of_isNameChar hName))
  have hDigit := isDigit_of_isAlpha hAlpha
  -- A run of characters that takes `d` as well is longer than the word.
  have hLonger {test : Char → Bool} (hTest : ∀ x ∈ c :: cs, test x = true) (hd : test d = true) :
      (c :: cs ++ d :: ds).takeWhile test ≠ c :: cs := by
    rw [List.takeWhile_append_of_pos hTest, List.takeWhile_cons_of_pos hd]
    simp
  rw [List.cons_append, firstMatch_lexicon, isWhiteSpace_of_isNameChar hName,
    if_neg (by simp)] at h
  cases hFound : headKeyword? (c :: (cs ++ d :: ds)) with
  | some l =>
    rw [hFound] at h
    exact absurd (Prod.mk.inj (Option.some.inj h)).2 (hLonger hWord hNext)
  | none =>
    simp only [hFound, hMark, hStar, hDigit, hName, Bool.false_eq_true, if_false, if_true,
      Option.some.injEq, Prod.mk.injEq] at h
    obtain ⟨hRule, hValue⟩ := h
    refine ⟨hRule.symm, Bool.eq_false_iff.mpr fun hd => hLonger ?_ hd hValue⟩
    rw [← hValue]
    exact List.all_eq_true.mp List.all_takeWhile

theorem unread_of_lex {text : String} {tokens : List Token} (h : lex text = .ok tokens) :
    (Scan.ofText lexicon text).unread = [] := by
  rw [lex, lexWith, Scan.result] at h
  split at h
  · exact List.isEmpty_iff.mp ‹_›
  · cases h

theorem terminal_eq_hasText {c : Cursor} {t : Token} (hCurrent : c.current = t)
    (hKind : t.kind.isEmitted = true) (text : String) : (c.terminal text).1 = t.hasText text := by
  have hEnd : t.isEnd = false := by
    obtain ⟨value, kind, start⟩ := t
    cases kind <;> simp_all [TokenKind.isEmitted, Token.isEnd]
  have hPeek : c.peekAny [text] = t.hasText text := by
    simp [Cursor.peekAny, Cursor.atEnd, hCurrent, hEnd]
  rw [Cursor.terminal, Cursor.terminalAny, hPeek]
  split
  · symm; assumption
  · simp_all

/-- A word of ASCII that spells a keyword is cut off by the rule of the keyword, unless a long s
follows: then the word goes on, and its first letters are cut off as a name. -/
theorem CutOff.rule_of_spells {s : Scan} {before : List Char}
    (hCut : CutOff lexicon s start text lexeme before after) (hUnread : s.unread = [])
    (hSpells : spells lexeme.value.toList k.spelling = true) (hLong : longS ∉ lexeme.value.toList) :
    (lexeme.rule = ⟨.keyword k, .reserved⟩ ↔ after.head? ≠ some longS) ∧
      (after.head? = some longS → lexeme.rule = ⟨.name, .id⟩) := by
  by_cases hEnd : atWordEnd after = true
  · have hRule : lexeme.rule = ⟨.keyword k, .reserved⟩ :=
      (Prod.mk.inj (Option.some.inj (hCut.rule.symm.trans (firstMatch_keyword hSpells hEnd)))).1
    have hNext : after.head? ≠ some longS := fun h => by
      obtain ⟨ds, rfl⟩ := List.head?_eq_some_iff.mp h
      simp [atWordEnd, isWordChar_longS] at hEnd
    simp [hRule, hNext]
  · cases after with
    | nil => exact absurd rfl hEnd
    | cons d ds =>
      have hNext : isWordChar d = true := by simpa [atWordEnd] using hEnd
      obtain ⟨c, cs, hValue⟩ := List.exists_cons_of_ne_nil (spells_ne_nil hSpells)
      have hRule := hCut.rule
      rw [hValue] at hRule hSpells hLong
      have hAlpha : c.isAlpha = true := by
        refine (spells_alpha hSpells c List.mem_cons_self).resolve_right ?_
        rintro rfl
        exact hLong List.mem_cons_self
      obtain ⟨hName, hNot⟩ := rule_of_unended hAlpha (spells_wordChars hSpells) hNext hRule
      have hSome := hCut.firstMatch_after hUnread (List.cons_ne_nil d ds)
      -- The next character is one of words but not of names, so only the rule of a keyword takes
      -- it, and of these characters only the long s begins a keyword.
      have hLongS : d = longS := by
        refine Classical.not_not.mp fun hNe => hSome ?_
        have hNone : ruleLexeme (d :: ds) = none :=
          ruleLexeme_outside (inAlphabet_of_isWordChar hNext hNot) hNe
        exact Option.map_eq_none_iff.mp hNone
      simp [hName, hLongS]

/-- What is cut off by the rule of a keyword is the terminal of that keyword if it has no long s,
and of no other keyword.  What is spelled like a keyword is cut off by the rule of the keyword if
no long s follows, and else as a name. -/
theorem keyword_readings {text : String} {tokens : List Token} {lexeme : Lexeme}
    (hLex : lex text = .ok tokens) (hMem : lexeme ∈ (Scan.ofText lexicon text).emitted)
    (k : Keyword) :
    (lexeme.rule.pattern = .keyword k → ∀ c : Cursor, c.current = lexeme.token →
      ((c.terminal k.spelling).1 = true ↔ longS ∉ lexeme.value.toList) ∧
      ∀ l, l ≠ k → (c.terminal l.spelling).1 = false) ∧
    (lexeme.token.hasText k.spelling = true →
      (lexeme.rule = ⟨.keyword k, .reserved⟩ ↔
        charAt? text lexeme.token.stop ≠ some longS) ∧
      (charAt? text lexeme.token.stop = some longS → lexeme.rule = ⟨.name, .id⟩)) := by
  obtain ⟨hScan, hEmitted⟩ := List.mem_filter.mp hMem
  obtain ⟨before, after, hCut⟩ := scan_cutOff hScan
  have hSame : ∀ l : Keyword, lexeme.token.hasText l.spelling = true ↔
      spells lexeme.value.toList l.spelling = true ∧ longS ∉ lexeme.value.toList := fun l => by
    rw [← sameIgnoringCase_spelling_iff, String.ofList_toList]
    rfl
  constructor
  · intro hRule c hCurrent
    have hSpells := spells_of_keyword_rule hCut.rule hRule
    rw [terminal_eq_hasText hCurrent hEmitted, hSame, and_iff_right hSpells]
    refine ⟨Iff.rfl, fun l hNe => ?_⟩
    rw [terminal_eq_hasText hCurrent hEmitted, Bool.eq_false_iff, ne_eq, hSame]
    exact fun h => hNe (spells_unique h.1 hSpells)
  · intro hText
    obtain ⟨hSpells, hLong⟩ := (hSame k).mp hText
    rw [hCut.charAt?_stop]
    exact hCut.rule_of_spells (unread_of_lex hLex) hSpells hLong

theorem keyword_readings_select :
    lex "Select" = .ok [⟨"Select", .reserved, 0⟩] ∧
      ⟨⟨.keyword .SELECT, .reserved⟩, "Select", 0⟩ ∈ (Scan.ofText lexicon "Select").emitted ∧
      ((Cursor.ofTokens [⟨"Select", .reserved, 0⟩]).terminal "SELECT").1 = true ∧
      charAt? "Select" 6 ≠ some longS := by
  have hMatch : firstMatch lexicon "Select".toList =
      some (⟨.keyword .SELECT, .reserved⟩, "Select".toList) := by decide +kernel
  have hScan : Scan.ofText lexicon "Select" =
      ⟨[⟨⟨.keyword .SELECT, .reserved⟩, "Select", 0⟩], 6, []⟩ := by
    rw [Scan.ofText, scan_of_some hMatch, List.drop_length, scan_of_none (by decide)]
    decide
  have hLex : lex "Select" = .ok [⟨"Select", .reserved, 0⟩] := by
    rw [lex, lexWith, hScan]
    rfl
  have hMem : ⟨⟨.keyword .SELECT, .reserved⟩, "Select", 0⟩ ∈
      (Scan.ofText lexicon "Select").emitted := by
    rw [hScan]
    decide
  obtain ⟨hTerminal, hRule⟩ := keyword_readings hLex hMem .SELECT
  exact ⟨hLex, hMem, (hTerminal rfl _ rfl).1.mpr (by decide), (hRule (by decide)).1.mp rfl⟩

/-- With the long s a keyword is cut off that no terminal matches, and before a long s a terminal
matches what has been cut off as a name. -/
theorem long_s_readings :
    (Scan.ofText lexicon "\u017Felect" =
      ⟨[⟨⟨.keyword .SELECT, .reserved⟩, "\u017Felect", 0⟩], 7, []⟩ ∧
      ((Cursor.ofTokens [⟨"\u017Felect", .reserved, 0⟩]).terminal "SELECT").1 = false) ∧
    (Scan.ofText lexicon "FROM\u017Fet" =
      ⟨[⟨⟨.name, .id⟩, "FROM", 0⟩, ⟨⟨.keyword .SET, .reserved⟩, "\u017Fet", 4⟩], 8, []⟩ ∧
      ((Cursor.ofTokens [⟨"FROM", .id, 0⟩]).terminal "FROM").1 = true) := by
  have hSelect : firstMatch lexicon "\u017Felect".toList =
      some (⟨.keyword .SELECT, .reserved⟩, "\u017Felect".toList) := by decide +kernel
  have hFrom : firstMatch lexicon "FROM\u017Fet".toList = some (⟨.name, .id⟩, "FROM".toList) := by
    decide +kernel
  have hSet : firstMatch lexicon "\u017Fet".toList =
      some (⟨.keyword .SET, .reserved⟩, "\u017Fet".toList) := by decide +kernel
  have hEnd (start : Nat) : scan lexicon start [] = ⟨[], start, []⟩ := scan_of_none (by decide)
  refine ⟨⟨?_, by decide⟩, ?_, by decide⟩
  · rw [Scan.ofText, scan_of_some hSelect, List.drop_length, hEnd]
    decide
  · rw [Scan.ofText, scan_of_some hFrom,
      show "FROM\u017Fet".toList.drop "FROM".toList.length = "\u017Fet".toList from rfl,
      scan_of_some hSet, List.drop_length, hEnd]
    decide

end SqlReader
