import Mathlib.Data.List.Basic
import Mathlib.Data.List.TakeWhile
import SqlReader.Proofs.Lexing.FirstMatches

/-! Whole words.  A rule cuts off a part of a word or nothing of one, so no lexeme runs over the
start of a word, and a word that spells a keyword is one lexeme.  What is cut off by the rule of a
keyword ends where its word ends.  It also begins there, unless an integer has been split off. -/

namespace SqlReader

open Text Pattern

namespace Text

/-- No word runs on out of `before`. -/
def atWordStart (before : List Char) : Bool := !before.getLast?.any isWordChar

theorem atWordStart_eq_false {before : List Char} : atWordStart before = false ↔
    ∃ c, before.getLast? = some c ∧ isWordChar c = true := by
  simp [atWordStart, Option.any_eq_true]

theorem atWordStart_of_append {a b : List Char} (h : atWordStart (a ++ b) = true) :
    atWordStart b = true := by
  cases b with
  | nil => rfl
  | cons c b => rwa [atWordStart, List.getLast?_append_of_ne_nil a (List.cons_ne_nil c b)] at h

end Text

/-- The pattern matches characters of words.  The others match white space and marks. -/
def Pattern.ofWords : Pattern → Bool
  | space | char _ => false
  | keyword _ | digits | name => true

variable {rule : Rule} {rules : List Rule} {start : Nat} {k : Keyword} {c d : Char}
  {text u v word before after rest unread : List Char} {lexemes earlier later : List Lexeme}

/-! ### Rules and words -/

/-- The rules of the lexicon. -/
theorem mem_lexicon : rule ∈ lexicon ↔ rule = ⟨.space, .discard⟩ ∨
    (∃ k, rule = ⟨.keyword k, .reserved⟩) ∨ (∃ m ∈ punctuation, rule = ⟨.char m, .reserved⟩) ∨
    rule = ⟨.char '*', .id⟩ ∨ rule = ⟨.digits, .int⟩ ∨ rule = ⟨.name, .id⟩ := by
  simp [lexicon, Keyword.mem_all, eq_comm (b := rule)]

/-- What a rule matches is part of a word, or no character of it is. -/
theorem isWordChar_of_matched (hRule : rule ∈ lexicon) :
    ∀ c ∈ rule.pattern.matched text, isWordChar c = rule.pattern.ofWords := by
  intro c hc
  have hMark {m : Char} (hm : m ∈ '*' :: punctuation) (hc : c ∈ (Pattern.char m).matched text) :
      isWordChar c = false := by
    have hEq : c = m := by
      rw [Pattern.matched] at hc
      split at hc
      · exact List.mem_singleton.mp hc
      · cases hc
    obtain ⟨hName, hAscii, -⟩ := marks_outside_names m hm
    rw [hEq, isWordChar_ascii hAscii, hName]
  rcases mem_lexicon.mp hRule with rfl | ⟨k, rfl⟩ | ⟨m, hm, rfl⟩ | rfl | rfl | rfl
  · exact isWordChar_whiteSpace (List.mem_takeWhile_imp hc)
  · rw [keyword_matched] at hc
    split at hc
    · exact List.mem_takeWhile_imp hc
    · cases hc
  · exact hMark (List.mem_cons_of_mem _ hm) hc
  · exact hMark List.mem_cons_self hc
  · exact isWordChar_of_isNameChar (isNameChar_of_isDigit (List.mem_takeWhile_imp hc))
  · exact isWordChar_of_isNameChar (List.mem_takeWhile_imp hc)

/-- The character after the longest run fails the test. -/
theorem takeWhile_stops {test : Char → Bool} (h : (u ++ d :: v).takeWhile test = u) :
    test d = false := by
  refine Bool.eq_false_iff.mpr fun hd => ?_
  have hAll : ∀ x ∈ u, test x = true := h ▸ List.all_eq_true.mp List.all_takeWhile
  rw [List.takeWhile_append_of_pos hAll, List.takeWhile_cons_of_pos hd] at h
  simp at h

/-- The rule of a keyword matches up to the end of the word. -/
theorem atWordEnd_of_keyword (h : (Pattern.keyword k).matched (u ++ rest) = u) (hu : u ≠ []) :
    atWordEnd rest = true := by
  rw [keyword_matched] at h
  split at h
  · cases rest with
    | nil => rfl
    | cons d rest => simp [atWordEnd, takeWhile_stops h]
  · exact absurd h.symm hu

/-- A keyword right after a character of words: before it an integer has been cut off, or a name
that goes on with the long s of the keyword. -/
theorem rule_before_keyword (hMatch : firstMatch lexicon (u ++ (v ++ after)) = some (rule, u))
    (hLast : u.getLast? = some c) (hc : isWordChar c = true)
    (hSpells : spells v k.spelling = true) :
    rule = ⟨.digits, .int⟩ ∨ rule = ⟨.name, .id⟩ ∧ v.head? = some longS := by
  obtain ⟨hRule, hMatched, hNe⟩ := firstMatch_some hMatch
  have hWords : rule.pattern.ofWords = true := by
    rw [← hc, isWordChar_of_matched hRule c (hMatched ▸ List.mem_of_getLast? hLast)]
  obtain ⟨d, ds, rfl⟩ := List.exists_cons_of_ne_nil (spells_ne_nil hSpells)
  have hd := spells_wordChars hSpells d List.mem_cons_self
  rcases mem_lexicon.mp hRule with rfl | ⟨l, rfl⟩ | ⟨m, -, rfl⟩ | rfl | rfl | rfl
  · cases hWords
  · have hEnd := atWordEnd_of_keyword hMatched.symm hNe
    simp [atWordEnd, hd] at hEnd
  · cases hWords
  · cases hWords
  · exact .inl rfl
  · refine .inr ⟨rfl, ?_⟩
    have hNot : isNameChar d = false := takeWhile_stops hMatched.symm
    rcases spells_alpha hSpells d List.mem_cons_self with hAlpha | rfl
    · simp [isNameChar_of_isAlpha hAlpha] at hNot
    · rfl

/-- No lexeme runs over the start of a word. -/
theorem cut_before_word (hMatch : firstMatch lexicon (u ++ rest) = some (rule, u))
    (hText : u ++ rest = before ++ d :: after) (hBefore : before ≠ [])
    (hStart : atWordStart before = true) (hd : isWordChar d = true) :
    ∃ between, before = u ++ between ∧ rest = between ++ d :: after := by
  obtain ⟨hRule, hMatched, -⟩ := firstMatch_some hMatch
  rcases List.append_eq_append_iff.mp hText with hIn | ⟨begun, hBegun, hRest⟩
  · exact hIn
  · cases begun with
    | nil => exact ⟨[], by simpa using hBegun.symm, by simpa using hRest.symm⟩
    | cons e begun =>
      obtain ⟨rfl, -⟩ := List.cons.inj hRest
      obtain ⟨c, hLast⟩ := Option.ne_none_iff_exists'.mp
        (mt List.getLast?_eq_none_iff.mp hBefore)
      have hc : isWordChar c = false := by simpa [atWordStart, hLast] using hStart
      -- Both characters are in the lexeme, and one of them only is of words.
      have hAll : ∀ x ∈ rule.pattern.matched (u ++ rest), isWordChar x = rule.pattern.ofWords :=
        isWordChar_of_matched hRule
      rw [← hMatched, hBegun] at hAll
      have hMemC : c ∈ before ++ d :: begun :=
        List.mem_append_left _ (List.mem_of_getLast? hLast)
      rw [hAll d (by simp), ← hAll c hMemC, hc] at hd
      cases hd

/-! ### Lexemes and words -/

/-- The lexemes before one of a row are the text before it. -/
theorem FirstMatches.drop (h : FirstMatches rules start text (earlier ++ later) unread) :
    ∃ rest, text = (earlier.flatMap fun lexeme => lexeme.value.toList) ++ rest ∧
      FirstMatches rules
        (start + byteSize (earlier.flatMap fun lexeme => lexeme.value.toList)) rest later
        unread := by
  induction earlier generalizing start text with
  | nil => exact ⟨text, rfl, h⟩
  | cons lexeme earlier ih =>
    rw [List.cons_append] at h
    cases h with
    | @next _ rest _ _ _ _ _ h =>
      obtain ⟨rest', rfl, hLater⟩ := ih h
      refine ⟨rest', by simp, ?_⟩
      rwa [List.flatMap_cons, byteSize_append, ← Nat.add_assoc]

/-- A word that spells a keyword is a lexeme. -/
theorem FirstMatches.keyword_mem (h : FirstMatches lexicon start text lexemes unread)
    (hUnread : unread = []) (hText : text = before ++ (word ++ after))
    (hStart : atWordStart before = true) (hEnd : atWordEnd after = true)
    (hSpells : spells word k.spelling = true) :
    ⟨⟨.keyword k, .reserved⟩, String.ofList word, start + byteSize before⟩ ∈ lexemes := by
  obtain ⟨d, ds, rfl⟩ := List.exists_cons_of_ne_nil (spells_ne_nil hSpells)
  have hd := spells_wordChars hSpells d List.mem_cons_self
  induction h generalizing before with
  | stop => simp [hUnread] at hText
  | @next start rest unread lexeme lexemes hPlace hFirst h ih =>
    by_cases hBefore : before = []
    · subst hBefore
      rw [List.nil_append] at hText
      rw [hText, firstMatch_keyword hSpells hEnd] at hFirst
      obtain ⟨hRule, hValue⟩ := Prod.mk.inj (Option.some.inj hFirst)
      refine List.mem_cons.mpr (.inl ?_)
      rw [hRule, hValue, String.ofList_toList, byteSize_nil, Nat.add_zero, ← hPlace]
    · obtain ⟨between, rfl, hRest⟩ := cut_before_word hFirst hText hBefore hStart hd
      have hMem := ih hUnread (atWordStart_of_append hStart) hRest
      rw [byteSize_append, ← Nat.add_assoc]
      exact List.mem_cons_of_mem _ hMem

/-- Of two lexemes in a row the second begins where the first ends. -/
theorem FirstMatches.adjacent {previous lexeme : Lexeme}
    (h : FirstMatches rules start text (earlier ++ previous :: lexeme :: later) unread) :
    ∃ begun after, text = begun ++ (previous.value.toList ++ (lexeme.value.toList ++ after)) ∧
      previous.start = start + byteSize begun ∧ lexeme.start = previous.token.stop ∧
      firstMatch rules (previous.value.toList ++ (lexeme.value.toList ++ after)) =
        some (previous.rule, previous.value.toList) ∧
      firstMatch rules (lexeme.value.toList ++ after) =
        some (lexeme.rule, lexeme.value.toList) := by
  obtain ⟨rest, rfl, hPrevious⟩ := h.drop
  cases hPrevious with
  | next hPlace hBefore hLexeme =>
    cases hLexeme with
    | @next _ after _ _ _ hStart hFirst _ =>
      refine ⟨_, after, rfl, hPlace, ?_, hBefore, hFirst⟩
      rw [hStart, Token.stop_eq, ← hPlace]
      rfl

/-- A keyword ends where its word ends.  A character of words stands before it only where an integer
ends, or a name that goes on with the long s of the keyword. -/
theorem FirstMatches.around_keyword {lexeme : Lexeme}
    (h : FirstMatches lexicon start text (earlier ++ lexeme :: later) unread)
    (hRule : lexeme.rule.pattern = .keyword k) :
    ∃ before after, text = before ++ lexeme.value.toList ++ after ∧
      lexeme.start = start + byteSize before ∧ atWordEnd after = true ∧
      (atWordStart before = false → ∃ previous ∈ earlier, previous.token.stop = lexeme.start ∧
        (previous.rule = ⟨.digits, .int⟩ ∨
          previous.rule = ⟨.name, .id⟩ ∧ lexeme.value.toList.head? = some longS)) := by
  have hEnd {after : List Char} (hFirst : firstMatch lexicon (lexeme.value.toList ++ after) =
      some (lexeme.rule, lexeme.value.toList)) : atWordEnd after = true := by
    obtain ⟨-, hMatched, hNe⟩ := firstMatch_some hFirst
    rw [hRule] at hMatched
    exact atWordEnd_of_keyword hMatched.symm hNe
  rcases List.eq_nil_or_concat' earlier with rfl | ⟨first, previous, rfl⟩
  · cases h with
    | @next _ after _ _ _ hStart hFirst _ =>
      exact ⟨[], after, rfl, hStart, hEnd hFirst, fun hFalse => by cases hFalse⟩
  · rw [List.append_assoc, List.singleton_append] at h
    obtain ⟨begun, after, rfl, hPlace, hStart, hBefore, hFirst⟩ := h.adjacent
    refine ⟨begun ++ previous.value.toList, after, by simp, ?_, hEnd hFirst, fun hFalse => ?_⟩
    · rw [hStart, Token.stop_eq, byteSize_append, ← Nat.add_assoc, ← hPlace]
      rfl
    · obtain ⟨c, hLast, hc⟩ := atWordStart_eq_false.mp hFalse
      rw [List.getLast?_append_of_ne_nil _ (firstMatch_some hBefore).2.2] at hLast
      exact ⟨previous, by simp, hStart.symm,
        rule_before_keyword hBefore hLast hc (spells_of_keyword_rule hFirst hRule)⟩

/-! ### Tokens and words -/

/-- Two beginnings of a text that take as many bytes are the same. -/
theorem eq_of_byteSize_eq {a b a' b' : List Char} (h : a ++ b = a' ++ b')
    (hSize : byteSize a = byteSize a') : a = a' := by
  have hNil {a more : List Char} (hSize : byteSize a = byteSize (a ++ more)) : more = [] := by
    refine Classical.not_not.mp fun hNe => ?_
    have := byteSize_pos hNe
    rw [byteSize_append] at hSize
    omega
  rcases List.append_eq_append_iff.mp h with ⟨more, rfl, -⟩ | ⟨more, rfl, -⟩
  · rw [hNil hSize, List.append_nil]
  · rw [hNil hSize.symm, List.append_nil]

theorem tokens_of_lex {text : String} {tokens : List Token} (h : lex text = .ok tokens) :
    tokens = (Scan.ofText lexicon text).emitted.map Lexeme.token := by
  rw [lex, lexWith, Scan.result] at h
  split at h
  · exact (Except.ok.inj h).symm
  · cases h

/-- A character of words stands before the end of an integer. -/
theorem atWordStart_eq_false_of_integer {text : String} {lexeme : Lexeme}
    (hMem : lexeme ∈ (Scan.ofText lexicon text).lexemes) (hKind : lexeme.rule.kind = .int)
    (hText : text.toList = before ++ rest) (hStop : lexeme.token.stop = byteSize before) :
    atWordStart before = false := by
  obtain ⟨begun, after, hCut⟩ := scan_cutOff hMem
  obtain ⟨hRule, hMatched, hNe⟩ := firstMatch_some hCut.rule
  have hDigits : lexeme.rule = ⟨.digits, .int⟩ := by
    rcases mem_lexicon.mp hRule with h | ⟨k, h⟩ | ⟨m, -, h⟩ | h | h | h
    all_goals first | exact h | simp [h] at hKind
  have hBefore : begun ++ lexeme.value.toList = before := by
    refine eq_of_byteSize_eq (hCut.split.symm.trans hText) ?_
    rw [← hStop, Token.stop_eq, byteSize_append]
    show _ = lexeme.start + _
    rw [hCut.start_eq, Nat.zero_add]
    rfl
  obtain ⟨c, hLast⟩ := Option.ne_none_iff_exists'.mp (mt List.getLast?_eq_none_iff.mp hNe)
  refine atWordStart_eq_false.mpr ⟨c, ?_, ?_⟩
  · rw [← hBefore, List.getLast?_append_of_ne_nil _ hNe, hLast]
  · rw [isWordChar_of_matched hRule c (hMatched ▸ List.mem_of_getLast? hLast), hDigits]
    rfl

/-- What is cut off by the rule of a keyword ends where its word ends.  It begins where its word
begins unless an integer ends there; what follows a name and begins with the long s is left aside.
A word that spells a keyword is cut off as a whole, by the rule of the keyword. -/
theorem keywords_are_whole_words {text : String} {tokens : List Token}
    (hLex : lex text = .ok tokens) :
    (∀ lexeme ∈ (Scan.ofText lexicon text).emitted, ∀ k, lexeme.rule.pattern = .keyword k →
      ∃ before after, text.toList = before ++ lexeme.value.toList ++ after ∧
        lexeme.start = byteSize before ∧ atWordEnd after = true ∧
        (¬(lexeme.value.toList.head? = some longS ∧
            ∃ name ∈ tokens, name.kind = .id ∧ name.stop = lexeme.start) →
          (atWordStart before = false ↔
            ∃ number ∈ tokens, number.kind = .int ∧ number.stop = lexeme.start))) ∧
    ∀ before word after k, text.toList = before ++ word ++ after → atWordStart before = true →
      atWordEnd after = true → spells word k.spelling = true →
      ⟨⟨.keyword k, .reserved⟩, String.ofList word, byteSize before⟩ ∈
          (Scan.ofText lexicon text).emitted ∧
        ⟨String.ofList word, .reserved, byteSize before⟩ ∈ tokens := by
  obtain rfl := tokens_of_lex hLex
  have hRow := scan_firstMatches lexicon 0 text.toList
  have hUnread := unread_of_lex hLex
  rw [← Scan.ofText] at hRow
  constructor
  · intro lexeme hMem k hRule
    obtain ⟨earlier, later, hSplit⟩ :=
      List.append_of_mem (List.mem_filter.mp hMem).1
    rw [hSplit] at hRow
    obtain ⟨before, after, hText, hStart, hEnd, hBefore⟩ := hRow.around_keyword hRule
    rw [Nat.zero_add] at hStart
    refine ⟨before, after, hText, hStart, hEnd, fun hOther => ⟨fun hFalse => ?_, ?_⟩⟩
    · obtain ⟨previous, hPrevious, hStop, hKind⟩ := hBefore hFalse
      have hToken (hEmitted : previous.isEmitted = true) :
          previous.token ∈ (Scan.ofText lexicon text).emitted.map Lexeme.token := by
        refine List.mem_map_of_mem (List.mem_filter.mpr ⟨?_, hEmitted⟩)
        rw [hSplit]
        exact List.mem_append_left _ hPrevious
      rcases hKind with hRule | ⟨hRule, hLong⟩
      · exact ⟨_, hToken (by rw [Lexeme.isEmitted, hRule]; rfl), congrArg Rule.kind hRule, hStop⟩
      · exact absurd ⟨hLong, _, hToken (by rw [Lexeme.isEmitted, hRule]; rfl),
          congrArg Rule.kind hRule, hStop⟩ hOther
    · rintro ⟨number, hNumber, hKind, hStop⟩
      obtain ⟨found, hFound, rfl⟩ := List.mem_map.mp hNumber
      rw [List.append_assoc] at hText
      exact atWordStart_eq_false_of_integer (List.mem_filter.mp hFound).1 hKind hText
        (hStop.trans hStart)
  · intro before word after k hText hStart hEnd hSpells
    rw [List.append_assoc] at hText
    have hMem := hRow.keyword_mem hUnread hText hStart hEnd hSpells
    rw [Nat.zero_add] at hMem
    have hEmitted : _ ∈ (Scan.ofText lexicon text).emitted := List.mem_filter.mpr ⟨hMem, rfl⟩
    exact ⟨hEmitted, List.mem_map_of_mem (f := Lexeme.token) hEmitted⟩

/-- The scan of a text in which a keyword stands once after an integer and once by itself. -/
theorem scan_integer_set : Scan.ofText lexicon "1set set" =
    ⟨[⟨⟨.digits, .int⟩, "1", 0⟩, ⟨⟨.keyword .SET, .reserved⟩, "set", 1⟩,
      ⟨⟨.space, .discard⟩, " ", 4⟩, ⟨⟨.keyword .SET, .reserved⟩, "set", 5⟩], 8, []⟩ := by
  have hDigit : firstMatch lexicon "1set set".toList = some (⟨.digits, .int⟩, ['1']) := by
    decide +kernel
  have hInside : firstMatch lexicon "set set".toList =
      some (⟨.keyword .SET, .reserved⟩, "set".toList) := by decide +kernel
  have hSpace : firstMatch lexicon " set".toList = some (⟨.space, .discard⟩, [' ']) := by
    decide +kernel
  have hAlone : firstMatch lexicon "set".toList =
      some (⟨.keyword .SET, .reserved⟩, "set".toList) := by decide +kernel
  rw [Scan.ofText, scan_of_some hDigit, show "1set set".toList.drop ['1'].length =
    "set set".toList from rfl, scan_of_some hInside, show "set set".toList.drop
    "set".toList.length = " set".toList from rfl, scan_of_some hSpace, show " set".toList.drop
    [' '].length = "set".toList from rfl, scan_of_some hAlone, List.drop_length,
    scan_of_none (by decide)]
  decide

theorem lex_integer_set : lex "1set set" =
    .ok [⟨"1", .int, 0⟩, ⟨"set", .reserved, 1⟩, ⟨"set", .reserved, 5⟩] := by
  rw [lex, lexWith, scan_integer_set]
  rfl

/-- The first keyword begins inside a word, after an integer, and the second one is a word. -/
theorem keywords_are_whole_words_after_integer :
    lex "1set set" = .ok [⟨"1", .int, 0⟩, ⟨"set", .reserved, 1⟩, ⟨"set", .reserved, 5⟩] ∧
      (∃ before after, "1set set".toList = before ++ "set".toList ++ after ∧
        1 = byteSize before ∧ atWordEnd after = true ∧ atWordStart before = false) ∧
      ⟨⟨.keyword .SET, .reserved⟩, "set", 5⟩ ∈ (Scan.ofText lexicon "1set set").emitted := by
  obtain ⟨hAround, hWhole⟩ := keywords_are_whole_words lex_integer_set
  have hMem : ⟨⟨.keyword .SET, .reserved⟩, "set", 1⟩ ∈
      (Scan.ofText lexicon "1set set").emitted := by
    rw [scan_integer_set]
    decide
  obtain ⟨before, after, hText, hStart, hEnd, hInteger⟩ := hAround _ hMem .SET rfl
  refine ⟨lex_integer_set, ⟨before, after, hText, hStart, hEnd, ?_⟩, ?_⟩
  · exact (hInteger (by decide)).mpr ⟨⟨"1", .int, 0⟩, by decide, rfl, rfl⟩
  · exact (hWhole "1set ".toList "set".toList [] .SET rfl (by decide) rfl (by decide)).1

/-- What is cut off by the rule of a keyword may begin inside a word. -/
theorem keyword_after_integer :
    lex "1set set" = .ok [⟨"1", .int, 0⟩, ⟨"set", .reserved, 1⟩, ⟨"set", .reserved, 5⟩] ∧
      ⟨⟨.keyword .SET, .reserved⟩, "set", 1⟩ ∈ (Scan.ofText lexicon "1set set").emitted ∧
      "1set set".toList = ['1'] ++ "set".toList ++ " set".toList ∧ byteSize ['1'] = 1 ∧
      isWordChar '1' = true := by
  refine ⟨lex_integer_set, ?_, rfl, rfl, by decide⟩
  rw [scan_integer_set]
  decide

end SqlReader
