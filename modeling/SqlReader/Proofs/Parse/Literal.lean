import SqlReader.Proofs.Canonical.Prints
import SqlReader.Proofs.Grammar.Actions
import SqlReader.Proofs.Lexing.Concatenation
import SqlReader.Proofs.Lexing.Lines
import SqlReader.Proofs.Lexing.Spacing

/-! The value of a literal, told by the text it stands in: the words between the two quotation
marks, with one space between two.  How the words were cut into tokens does not show. -/

namespace SqlReader

open Text Cursor ParserM Grammar

/-- The tokens from `c` up to `d` are those of a quotation mark, of `content`, which is white space,
letters and numbers, and of another quotation mark.  The marks stand after `before` and before
`after`. -/
structure Quotation (text : List Char) (c d : Cursor) (before content after : List Char) :
    Prop where
  split : text = before ++ '"' :: (content ++ '"' :: after)
  tokens : ∃ opening between closing, c.rest = opening :: (between ++ closing :: d.rest) ∧
    opening.value = "\"" ∧ opening.start = byteSize before ∧
    closing.value = "\"" ∧ closing.start = byteSize (before ++ '"' :: content)
  reaches : c.Reaches d.rest d
  plain : ∀ char ∈ content, isWhiteSpace char = true ∨ isAlphanumeric char = true

variable {p q : Parser} {t u : Token} {ts us : List Token} {start : Nat} {content after : List Char}

/-! ### The tokens of a literal -/

/-- Where the action succeeds, it finds letters and numbers between two quotation marks. -/
theorem literal_tokens (h : characterStringLiteral.Runs p true q) :
    ∃ t ts u us, p.cursor.rest = t :: (ts ++ u :: us) ∧ quotationMark.has t = true ∧
      (∀ t ∈ ts, TokenClass.plain.has t = true) ∧ quotationMark.has u = true := by
  have hFails {r : Parser} : ¬characterStringLiteral.Runs p false r := fun hRun =>
    Bool.noConfusion (h.unique hRun).1
  have hOpening : ∃ t ts, p.cursor.rest = t :: ts ∧ quotationMark.has t = true := by
    by_contra hNone
    refine hFails ((runs_terminal_false fun t ht => ?_).bind (runs_pure false p))
    obtain ⟨ts, hRest⟩ := List.head?_eq_some_iff.mp ht
    exact Bool.eq_false_iff.mpr fun ht => hNone ⟨t, ts, hRest, ht⟩
  obtain ⟨t, ts, hRest, ht⟩ := hOpening
  have hClosing : ∃ u ∈ (ts.dropWhile TokenClass.plain.has).head?, quotationMark.has u = true := by
    by_contra hNone
    obtain ⟨r, hRun, -⟩ := runs_literal_missed hRest ht fun u hu =>
      Bool.eq_false_iff.mpr fun hHas => hNone ⟨u, hu, hHas⟩
    exact hFails hRun
  obtain ⟨u, hHead, hu⟩ := hClosing
  obtain ⟨us, hLater⟩ := List.head?_eq_some_iff.mp hHead
  refine ⟨t, ts.takeWhile TokenClass.plain.has, u, us, ?_, ht,
    List.all_eq_true.mp List.all_takeWhile, hu⟩
  rw [hRest, ← hLater, List.takeWhile_append_dropWhile]

/-! ### The text of a literal -/

theorem quotationMark_value (h : quotationMark.has t = true) : t.value.toList = ['"'] :=
  TokenClass.value_of_mark rfl (by decide) h

/-- The text between the two marks is laid out as the tokens between them. -/
theorem Laid.quotation {text : List Char} {firsts : List Token}
    (h : Laid 0 text (firsts ++ t :: (ts ++ u :: us)))
    (hOpening : quotationMark.has t = true) (hClosing : quotationMark.has u = true) :
    ∃ before content after, text = before ++ '"' :: (content ++ '"' :: after) ∧
      t.start = byteSize before ∧ u.start = byteSize (before ++ '"' :: content) ∧
      Laid t.stop content ts := by
  obtain ⟨before, rest, rfl, hStart, -, hLater⟩ := h.split
  obtain ⟨content, after, rfl, hStart', hContent, -⟩ := hLater.split
  rw [Nat.zero_add] at hStart
  rw [Token.stop_eq, hStart, quotationMark_value hOpening] at hStart'
  refine ⟨before, content, after, ?_, hStart, ?_, hContent⟩
  · rw [quotationMark_value hOpening, quotationMark_value hClosing]
    rfl
  · rw [hStart', byteSize_append, byteSize_cons, byteSize_cons, byteSize_nil]
    omega

theorem Laid.plain (h : Laid start content ts) (hPlain : ∀ t ∈ ts, TokenClass.plain.has t = true) :
    ∀ char ∈ content, isWhiteSpace char = true ∨ isAlphanumeric char = true := by
  intro char hChar
  refine (h.white_or_mem char hChar).imp id fun ⟨t, ht, hMem⟩ => ?_
  exact (isRun_iff.mp (hPlain t ht)).2 char hMem

theorem quotation_of_tokens {text before : List Char} {c d : Cursor}
    (hRest : c.rest = t :: (ts ++ u :: us)) (hReaches : c.Reaches us d)
    (hText : text = before ++ '"' :: (content ++ '"' :: after))
    (hOpening : quotationMark.has t = true) (hStart : t.start = byteSize before)
    (hClosing : quotationMark.has u = true)
    (hStart' : u.start = byteSize (before ++ '"' :: content)) (hContent : Laid t.stop content ts)
    (hPlain : ∀ t ∈ ts, TokenClass.plain.has t = true) :
    Quotation text c d before content after where
  split := hText
  tokens := ⟨t, ts, u, by rw [hRest, hReaches.rest],
    String.toList_inj.mp (quotationMark_value hOpening), hStart,
    String.toList_inj.mp (quotationMark_value hClosing), hStart'⟩
  reaches := by rwa [hReaches.rest]
  plain := hContent.plain hPlain

/-- Where the action succeeds in the tokens of a text, it has taken a quotation, and it has added
the words of it. -/
theorem literal_is_quotation {text : String} {tokens : List Token} (hLex : lex text = .ok tokens)
    (hTokens : p.cursor.tokens = tokens.toArray) (h : characterStringLiteral.Runs p true q) :
    ∃ before content after, Quotation text.toList p.cursor q.cursor before content after ∧
      q.log = p.log.add (.leaf .string (joined content)) := by
  obtain ⟨t, ts, u, us, hRest, hOpening, hPlain, hClosing⟩ := literal_tokens h
  obtain ⟨d, hReaches, hRun⟩ := runs_literal hRest hOpening hPlain hClosing
  obtain ⟨-, rfl⟩ := h.unique hRun
  have hSplit : tokens = tokens.take p.cursor.place.position ++ t :: (ts ++ u :: us) := by
    rw [← hRest, Cursor.rest, hTokens, List.take_append_drop]
  have hVisible : ∀ t ∈ ts, ∀ c ∈ t.value.toList, isWhiteSpace c = false := fun t ht =>
    lex_visible hLex t (by rw [hSplit]; simp [ht])
  have hLaid : Laid 0 text.toList tokens := laid_of_onePass ((lex_eq_onePass text).symm.trans hLex)
  rw [hSplit] at hLaid
  obtain ⟨before, content, after, hText, hStart, hStart', hContent⟩ :=
    hLaid.quotation hOpening hClosing
  refine ⟨before, content, after, quotation_of_tokens hRest hReaches hText hOpening hStart hClosing
    hStart' hContent hPlain, ?_⟩
  rw [hContent.spaced_eq hVisible]

/-- Letters and digits of ASCII and white space between two quotation marks are cut into tokens that
the action takes, whatever stands before and after. -/
theorem literal_of_quotation {before content after : String} {firsts lasts : List Token}
    (hBefore : lex before = .ok firsts) (hAfter : lex after = .ok lasts)
    (hContent : ∀ c ∈ content.toList, isWhiteSpace c = true ∨ c.isAlphanum = true) :
    ∃ t ts u us, lex (before ++ "\"" ++ content ++ "\"" ++ after) =
        .ok (firsts ++ t :: (ts ++ u :: us)) ∧
      (t.start = byteSize before.toList ∧ quotationMark.has t = true) ∧
      (Laid t.stop content.toList ts ∧ ∀ t ∈ ts, TokenClass.plain.has t = true) ∧
      u.start = byteSize (before.toList ++ '"' :: content.toList) ∧ quotationMark.has u = true := by
  have hMark (cs : List Char) : atWordEnd ('"' :: cs) = true := atWordEnd_mark (by decide) cs
  rw [lex_eq_onePass] at hBefore hAfter
  let opened := 0 + byteSize before.toList + byteSize ['"']
  let closed := opened + byteSize content.toList + byteSize ['"']
  obtain ⟨kind, hKind, hOpen⟩ := cuts_mark "\"" '"' rfl (by decide) (0 + byteSize before.toList)
    (content.toList ++ (['"'] ++ after.toList) ++ [])
  obtain ⟨ts, hInside⟩ := onePass_ok_of_ascii hContent opened
  obtain ⟨kind', hKind', hClose⟩ := cuts_mark "\"" '"' rfl (by decide)
    (opened + byteSize content.toList) (after.toList ++ [])
  have hLasts := onePass_shift closed 0 after.toList
  rw [hAfter, Nat.add_zero] at hLasts
  have hWhole := (cuts_of_onePass hBefore (hMark _)).append (hOpen.append
    ((cuts_of_onePass hInside (hMark _)).append (hClose.append (cuts_of_onePass hLasts rfl))))
  have hLex : lex (before ++ "\"" ++ content ++ "\"" ++ after) =
      .ok (firsts ++ ⟨"\"", kind, 0 + byteSize before.toList⟩ ::
        (ts ++ ⟨"\"", kind', opened + byteSize content.toList⟩ ::
          lasts.map (Token.shift closed))) := by
    rw [lex_eq_onePass]
    simpa using hWhole.onePass_eq
  have hLaid := laid_of_onePass hInside
  refine ⟨_, _, _, _, hLex, ⟨Nat.zero_add _, terminal_has hKind⟩, ⟨hLaid, fun t ht => ?_⟩, ?_,
    terminal_has hKind'⟩
  · have hVisible := lex_visible hLex t (by simp [ht])
    refine isRun_iff.mpr ⟨mt String.toList_eq_nil_iff.mp (hLaid.place ht).2.1, fun c hc => ?_⟩
    rcases hContent c (hLaid.mem_text ht c hc) with hSpace | hAlphanum
    · rw [hVisible c hc] at hSpace
      cases hSpace
    · exact isAlphanumeric_of_isAlphanum hAlphanum
  · show opened + _ = _
    rw [byteSize_append, byteSize_cons]
    simp [opened]
    omega

/-- The value of a literal is the words between its quotation marks, with one space between two.
Wherever in the tokens of a text the action succeeds, white space, letters and numbers stand between
two quotation marks there, and what it adds is one leaf with their words.  And between quotation
marks, all text of white space and of letters and digits of ASCII is such a literal, whatever
keywords are in it and whatever texts stand before the first mark and after the second. -/
theorem literal_value_is_words :
    (∀ (text : String) (tokens : List Token) (p q : Parser), lex text = .ok tokens →
      p.cursor.tokens = tokens.toArray → characterStringLiteral.Runs p true q →
        ∃ before content after, Quotation text.toList p.cursor q.cursor before content after ∧
          q.log = p.log.add (.leaf .string (joined content))) ∧
    ∀ (before content after : String) (firsts lasts : List Token), lex before = .ok firsts →
      lex after = .ok lasts →
      (∀ c ∈ content.toList, isWhiteSpace c = true ∨ c.isAlphanum = true) →
        ∃ tokens, lex (before ++ "\"" ++ content ++ "\"" ++ after) = .ok tokens ∧
          ∀ log, ∃ q, characterStringLiteral.Runs
              ⟨⟨tokens.toArray, ⟨firsts.length, 0⟩⟩, log⟩ true q ∧
            Quotation (before ++ "\"" ++ content ++ "\"" ++ after).toList
              ⟨tokens.toArray, ⟨firsts.length, 0⟩⟩ q.cursor
              before.toList content.toList after.toList ∧
            q.log = log.add (.leaf .string (joined content.toList)) := by
  refine ⟨fun text tokens p q => literal_is_quotation,
    fun before content after firsts lasts hBefore hAfter hContent => ?_⟩
  obtain ⟨t, ts, u, us, hLex, ⟨hStart, hOpening⟩, ⟨hLaid, hPlain⟩, hStart', hClosing⟩ :=
    literal_of_quotation hBefore hAfter hContent
  refine ⟨_, hLex, fun log => ?_⟩
  have hRest : Cursor.rest ⟨(firsts ++ t :: (ts ++ u :: us)).toArray, ⟨firsts.length, 0⟩⟩ =
      t :: (ts ++ u :: us) := by simp [Cursor.rest]
  obtain ⟨d, hReaches, hRun⟩ := runs_literal (p := ⟨⟨_, ⟨firsts.length, 0⟩⟩, log⟩)
    hRest hOpening hPlain hClosing
  have hVisible : ∀ t ∈ ts, ∀ c ∈ t.value.toList, isWhiteSpace c = false := fun t ht =>
    lex_visible hLex t (by simp [ht])
  refine ⟨_, hRun, quotation_of_tokens hRest hReaches (by simp) hOpening hStart hClosing hStart'
    hLaid hPlain, ?_⟩
  rw [hLaid.spaced_eq hVisible]

/-- Two words that are cut into four tokens, the last of them a keyword, with white space that is
not of ASCII before, between and after them. -/
theorem literal_value_is_words_cut :
    lex "values(" = .ok [⟨"values", .reserved, 0⟩, ⟨"(", .reserved, 6⟩] ∧
      lex ")" = .ok [⟨")", .reserved, 0⟩] ∧
      (∀ c ∈ "\u2003 12ab\u20031FROM\u2003".toList,
        isWhiteSpace c = true ∨ c.isAlphanum = true) ∧
      ∃ tokens, lex "values(\"\u2003 12ab\u20031FROM\u2003\")" = .ok tokens ∧
        ∃ q, characterStringLiteral.Runs ⟨⟨tokens.toArray, ⟨2, 0⟩⟩, .empty⟩ true q ∧
          q.log = EditLog.empty.add (.leaf .string "12ab 1FROM") ∧
          ∃ before content after, Quotation "values(\"\u2003 12ab\u20031FROM\u2003\")".toList
            ⟨tokens.toArray, ⟨2, 0⟩⟩ q.cursor before content after ∧
            q.log = EditLog.empty.add (.leaf .string (joined content)) := by
  have hBefore : lex "values(" = .ok [⟨"values", .reserved, 0⟩, ⟨"(", .reserved, 6⟩] := by
    decide +kernel
  have hAfter : lex ")" = .ok [⟨")", .reserved, 0⟩] := by decide +kernel
  have hAll : ("\u2003 12ab\u20031FROM\u2003".toList.all
      fun c => isWhiteSpace c || c.isAlphanum) = true := by decide +kernel
  have hContent : ∀ c ∈ "\u2003 12ab\u20031FROM\u2003".toList,
      isWhiteSpace c = true ∨ c.isAlphanum = true := fun c hc =>
    (Bool.or_eq_true _ _).mp (List.all_eq_true.mp hAll c hc)
  have hWords : joined "\u2003 12ab\u20031FROM\u2003".toList = "12ab 1FROM" := by decide +kernel
  obtain ⟨hFound, hTaken⟩ := literal_value_is_words
  obtain ⟨tokens, hLex, hRuns⟩ := hTaken _ _ _ _ _ hBefore hAfter hContent
  obtain ⟨q, hRun, -, hLog⟩ := hRuns .empty
  rw [hWords] at hLog
  exact ⟨hBefore, hAfter, hContent, tokens, hLex, q, hRun, hLog,
    hFound _ tokens _ q hLex rfl hRun⟩

end SqlReader
