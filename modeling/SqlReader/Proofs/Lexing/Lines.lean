import SqlReader.Proofs.Lexing.Keywords
import SqlReader.Proofs.Text.Quoted

/-! Tokens and errors as lines of a report.  A token has no white space, so its line has no line
break; its category and its lexeme can be read off the line, and an error off its message. -/

namespace SqlReader

open Text

/-! ### Tokens without white space -/

/-- The pattern matches no white space. -/
def Pattern.isVisible : Pattern → Bool
  | space => false
  | char c => !isWhiteSpace c
  | keyword _ | digits | name => true

theorem Pattern.matched_visible {pattern : Pattern} (h : pattern.isVisible = true)
    (text : List Char) : ∀ c ∈ pattern.matched text, isWhiteSpace c = false := by
  cases pattern with
  | space => cases h
  | char m =>
    have hVisible : isWhiteSpace m = false := by simpa [isVisible] using h
    rw [matched]
    split
    · exact List.forall_mem_singleton.mpr hVisible
    · exact List.forall_mem_nil _
  | keyword word =>
    rw [keyword_matched]
    split
    · rename_i hSpells
      exact fun c hc => isWhiteSpace_of_isWordChar (spells_wordChars hSpells c hc)
    · exact List.forall_mem_nil _
  | digits =>
    exact fun c hc => isWhiteSpace_of_isNameChar (isNameChar_of_isDigit (List.mem_takeWhile_imp hc))
  | name => exact fun c hc => isWhiteSpace_of_isNameChar (List.mem_takeWhile_imp hc)

theorem lexicon_visible : ∀ rule ∈ lexicon, rule.kind.isEmitted = rule.pattern.isVisible := by
  decide

/-- The lexeme has been cut off by a rule of the lexicon and has no white space in it. -/
def Lexeme.Visible (lexeme : Lexeme) : Prop :=
  lexeme.rule ∈ lexicon ∧ ∀ c ∈ lexeme.value.toList, isWhiteSpace c = false

/-- What becomes a token is visible. -/
theorem emitted_visible {text : String} {lexeme : Lexeme}
    (h : lexeme ∈ (Scan.ofText lexicon text).emitted) : lexeme.Visible := by
  obtain ⟨hLexeme, hEmitted⟩ := List.mem_filter.mp h
  obtain ⟨before, after, hCut⟩ := scan_cutOff hLexeme
  obtain ⟨hRule, hMatched, -⟩ := firstMatch_some hCut.rule
  rw [Lexeme.isEmitted, lexicon_visible _ hRule] at hEmitted
  refine ⟨hRule, ?_⟩
  rw [hMatched]
  exact Pattern.matched_visible hEmitted _

/-- The tokens of a text have no white space in them. -/
theorem lex_visible {text : String} {tokens : List Token} (h : lex text = .ok tokens) :
    ∀ t ∈ tokens, ∀ c ∈ t.value.toList, isWhiteSpace c = false := by
  rw [lex, lexWith, Scan.result] at h
  split at h
  · cases h
    intro t ht
    obtain ⟨lexeme, hMem, rfl⟩ := List.mem_map.mp ht
    exact (emitted_visible hMem).2
  · cases h

/-! ### The line of a token -/

namespace TokenKind

theorem name_injective {k l : TokenKind} (h : k.name = l.name) : k = l := by
  cases k <;> cases l <;> first | rfl | exact absurd h (by decide)

theorem isAlpha_of_mem_name (k : TokenKind) : ∀ c ∈ k.name.toList, c.isAlpha = true :=
  List.all_eq_true.mp (by cases k <;> decide)

theorem name_oneLine (k : TokenKind) : OneLine k.name := by cases k <;> decide

end TokenKind

theorem oneLine_of_visible {value : String} (h : ∀ c ∈ value.toList, isWhiteSpace c = false) :
    OneLine value := fun c hc =>
  not_mem_lineBreaks (h c hc) (by decide)

namespace Token

theorem line_oneLine {t : Token} (h : ∀ c ∈ t.value.toList, isWhiteSpace c = false) :
    OneLine t.line := by
  have hColon : OneLine ": " := by decide
  exact (t.kind.name_oneLine.append hColon).append (oneLine_of_visible h)

/-- The category ends at the colon, and the lexeme at what cannot be in it. -/
theorem line_append_injective {t u : Token} {test : Char → Bool} {rest rest' : String}
    (h : ∀ c ∈ t.value.toList, test c = true) (h' : ∀ c ∈ u.value.toList, test c = true)
    (hEnds : ∀ c ∈ rest.toList.head?, test c = false)
    (hEnds' : ∀ c ∈ rest'.toList.head?, test c = false)
    (hSame : t.line ++ rest = u.line ++ rest') :
    t.kind = u.kind ∧ t.value = u.value ∧ rest = rest' := by
  simp only [line, String.append_assoc] at hSame
  obtain ⟨hName, hLater⟩ := text_append_injective t.kind.isAlpha_of_mem_name
    u.kind.isAlpha_of_mem_name (by simp) (by simp) hSame
  obtain ⟨hValue, hRest⟩ :=
    text_append_injective h h' hEnds hEnds' ((String.append_right_inj _).mp hLater)
  exact ⟨TokenKind.name_injective hName, hValue, hRest⟩

theorem line_injective {t u : Token} (h : t.line = u.line) :
    t.kind = u.kind ∧ t.value = u.value := by
  obtain ⟨hKind, hValue, -⟩ := @line_append_injective t u (fun _ => true) "" "" (by simp) (by simp)
    (by simp) (by simp) (congrArg (· ++ "") h)
  exact ⟨hKind, hValue⟩

end Token

/-! ### The message of an error -/

namespace LexError

theorem message_oneLine (error : LexError) : OneLine error.message := by
  have hDigits : OneLine (toString error.offset) := fun c hc =>
    not_mem_lineBreaks (isDigit_of_mem_toString c hc) (by decide)
  have hBefore : OneLine "Could not parse query text at offset " := by decide
  have hColon : OneLine ": " := by decide
  exact ((hBefore.append hDigits).append hColon).append (quote_oneLine error.remaining)

theorem message_injective {e e' : LexError} (h : e.message = e'.message) : e = e' := by
  obtain ⟨offset, remaining⟩ := e
  obtain ⟨offset', remaining'⟩ := e'
  unfold message at h
  simp only [String.append_assoc, String.append_right_inj] at h
  obtain ⟨rfl, hQuoted⟩ := toString_append_injective (by simp) (by simp) h
  rw [quote_injective ((String.append_right_inj _).mp hQuoted)]

end LexError

end SqlReader
