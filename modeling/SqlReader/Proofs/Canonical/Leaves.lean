import SqlReader.Proofs.Canonical.Prints

/-! Names, integers and literals that can be read back.  Between quotes a literal is cut into
tokens that, with a space wherever two of them do not touch, give its text. -/

namespace SqlReader

open Text Phrase Pattern Cursor

variable {word sign digits rest : List Char} {c : Char} {cs : List Char}

/-! ### Names -/

/-- A word of name characters, or a word that spells a keyword. -/
def IsWord (word : List Char) : Prop :=
  (∀ c ∈ word, isNameChar c = true) ∨ ∃ k : Keyword, spells word k.spelling = true

theorem IsWord.wordChars (h : IsWord word) : ∀ c ∈ word, isWordChar c = true := by
  rcases h with hNames | ⟨k, hSpells⟩
  · exact fun c hc => isWordChar_of_isNameChar (hNames c hc)
  · exact spells_wordChars hSpells

theorem ruleLexeme_word (hFirst : isAlphabetic c = true) (hWord : IsWord (c :: cs))
    (hRest : atWordEnd rest = true) :
    ∃ kind, ruleLexeme (c :: cs ++ rest) = some (kind, c :: cs) := by
  have hHead := headWord_append hWord.wordChars hRest
  rcases hWord with hNames | ⟨k, hSpells⟩
  · have hName := hNames c List.mem_cons_self
    rw [isAlphabetic_ascii (isNameChar_ascii hName)] at hFirst
    have hRun := takeWhile_whole (fun _ => isWordChar_of_isNameChar) hNames hRest
    rw [List.cons_append] at hHead hRun ⊢
    rw [ruleLexeme_name hName (isDigit_of_isAlpha hFirst), hHead, hRun]
    cases headKeyword? (c :: (cs ++ rest)) with
    | some k => exact ⟨.reserved, rfl⟩
    | none => exact ⟨.id, rfl⟩
  · refine ⟨.reserved, ?_⟩
    rw [ruleLexeme, firstMatch_keyword hSpells hRest]
    rfl

theorem printable_name {name : String} (hName : isName name.toList = true)
    (hWord : IsWord name.toList) : LeafTexts.printable.name name := by
  intro start rest hRest
  obtain ⟨c, cs, hValue⟩ : ∃ c cs, name.toList = c :: cs := by
    cases hText : name.toList with
    | nil => simp [hText, isName] at hName
    | cons c cs => exact ⟨c, cs, rfl⟩
  have hText : String.ofList (c :: cs) = name := by rw [← hValue, String.ofList_toList]
  have hFirst : isAlphabetic c = true := by
    rw [hValue, isName, Bool.and_eq_true] at hName
    exact hName.1
  rw [hValue] at hWord ⊢
  have hSpace : ∀ d ∈ (c :: cs).head?, isWhiteSpace d = false := by
    simpa using isWhiteSpace_of_isWordChar (hWord.wordChars c List.mem_cons_self)
  obtain ⟨kind, hLexeme⟩ := ruleLexeme_word hFirst hWord hRest
  have hLeaf : userDefinedName.Derives [⟨name, kind, start⟩]
      [.leaf .string (valueOf [⟨name, kind, start⟩])] := .leaf (.token hName)
  rw [valueOf_singleton] at hLeaf
  have hCut := cuts_lexeme (List.cons_ne_nil c cs) hSpace hLexeme start
  rw [hText] at hCut
  exact ⟨_, hLeaf, hCut⟩

/-! ### Integers -/

theorem cuts_digits (hNe : digits ≠ []) (hDigits : ∀ d ∈ digits, d.isDigit = true)
    (hRest : atWordEnd rest = true) (start : Nat) :
    Cuts start digits rest [⟨String.ofList digits, .int, start⟩] := by
  obtain ⟨c, cs, rfl⟩ := List.exists_cons_of_ne_nil hNe
  have hFirst := hDigits c List.mem_cons_self
  have hLexeme : ruleLexeme (c :: cs ++ rest) = some (.int, c :: cs) := by
    have hRun := takeWhile_whole
      (fun _ h => isWordChar_of_isNameChar (isNameChar_of_isDigit h)) hDigits hRest
    rw [List.cons_append] at hRun ⊢
    rw [ruleLexeme_digit hFirst, hRun]
  exact cuts_lexeme (List.cons_ne_nil c cs)
    (by simpa using isWhiteSpace_of_isNameChar (isNameChar_of_isDigit hFirst)) hLexeme start

theorem cuts_sign (hSign : sign ∈ [[], ['+'], ['-']]) (start : Nat) (rest : List Char) :
    ∃ ts, (Phrase.optional Phrase.sign).Derives ts [] ∧ valueOf ts = String.ofList sign ∧
      Cuts start sign rest ts := by
  simp only [List.mem_cons, List.not_mem_nil, or_false] at hSign
  rcases hSign with rfl | rfl | rfl
  · exact ⟨[], .optionalNone, rfl, cuts_nil⟩
  · obtain ⟨kind, hKind, hScan⟩ := cuts_mark "+" '+' rfl (by decide) start rest
    exact ⟨_, .optionalSome (.altLeft (derives_mark hKind)), valueOf_singleton _, hScan⟩
  · obtain ⟨kind, hKind, hScan⟩ := cuts_mark "-" '-' rfl (by decide) start rest
    exact ⟨_, .optionalSome (.altRight (derives_mark hKind)), valueOf_singleton _, hScan⟩

theorem printable_int {text : String} (hText : text.toList = sign ++ digits)
    (hSign : sign ∈ [[], ['+'], ['-']]) (hNe : digits ≠ [])
    (hDigits : ∀ d ∈ digits, d.isDigit = true) : LeafTexts.printable.int text := by
  intro start rest hRest
  obtain ⟨ts, hTs, hValue, hScan⟩ := cuts_sign hSign start (digits ++ rest)
  have hToken : (Phrase.token .digits).Derives
      [⟨String.ofList digits, .int, start + byteSize sign⟩] [] := by
    refine .token ?_
    simpa [TokenClass.has, isRun, hNe] using hDigits
  have hLeaf : signedInteger.Derives _ [.leaf .int (valueOf _)] := .leaf (.seq hTs hToken)
  have hWhole : valueOf (ts ++ [⟨String.ofList digits, .int, start + byteSize sign⟩]) = text := by
    rw [valueOf_append, hValue, valueOf_singleton, ← String.ofList_append, ← hText,
      String.ofList_toList]
  rw [hWhole] at hLeaf
  refine ⟨_, hLeaf, ?_⟩
  rw [hText]
  exact hScan.append (cuts_digits hNe hDigits hRest _)

/-! ### Literals -/

/-- Before a quote the text is cut into letters and numbers that give it back. -/
def Quotable (text : List Char) : Prop :=
  ∀ start rest, ∃ ts, (∀ t ∈ ts, TokenClass.plain.has t = true) ∧ spaced none ts = text ∧
    Cuts start text ('"' :: rest) ts

theorem printable_literal {text : String} (h : Quotable text.toList) :
    LeafTexts.printable.literal text := by
  intro start rest _
  obtain ⟨kind, hKind, hOpen⟩ := cuts_mark "\"" '"' rfl (by decide) start
    (text.toList ++ ['"'] ++ rest)
  obtain ⟨ts, hPlain, hText, hInside⟩ := h (start + byteSize ['"']) rest
  obtain ⟨kind', hKind', hClose⟩ := cuts_mark "\"" '"' rfl (by decide)
    (start + byteSize ['"'] + byteSize text.toList) rest
  have hFirst : (mark "\"").Derives [⟨"\"", kind, start⟩] [] := derives_mark hKind
  have hLast : (mark "\"").Derives [⟨"\"", kind', start + byteSize ['"'] + byteSize text.toList⟩]
      [] := derives_mark hKind'
  have hLeaf : characterStringLiteral.Derives _ [.leaf .string (quotedValue _)] :=
    .leaf (.seq hFirst (.seq (.run hPlain) hLast))
  have hValue : quotedValue ([⟨"\"", kind, start⟩] ++
      (ts ++ [⟨"\"", kind', start + byteSize ['"'] + byteSize text.toList⟩])) = text := by
    simp [quotedValue, hText]
  rw [hValue] at hLeaf
  exact ⟨_, hLeaf, hOpen.append (hInside.append hClose)⟩

end SqlReader
