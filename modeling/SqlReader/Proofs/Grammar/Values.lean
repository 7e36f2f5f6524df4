import SqlReader.Proofs.Grammar.Decision
import SqlReader.Proofs.Phrase.Values

/-! The values in the trees of statements, whatever the tokens: letters, numbers, spaces, the
wildcard and signs.  So such a tree can be read off its rendering. -/

namespace SqlReader

open Text

/-- The characters of values. -/
def isValueChar (c : Char) : Bool := isAlphanumeric c || [' ', '*', '+', '-'].contains c

/-- The value is made of such characters. -/
def Written (value : String) : Prop := ∀ c ∈ value.toList, isValueChar c = true

instance (value : String) : Decidable (Written value) :=
  List.decidableBAll (fun c => isValueChar c = true) value.toList

theorem isValueChar_of_isAlphanumeric {c : Char} (h : isAlphanumeric c = true) :
    isValueChar c = true := by
  simp [isValueChar, h]

theorem Written.unmarked {value : String} (h : Written value) : Tree.Unmarked value := by
  have hMarks : (Tree.marks.all fun m => !isValueChar m) = true := by decide
  intro c hc hMark
  have hNot := List.all_eq_true.mp hMarks c hMark
  rw [h c hc] at hNot
  cases hNot

namespace Phrase

variable {t : Token} {ts : List Token} {ns : List Tree}

theorem written_valueOf (h : ∀ t ∈ ts, Written t.value) : Written (valueOf ts) := by
  intro c hc
  rw [valueOf, String.toList_join] at hc
  obtain ⟨value, hValue, hc⟩ := List.mem_flatMap.mp hc
  obtain ⟨t, ht, rfl⟩ := List.mem_map.mp hValue
  exact h t ht c hc

theorem written_plain (h : TokenClass.plain.has t = true) : Written t.value := fun c hc =>
  isValueChar_of_isAlphanumeric ((isRun_iff.mp h).2 c hc)

theorem written_digits (h : TokenClass.digits.has t = true) : Written t.value := by
  intro c hc
  have hDigit : c.isAlphanum = true := by simp [Char.isAlphanum, (isRun_iff.mp h).2 c hc]
  exact isValueChar_of_isAlphanumeric (isAlphanumeric_of_isAlphanum hDigit)

theorem written_name (h : TokenClass.name.has t = true) : Written t.value := by
  rw [TokenClass.has] at h
  intro c hc
  cases hValue : t.value.toList with
  | nil => simp [hValue] at hc
  | cons first others =>
    rw [hValue] at h hc
    simp only [isName, Bool.and_eq_true] at h
    apply isValueChar_of_isAlphanumeric
    rcases List.mem_cons.mp hc with rfl | hc
    · simp [isAlphanumeric, h.1]
    · exact List.all_eq_true.mp h.2 c hc

theorem written_sign (h : sign.Derives ts ns) : ∀ t ∈ ts, Written t.value := by
  have hSign {m : Char} {text : String} (hText : text.toList = [m]) (hAlpha : m.isAlpha = false)
      (hm : isValueChar m = true) (h : (mark text).Derives ts ns) :
      ∀ t ∈ ts, Written t.value := by
    obtain ⟨t, ht, rfl, -⟩ := derives_token.mp h
    rw [List.forall_mem_singleton, Written, TokenClass.value_of_mark hText hAlpha ht]
    simpa using hm
  rcases derives_alt.mp h with h | h
  · exact hSign (m := '+') rfl (by decide) (by decide) h
  · exact hSign (m := '-') rfl (by decide) (by decide) h

theorem written_spaced (lastStop : Option Nat) (h : ∀ t ∈ ts, TokenClass.plain.has t = true) :
    ∀ c ∈ Cursor.spaced lastStop ts, isValueChar c = true := by
  induction ts generalizing lastStop with
  | nil => exact List.forall_mem_nil _
  | cons t ts ih =>
    obtain ⟨ht, hLater⟩ := List.forall_mem_cons.mp h
    have hGap : ∀ c ∈ Cursor.gap lastStop t.start, isValueChar c = true := by
      rcases Cursor.gap_cases lastStop t.start with hGap | hGap
      · simp [hGap]
      · rw [hGap]
        exact List.forall_mem_singleton.mpr (by decide)
    exact List.forall_mem_append.mpr ⟨List.forall_mem_append.mpr ⟨hGap, written_plain ht⟩,
      ih (some t.stop) hLater⟩

theorem userDefinedName_writes : userDefinedName.Writes Written := by
  intro ts ns h
  obtain ⟨t, ht, rfl, -⟩ := derives_token.mp h
  exact written_valueOf (by simpa using written_name ht)

theorem characterStringLiteral_writes : characterStringLiteral.Writes Written := by
  intro ts ns h
  obtain ⟨_, _, _, _, hOpen, hRest, rfl, -⟩ := derives_seq.mp h
  obtain ⟨us, _, _, _, hRun, hClose, rfl, -⟩ := derives_seq.mp hRest
  obtain ⟨q, -, rfl, -⟩ := derives_token.mp hOpen
  obtain ⟨q', -, rfl, -⟩ := derives_token.mp hClose
  have hBetween : (([q] ++ (us ++ [q'])).drop 1).dropLast = us := by simp
  rw [quotedValue, hBetween, Written, String.toList_ofList]
  exact written_spaced none (derives_run.mp hRun).1

theorem signedInteger_writes : signedInteger.Writes Written := by
  intro ts ns h
  obtain ⟨us, vs, ms, _, hSign, hDigits, rfl, -⟩ := derives_seq.mp h
  obtain ⟨t, ht, rfl, -⟩ := derives_token.mp hDigits
  have hBefore : ∀ t ∈ us, Written t.value := by
    rcases derives_optional.mp hSign with ⟨rfl, -⟩ | hSign
    · exact List.forall_mem_nil _
    · exact written_sign hSign
  exact written_valueOf (List.forall_mem_append.mpr
    ⟨hBefore, List.forall_mem_singleton.mpr (written_digits ht)⟩)

theorem statement_writes : statement.Writes Written := by
  have hAll : Written "*" := by decide
  simp [statement, insertStatement, selectStatement, Writes, selectList, columnName, allColumns,
    hAll, qualifiedColumn, userDefinedName_writes, word, mark, insertColumns, insertValue,
    characterStringLiteral_writes, signedInteger_writes]

end Phrase

/-- The values in the tree of a parse are of the characters of values. -/
theorem parse_writes {tokens : List Token} {outcome : Outcome Parsed}
    (h : parse tokens = .ok outcome) : ∀ value ∈ outcome.answer.tree.values, Written value := by
  have hEmpty : Written "" := List.forall_mem_nil _
  obtain ⟨outcome', hParse, hRead⟩ := parse_eq_read tokens
  obtain rfl : outcome = outcome' := Except.ok.inj (h.symm.trans hParse)
  cases hm : Phrase.statement.read tokens with
  | none =>
    rw [hm] at hRead
    rw [hRead.1]
    exact List.forall_mem_singleton.mpr hEmpty
  | some m =>
    rw [hm] at hRead
    rw [hRead.1]
    exact List.forall_mem_cons.mpr ⟨hEmpty,
      (Phrase.statement_read_iff.mp hm).derives.values Phrase.statement_writes hEmpty⟩

end SqlReader
