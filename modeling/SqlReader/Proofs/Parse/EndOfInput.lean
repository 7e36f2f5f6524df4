import SqlReader.Proofs.Cursor.Reached
import SqlReader.Proofs.Grammar.Decision

/-! The end of the input.  Steps that take whole tokens stop before a token that ends the input,
whatever its lexeme is.  Steps that take characters do not ask for the category of the token: they
stop before it only if it has no character.  So a token that ends the input is in the way of every
parse unless its lexeme is letters and numbers. -/

namespace SqlReader

open Phrase

/-- A property of the tokens of every class is one of the tokens of every phrase. -/
theorem Phrase.Derives.forall_tokens {a : Phrase} {ts : List Token} {ns : List Tree}
    {P : Token → Prop} (h : a.Derives ts ns)
    (hClass : ∀ (c : TokenClass) (t : Token), c.has t = true → P t) : ∀ t ∈ ts, P t := by
  induction h with
  | token ht => exact List.forall_mem_singleton.mpr (hClass _ _ ht)
  | run hts => exact fun t ht => hClass _ _ (hts t ht)
  | seq _ _ iha ihb => exact List.forall_mem_append.mpr ⟨iha, ihb⟩
  | optionalNone => exact List.forall_mem_nil _
  | listMore _ hComma _ iha ihb =>
    exact List.forall_mem_append.mpr ⟨iha, List.forall_mem_cons.mpr ⟨hClass _ _ hComma, ihb⟩⟩
  | altLeft _ ih | altRight _ ih | optionalSome _ ih | listOne _ ih | node _ ih | leaf _ ih =>
    exact ih

namespace TokenClass

theorem plain_of_name {t : Token} (h : name.has t = true) : plain.has t = true := by
  simp only [has] at h ⊢
  cases hValue : t.value.toList with
  | nil => simp [hValue, isName] at h
  | cons c cs =>
    simp only [hValue, isName, Bool.and_eq_true] at h
    have hFirst : Text.isAlphanumeric c = true := by simp [Text.isAlphanumeric, h.1]
    simp only [isRun, List.all_cons, hFirst, h.2]
    rfl

theorem plain_of_digits {t : Token} (h : digits.has t = true) : plain.has t = true := by
  simp only [has, isRun, Bool.and_eq_true, List.all_eq_true] at h ⊢
  refine ⟨h.1, fun c hc => Text.isAlphanumeric_of_isAlphanum ?_⟩
  simp [Char.isAlphanum, h.2 c hc]

/-- A token that ends the input is in a class only if its lexeme is letters and numbers. -/
theorem plain_of_isEnd (c : TokenClass) (t : Token) (h : c.has t = true) (hEnd : t.isEnd = true) :
    plain.has t = true := by
  cases c with
  | terminal text => simp [has, hEnd] at h
  | name => exact plain_of_name h
  | digits => exact plain_of_digits h
  | plain => exact h

end TokenClass

/-- The tokens of an insertion before the only word of its literal. -/
def beforeWord : List Token :=
  [⟨"INSERT", .reserved, 0⟩, ⟨"INTO", .reserved, 7⟩, ⟨"t", .id, 12⟩, ⟨"VALUES", .reserved, 14⟩,
    ⟨"(", .reserved, 20⟩, ⟨"\"", .reserved, 21⟩]

/-- The tokens after the word. -/
def afterWord : List Token := [⟨"\"", .reserved, 23⟩, ⟨")", .reserved, 24⟩]

theorem insertion_begins {t : Token} (h : TokenClass.plain.has t = true) :
    ∃ nodes, BeginsWithStatement (beforeWord ++ t :: afterWord)
      ⟨beforeWord ++ t :: afterWord, nodes, []⟩ := by
  have hMark {text : String} {u : Token} (hu : (TokenClass.terminal text).has u = true) :
      (mark text).Derives [u] [] := .token hu
  have hTable : (node userDefinedName .tableName).Derives [⟨"t", .id, 12⟩] _ :=
    .node (.leaf (.token rfl))
  have hWord : (run .plain).Derives [t] [] := .run (List.forall_mem_singleton.mpr h)
  have hLiteral : characterStringLiteral.Derives _ _ :=
    .leaf ((hMark (u := ⟨"\"", .reserved, 21⟩) rfl).seq
      (hWord.seq (hMark (u := ⟨"\"", .reserved, 23⟩) rfl)))
  have hValues : (node (seq (list insertValue) (mark ")")) .values).Derives _ _ :=
    .node ((Derives.listOne (.altLeft hLiteral)).seq (hMark (u := ⟨")", .reserved, 24⟩) rfl))
  have hInsert : insertStatement.Derives _ _ :=
    (hMark (u := ⟨"INSERT", .reserved, 0⟩) rfl).seq
      ((hMark (u := ⟨"INTO", .reserved, 7⟩) rfl).seq (.node (hTable.seq
        (Derives.optionalNone.seq ((hMark (u := ⟨"VALUES", .reserved, 14⟩) rfl).seq
          ((hMark (u := ⟨"(", .reserved, 20⟩) rfl).seq hValues))))))
  exact ⟨_, (List.append_nil _).symm, .altLeft hInsert, fun _ _ => nofun⟩

/-- A parse takes a statement or nothing. -/
theorem parse_takes (tokens : List Token) : ∃ o taken rest, parse tokens = .ok o ∧
    tokens = taken ++ rest ∧ o.parser.cursor.place.position = taken.length ∧
      (taken = [] ∨ ∃ nodes, statement.Derives taken nodes) := by
  obtain ⟨o, hParse, hFound⟩ := parse_eq_read tokens
  cases hRead : statement.read tokens with
  | none =>
    rw [hRead] at hFound
    exact ⟨o, [], tokens, hParse, rfl, by rw [hFound.2]; rfl, .inl rfl⟩
  | some m =>
    rw [hRead] at hFound
    obtain ⟨hSplit, hDerives⟩ := read_finds hRead
    exact ⟨o, m.taken, m.rest, hParse, hSplit, by rw [hFound.2], .inr ⟨_, hDerives⟩⟩

theorem parse_stops_before {t : Token} (hEnd : t.isEnd = true)
    (hPlain : TokenClass.plain.has t = false) (before after : List Token) :
    ∃ o, parse (before ++ t :: after) = .ok o ∧
      o.parser.cursor.place.position ≤ before.length := by
  obtain ⟨o, taken, rest, hParse, hSplit, hPosition, hTaken⟩ := parse_takes (before ++ t :: after)
  refine ⟨o, hParse, ?_⟩
  rw [hPosition]
  refine Nat.le_of_not_lt fun hLess => ?_
  -- The token would be one of those taken, which are of a class each.
  have hMem : t ∈ taken := by
    have hAt : taken[before.length]? = some t := by
      have hLeft : (taken ++ rest)[before.length]? = taken[before.length]? :=
        List.getElem?_append_left hLess
      rw [← hLeft, ← hSplit]
      simp
    exact List.mem_of_getElem? hAt
  rcases hTaken with rfl | ⟨nodes, hDerives⟩
  · exact List.not_mem_nil hMem
  · have hAll := hDerives.forall_tokens
      (P := fun u => u.isEnd = true → TokenClass.plain.has u = true) TokenClass.plain_of_isEnd
    rw [hAll t hMem hEnd] at hPlain
    cases hPlain

/-- A token that ends the input, wherever a cursor has come to it, is neither seen nor taken by its
text, and a step over a character finds none and stays where it is exactly if the lexeme is empty.
Whatever tokens are around it, no parse takes it or anything behind it, exactly if its lexeme is not
made of letters and numbers. -/
theorem end_of_input_stops_unless_plain {t : Token} (hEnd : t.isEnd = true) :
    (∀ tokens c, Cursor.Reached tokens c → c.current = t →
      (∀ texts, c.peekAny texts = false ∧ c.terminalAny texts = (false, c)) ∧
      (∀ text, c.peek text = false ∧ c.terminal text = (false, c)) ∧
      ∀ test, c.consume test = (⟨false, true⟩, c) ↔ t.value = "") ∧
    ((∀ before after, ∃ o, parse (before ++ t :: after) = .ok o ∧
      o.parser.cursor.place.position ≤ before.length) ↔ TokenClass.plain.has t = false) := by
  refine ⟨fun tokens c hReached hCurrent => ?_, fun hStops => ?_, fun hPlain => ?_⟩
  · have hAtEnd : c.atEnd = true := by rw [Cursor.atEnd, hCurrent, hEnd]
    have hPeek (texts : List String) : c.peekAny texts = false := by simp [Cursor.peekAny, hAtEnd]
    have hTake (texts : List String) : c.terminalAny texts = (false, c) := by
      rw [Cursor.terminalAny, hPeek, if_neg Bool.false_ne_true]
    refine ⟨fun texts => ⟨hPeek texts, hTake texts⟩, fun text => ⟨hPeek [text], hTake [text]⟩,
      fun test => ?_⟩
    rw [c.consume_eq_self_iff, hReached.settled.currentChar?_eq_none_iff, hCurrent]
  · refine Bool.eq_false_iff.mpr fun hPlain => ?_
    obtain ⟨nodes, hBegins⟩ := insertion_begins hPlain
    obtain ⟨o, hParse, -, hPlace⟩ := parse_of_begins hBegins
    obtain ⟨o', hParse', hLe⟩ := hStops beforeWord afterWord
    rw [hParse, Except.ok.injEq] at hParse'
    rw [← hParse', hPlace, List.length_append, List.length_cons] at hLe
    dsimp only at hLe
    omega
  · exact parse_stops_before hEnd hPlain

/-- Before an ending token without a lexeme a cursor stays, and an ending asterisk is in the way of
a selection. -/
theorem end_of_input_stops_before_empty_and_mark :
    (Cursor.ofTokens [⟨"", .endOfInput, 0⟩]).consume Char.isDigit =
        (⟨false, true⟩, Cursor.ofTokens [⟨"", .endOfInput, 0⟩]) ∧
      ∃ o, parse [⟨"SELECT", .reserved, 0⟩, ⟨"*", .endOfInput, 7⟩, ⟨"FROM", .reserved, 9⟩,
        ⟨"t", .id, 14⟩] = .ok o ∧ o.parser.cursor.place.position ≤ 1 := by
  have hEmpty : (⟨"", .endOfInput, 0⟩ : Token).isEnd = true := rfl
  have hMark : (⟨"*", .endOfInput, 7⟩ : Token).isEnd = true := rfl
  obtain ⟨hSteps, -⟩ := end_of_input_stops_unless_plain hEmpty
  obtain ⟨-, hParses⟩ := end_of_input_stops_unless_plain hMark
  obtain ⟨-, -, hConsume⟩ := hSteps [⟨"", .endOfInput, 0⟩] _ .start rfl
  exact ⟨(hConsume Char.isDigit).mpr rfl, hParses.mpr (by decide)
    [⟨"SELECT", .reserved, 0⟩] [⟨"FROM", .reserved, 9⟩, ⟨"t", .id, 14⟩]⟩

/-- An ending token that is a letter is taken by that letter, and a parse takes it as a column and
goes on behind it. -/
theorem end_of_input_taken_as_name :
    (Cursor.ofTokens [⟨"a", .endOfInput, 0⟩]).atEnd = true ∧
      (Cursor.ofTokens [⟨"a", .endOfInput, 0⟩]).consume Text.isAlphabetic =
        (⟨true, true⟩, ⟨#[⟨"a", .endOfInput, 0⟩], ⟨1, 0⟩⟩) ∧
      ∃ o, parse [⟨"SELECT", .reserved, 0⟩, ⟨"a", .endOfInput, 7⟩, ⟨"FROM", .reserved, 9⟩,
          ⟨"t", .id, 14⟩] = .ok o ∧
        o.answer.accepted = true ∧ o.parser.cursor.place = ⟨4, 0⟩ := by
  have hRead : statement.read [⟨"SELECT", .reserved, 0⟩, ⟨"a", .endOfInput, 7⟩,
      ⟨"FROM", .reserved, 9⟩, ⟨"t", .id, 14⟩] =
    some ⟨[⟨"SELECT", .reserved, 0⟩, ⟨"a", .endOfInput, 7⟩, ⟨"FROM", .reserved, 9⟩,
      ⟨"t", .id, 14⟩], [⟨.select, "", [.leaf .string "a"]⟩,
        ⟨.tableName, "", [.leaf .string "t"]⟩], []⟩ := by decide +kernel
  obtain ⟨o, hParse, hAnswer, hPlace⟩ := parse_of_begins (statement_read_iff.mp hRead)
  exact ⟨rfl, by decide +kernel, o, hParse, by rw [hAnswer], hPlace⟩

end SqlReader
