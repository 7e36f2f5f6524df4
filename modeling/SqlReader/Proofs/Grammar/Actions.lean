import SqlReader.Proofs.Cursor.Forward
import SqlReader.Proofs.Grammar
import SqlReader.Proofs.Parser.Phrases
import SqlReader.Proofs.Text.Runs

/-! Every action of the grammar parses the phrase of its nonterminal. -/

namespace SqlReader

open ParserM

namespace Grammar

variable {x : ParserM Bool} {p q : Parser} {t : Token} {ts : List Token}

theorem gains_leaf {rest : List Token} (h : p.Gains [] rest q) (tree : Tree) :
    p.Gains [tree] rest { q with log := q.log.add tree } :=
  ⟨h.cursor, h.log.trans (EditLog.gains_add q.log tree)⟩

/-! ### Tokens taken by their characters -/

theorem parses_token {tokens : TokenClass} {f : Cursor → Bool × Cursor}
    (hTokens : ∀ c, (f c).2.tokens = c.tokens)
    (h : ∀ c : Cursor, c.place.offset = 0 → (f c).1 = tokens.has c.current ∧
      (tokens.has c.current = true → (f c).2 = c.advance))
    (hEnd : tokens.has .endOfInput = false) : (onCursor f).Parses (.token tokens) := by
  intro p hp
  obtain ⟨hAnswer, hCursor⟩ := h p.cursor hp.offset
  have hRun := runs_onCursor f p
  have hKeeps : p.Keeps { p with cursor := (f p.cursor).2 } := ⟨hTokens _, .refl _⟩
  cases hRest : p.cursor.rest with
  | nil =>
    rw [Cursor.current_of_rest_nil hRest, hEnd] at hAnswer
    exact ⟨_, hAnswer ▸ hRun, hKeeps⟩
  | cons t ts =>
    rw [Cursor.current_of_rest hRest] at hAnswer hCursor
    simp only [Phrase.read]
    by_cases ht : tokens.has t = true
    · rw [if_pos ht]
      rw [ht] at hAnswer
      rw [hAnswer, hCursor ht] at hRun
      exact ⟨_, hRun, Cursor.reaches_advance hRest, .refl _⟩
    · rw [if_neg ht]
      rw [Bool.eq_false_iff.mpr ht] at hAnswer
      exact ⟨_, hAnswer ▸ hRun, hKeeps⟩

theorem consumeWord_parses :
    (consumeWord Text.isAlphabetic Text.isAlphanumeric).Parses (.token .name) :=
  parses_token (fun c => (c.forward_consumeWord _ _).tokens)
    (fun _ h => (Cursor.between_start h).consumeWord) rfl

theorem consumeRest_parses : (consumeRest Char.isDigit).Parses (.token .digits) :=
  parses_token (fun c => (c.forward_consumeRest _).tokens)
    (fun _ h => (Cursor.between_start h).consumeRest _) rfl

theorem parses_leaf {tokens : TokenClass} (hx : x.Parses (.token tokens)) (kind : NodeKind)
    (f : String → String) :
    ParserM.Parses (do
      if !(← atTokenStart) then return false
      let value := (← current).value
      if ← x then
        add (.leaf kind (f value))
        return true
      else return false) (.leaf (.token tokens) kind fun ts => f (Phrase.valueOf ts)) := by
  intro p hp
  have hStart : p.cursor.atTokenStart = true := by simp [Cursor.atTokenStart, hp.offset]
  have hLook {y : Bool → ParserM Bool} {answer : Bool} {r : Parser}
      (h : (y true).Runs p answer r) : (atTokenStart >>= y).Runs p answer r :=
    (runs_look (·.cursor.atTokenStart) p).bind (by rw [hStart]; exact h)
  have hCurrent := runs_look (·.cursor.current) p
  cases hm : (Phrase.token tokens).read p.cursor.rest with
  | none =>
    obtain ⟨q, hRun, hKeeps⟩ := hx.missed hp hm
    simp only [Phrase.read, hm]
    exact ⟨q, hLook (hCurrent.bind (hRun.bind (runs_pure false q))), hKeeps⟩
  | some m =>
    obtain ⟨q, hRun, hGains⟩ := hx.found hp hm
    obtain ⟨t, ts, hRest, rfl⟩ := Phrase.read_token hm
    have hValue : f (Phrase.valueOf [t]) = f p.cursor.current.value := by
      rw [Phrase.valueOf_singleton, Cursor.current_of_rest hRest]
    simp only [Phrase.read, hm, Option.bind_eq_bind, Option.bind_some, hValue]
    exact ⟨_, hLook (hCurrent.bind (hRun.bind (runs_leaf _ q))), gains_leaf hGains _⟩

theorem userDefinedName_parses : userDefinedName.Parses Phrase.userDefinedName :=
  parses_leaf consumeWord_parses .string id

theorem allColumns_parses : allColumns.Parses Phrase.allColumns := by
  intro p hp
  cases hm : (Phrase.mark "*").read p.cursor.rest with
  | none =>
    obtain ⟨q, hRun, hKeeps⟩ := (parses_terminal "*").missed hp hm
    simp only [Phrase.allColumns, Phrase.read, hm]
    exact ⟨q, hRun.bind (runs_pure false q), hKeeps⟩
  | some m =>
    obtain ⟨q, hRun, hGains⟩ := (parses_terminal "*").found hp hm
    obtain ⟨t, ts, -, rfl⟩ := Phrase.read_token hm
    simp only [Phrase.allColumns, Phrase.read, hm, Option.bind_eq_bind, Option.bind_some]
    exact ⟨_, hRun.bind (runs_leaf _ q), gains_leaf hGains _⟩

/-! ### Integers and literals -/

theorem runs_optionalSign_none (h : p.cursor.rest.head?.any Phrase.sign.first = false) :
    optionalSign.Runs p "" p := by
  refine (runs_look (·.cursor.current) p).bind ((runs_terminalAny_false ?_).bind (runs_pure "" p))
  cases hRest : p.cursor.rest with
  | nil => exact Cursor.peekAny_nil hRest _
  | cons t ts =>
    rw [hRest] at h
    rw [Cursor.peekAny_cons hRest]
    simpa [Phrase.sign, Phrase.first, Phrase.mark] using h

theorem runs_optionalSign_some (hRest : p.cursor.rest = t :: ts)
    (ht : Phrase.sign.first t = true) :
    ∃ q, optionalSign.Runs p t.value q ∧ p.Gains [] ts q := by
  have hPeek : p.cursor.peekAny ["+", "-"] = true := by
    rw [Cursor.peekAny_cons hRest]
    simpa [Phrase.sign, Phrase.first, Phrase.mark] using ht
  have hRun : optionalSign.Runs p p.cursor.current.value _ :=
    (runs_look (·.cursor.current) p).bind ((runs_terminalAny_true hPeek).bind (runs_pure _ _))
  rw [Cursor.current_of_rest hRest] at hRun
  exact ⟨_, hRun, Cursor.reaches_advance hRest, .refl _⟩

theorem read_sign (ht : Phrase.sign.first t = true) :
    Phrase.sign.read (t :: ts) = some ⟨[t], [], ts⟩ := by
  simp only [Phrase.sign, Phrase.first, Phrase.mark, Bool.or_eq_true] at ht
  by_cases hPlus : (TokenClass.terminal "+").has t = true
  · simp [Phrase.sign, Phrase.mark, Phrase.read, hPlus]
  · simp [Phrase.sign, Phrase.mark, Phrase.read, hPlus, ht.resolve_left hPlus]

theorem parses_signed (sign : String) :
    ParserM.Parses (do
      if !(← atTokenStart) then return false
      let digits := (← current).value
      if ← consumeRest Char.isDigit then
        add (.leaf .int (sign ++ digits))
        return true
      else return false)
      (.leaf (.token .digits) .int fun ts => sign ++ Phrase.valueOf ts) :=
  parses_leaf consumeRest_parses .int (sign ++ ·)

theorem read_unsigned (h : ts.head?.any Phrase.sign.first = false) :
    Phrase.signedInteger.read ts =
      (Phrase.leaf (.token .digits) .int fun us => "" ++ Phrase.valueOf us).read ts := by
  simp only [Phrase.signedInteger, Phrase.read, h, Bool.false_eq_true, if_false,
    Option.bind_eq_bind, Option.bind_some]
  cases (Phrase.token .digits).read ts <;> simp [Phrase.Match.append]

theorem read_signed (ht : Phrase.sign.first t = true) :
    Phrase.signedInteger.read (t :: ts) =
      ((Phrase.leaf (.token .digits) .int fun us => t.value ++ Phrase.valueOf us).read ts).map
        fun m => { m with taken := t :: m.taken } := by
  simp only [Phrase.signedInteger, Phrase.read, List.head?_cons, Option.any_some, if_pos ht,
    read_sign ht, Option.bind_eq_bind, Option.bind_some]
  cases (Phrase.token .digits).read ts with
  | none => rfl
  | some m => simp [Phrase.Match.append, Phrase.valueOf]

theorem signedInteger_parses : signedInteger.Parses Phrase.signedInteger := by
  intro p hp
  cases hHead : p.cursor.rest.head?.any Phrase.sign.first with
  | false =>
    rw [read_unsigned hHead]
    have hInner := parses_signed "" p hp
    split at hInner
    · obtain ⟨q, hRun, hGains⟩ := hInner
      exact ⟨q, (runs_optionalSign_none hHead).bind hRun, hGains⟩
    · obtain ⟨q, hRun, hKeeps⟩ := hInner
      exact ⟨q, (runs_optionalSign_none hHead).bind hRun, hKeeps⟩
  | true =>
    obtain ⟨t, hSome, ht⟩ := (Option.any_eq_true _ _).mp hHead
    obtain ⟨ts, hRest⟩ := List.head?_eq_some_iff.mp hSome
    obtain ⟨q, hSign, hGains⟩ := runs_optionalSign_some hRest ht
    have hInner := parses_signed t.value q hGains.cursor.betweenTokens
    rw [hGains.cursor.rest] at hInner
    rw [hRest, read_signed ht]
    split at hInner
    · rename_i m hm
      obtain ⟨r, hRun, hGains'⟩ := hInner
      rw [hm]
      exact ⟨r, hSign.bind hRun, hGains.trans hGains'⟩
    · rename_i hNone
      obtain ⟨r, hRun, hKeeps⟩ := hInner
      rw [hNone]
      exact ⟨r, hSign.bind hRun, hGains.keeps.trans hKeeps⟩

theorem read_literal (ht : Cursor.quotationMark.has t = true) :
    Phrase.characterStringLiteral.read (t :: ts) =
      match ts.dropWhile TokenClass.plain.has with
      | [] => none
      | u :: us =>
        if Cursor.quotationMark.has u then
          some ⟨t :: (ts.takeWhile TokenClass.plain.has ++ [u]),
            [.leaf .string (String.ofList
              (Cursor.spaced none (ts.takeWhile TokenClass.plain.has)))], us⟩
        else none := by
  rw [Cursor.quotationMark] at ht ⊢
  simp only [Phrase.characterStringLiteral, Phrase.mark, Phrase.read, ht, if_true,
    Option.bind_eq_bind, Option.bind_some]
  cases ts.dropWhile TokenClass.plain.has with
  | nil => rfl
  | cons u us =>
    by_cases hu : (TokenClass.terminal "\"").has u = true
    · simp [Phrase.read, hu, Phrase.Match.append, Phrase.quotedValue]
    · simp [Phrase.read, hu]

/-- Letters and numbers between two quotation marks are taken, and nothing but the leaf is added. -/
theorem runs_literal {u : Token} {us : List Token} (hRest : p.cursor.rest = t :: (ts ++ u :: us))
    (ht : Cursor.quotationMark.has t = true) (hPlain : ∀ t ∈ ts, TokenClass.plain.has t = true)
    (hu : Cursor.quotationMark.has u = true) :
    ∃ d, p.cursor.Reaches us d ∧ characterStringLiteral.Runs p true
      ⟨d, p.log.add (.leaf .string (String.ofList (Cursor.spaced none ts)))⟩ := by
  have hEnds : ∀ t ∈ (u :: us).head?, TokenClass.plain.has t = false := by
    simpa using TokenClass.mark_apart_plain (m := '"') rfl (by decide) (by decide) u hu
  obtain ⟨hTake, hDrop⟩ := takeWhile_append_of_ends hPlain hEnds
  have hAdvance := Cursor.reaches_advance hRest
  have hOpen : (terminal "\"").Runs p true { p with cursor := p.cursor.advance } :=
    runs_terminalAny_true (by simpa [Cursor.peekAny_cons hRest, Cursor.quotationMark] using ht)
  have hText := runs_onCursor (·.quotedText "" none) { p with cursor := p.cursor.advance }
  have hQuoted := Cursor.quotedText_eq hAdvance.betweenTokens "" none
  rw [hAdvance.rest, hDrop, hTake] at hQuoted
  dsimp only at hQuoted
  rw [if_pos hu] at hQuoted
  obtain ⟨c, hReaches, hSome⟩ := hQuoted
  rw [hSome, String.empty_append] at hText
  have hClose : (terminal "\"").Runs ⟨c, p.log⟩ true ⟨c.advance, p.log⟩ :=
    runs_terminalAny_true
      (by simpa [Cursor.peekAny_cons hReaches.rest, Cursor.quotationMark] using hu)
  exact ⟨c.advance, (hAdvance.trans hReaches).trans (Cursor.reaches_advance hReaches.rest),
    hOpen.bind (hText.bind (hClose.bind (runs_leaf _ _)))⟩

/-- Without a second quotation mark after the letters and numbers the action fails. -/
theorem runs_literal_missed (hRest : p.cursor.rest = t :: ts)
    (ht : Cursor.quotationMark.has t = true)
    (hNone : ∀ u ∈ (ts.dropWhile TokenClass.plain.has).head?, Cursor.quotationMark.has u = false) :
    ∃ q, characterStringLiteral.Runs p false q ∧ p.Keeps q := by
  obtain ⟨q, hOpen, hGains⟩ := runs_terminal_true hRest ht
  have hText := runs_onCursor (·.quotedText "" none) q
  have hQuoted := Cursor.quotedText_eq hGains.cursor.betweenTokens "" none
  have hMissed {c : Cursor} (h : q.cursor.quotedText "" none = (none, c))
      (hTokens : c.tokens = q.cursor.tokens) :
      ∃ r, characterStringLiteral.Runs p false r ∧ p.Keeps r := by
    rw [h] at hText
    exact ⟨_, hOpen.bind (hText.bind (runs_pure false _)), hGains.keeps.trans ⟨hTokens, .refl _⟩⟩
  rw [hGains.cursor.rest] at hQuoted
  cases hLater : ts.dropWhile TokenClass.plain.has with
  | nil =>
    rw [hLater] at hQuoted
    obtain ⟨c, hFails, hTokens⟩ := hQuoted
    exact hMissed hFails hTokens
  | cons u us =>
    have hu : Cursor.quotationMark.has u = false := hNone u (by rw [hLater]; rfl)
    rw [hLater] at hQuoted
    dsimp only at hQuoted
    rw [if_neg (by simp [hu])] at hQuoted
    obtain ⟨c, hFails, hTokens⟩ := hQuoted
    exact hMissed hFails hTokens

theorem characterStringLiteral_parses :
    characterStringLiteral.Parses Phrase.characterStringLiteral := by
  intro p hp
  cases hm : (Phrase.mark "\"").read p.cursor.rest with
  | none =>
    obtain ⟨q, hOpen, hKeeps⟩ := (parses_terminal "\"").missed hp hm
    simp only [Phrase.characterStringLiteral, Phrase.read, hm, Option.bind_eq_bind,
      Option.bind_none]
    exact ⟨q, hOpen.bind (runs_pure false q), hKeeps⟩
  | some m =>
    obtain ⟨t, ts, hRest, rfl⟩ := Phrase.read_token hm
    have ht : Cursor.quotationMark.has t = true := by
      rw [hRest] at hm
      cases (Phrase.read_finds hm).derives
      assumption
    rw [hRest, read_literal ht]
    cases hLater : ts.dropWhile TokenClass.plain.has with
    | nil => exact runs_literal_missed hRest ht (by simp [hLater])
    | cons u us =>
      dsimp only
      by_cases hu : Cursor.quotationMark.has u = true
      · have hSplit : p.cursor.rest = t :: (ts.takeWhile TokenClass.plain.has ++ u :: us) := by
          rw [hRest, ← hLater, List.takeWhile_append_dropWhile]
        have hPlain : ∀ t ∈ ts.takeWhile TokenClass.plain.has, TokenClass.plain.has t = true :=
          List.all_eq_true.mp List.all_takeWhile
        obtain ⟨d, hReaches, hRun⟩ := runs_literal hSplit ht hPlain hu
        rw [if_pos hu]
        exact ⟨_, hRun, hReaches, EditLog.gains_add _ _⟩
      · rw [if_neg hu]
        exact runs_literal_missed hRest ht (by simpa [hLater] using hu)

/-! ### Nonterminals -/

theorem columnName_parses : columnName.Parses Phrase.columnName :=
  .alt (.seq (parses_terminal "[") (.node (.seq userDefinedName_parses (.seq (parses_terminal "]")
    (.seq (parses_terminal ".") userDefinedName_parses))) _)) userDefinedName_parses

theorem selectList_parses : selectList.Parses Phrase.selectList :=
  allColumns_parses.alt columnName_parses.list

theorem selectStatement_parses : selectStatement.Parses Phrase.selectStatement :=
  .seq (parses_terminal _) (.seq (selectList_parses.node _)
    (.seq (parses_terminal _) (userDefinedName_parses.list.node _)))

theorem insertValue_parses : insertValue.Parses Phrase.insertValue :=
  characterStringLiteral_parses.alt signedInteger_parses

theorem insertColumns_parses : insertColumns.Parses Phrase.insertColumns :=
  .optional (.node (.seq userDefinedName_parses.list (parses_terminal ")")) _) "("

theorem insertStatement_parses : insertStatement.Parses Phrase.insertStatement :=
  .seq (parses_terminal _) (.seq (parses_terminal _) (.node
    (.seq (userDefinedName_parses.node _) (.seq insertColumns_parses (.seq (parses_terminal _)
      (.seq (parses_terminal "(")
        (.node (.seq insertValue_parses.list (parses_terminal ")")) _))))) _))

theorem statement_parses : statement.Parses Phrase.statement :=
  insertStatement_parses.alt selectStatement_parses

end Grammar

/-- Every action of the grammar finds what the reading of its nonterminal finds. -/
theorem Production.action_parses (n : Production) : n.action.Parses n.phrase := by
  cases n with
  | statement => exact Grammar.statement_parses
  | insertStatement => exact Grammar.insertStatement_parses
  | selectStatement => exact Grammar.selectStatement_parses
  | selectList => exact Grammar.selectList_parses
  | selectSublist | expression | term | factor | primary | columnName =>
    exact Grammar.columnName_parses
  | tableReferenceList => exact Grammar.userDefinedName_parses.list
  | tableReference | tableName | tableIdentifier | columnIdentifier | userDefinedName =>
    exact Grammar.userDefinedName_parses
  | insertValue => exact Grammar.insertValue_parses
  | literal | characterStringLiteral => exact Grammar.characterStringLiteral_parses
  | signedInteger => exact Grammar.signedInteger_parses

end SqlReader
