import SqlReader.Grammar
import SqlReader.Proofs.Parser.Frame

/-! Every nonterminal keeps to the frame of the parser that it is read from.  Where it is found it
has taken a token and has put a node into the node that was open; where it is not found, one that is
a choice has left everything as it was. -/

namespace SqlReader

open ParserM

namespace Grammar

theorem userDefinedName_framed : Framed 1 1 userDefinedName :=
  framed_atTokenStart <| framed_look fun _ =>
    framed_leaf_after (fun c => c.forward_consumeWord _ _) (fun _ => Cursor.past_consumeWord) _

theorem allColumns_framed : Framed 1 1 allColumns :=
  framed_leaf_after (fun c => c.forward_terminalAny ["*"]) (fun _ => Cursor.past_terminalAny) _

theorem signedInteger_framed : Framed 1 1 signedInteger := by
  have hDigits (sign : String) : Framed 1 1 (do
      if !(← atTokenStart) then return false
      let digits := (← current).value
      if ← consumeRest Char.isDigit then
        add (.leaf .int (sign ++ digits))
        return true
      else return false) :=
    framed_atTokenStart <| framed_look fun _ =>
      framed_leaf_after (fun c => c.forward_consumeRest _) (fun _ => Cursor.past_consumeRest) _
  rw [signedInteger, optionalSign, bind_assoc]
  refine framed_look fun token => ?_
  rw [bind_assoc]
  refine framed_onCursor (fun c => c.forward_terminalAny ["+", "-"]) Nat.one_pos fun found => ?_
  cases found with
  | false =>
    rw [if_neg Bool.false_ne_true, pure_bind]
    exact hDigits ""
  | true =>
    rw [if_pos rfl, pure_bind]
    exact hDigits token.value

theorem characterStringLiteral_framed : Framed 1 1 characterStringLiteral := by
  refine framed_onCursor (fun c => c.forward_terminalAny ["\""]) Nat.one_pos fun opening => ?_
  cases opening with
  | false => exact framed_false 1 1
  | true =>
    refine framed_onCursor (fun c => c.forward_quotedText "" none) Nat.one_pos fun text => ?_
    cases text with
    | none => exact framed_false 1 1
    | some text =>
      exact framed_leaf_after (fun c => c.forward_terminalAny ["\""])
        (fun _ => Cursor.past_terminalAny) _

theorem qualifiedColumn_framed : Framed 1 1 qualifiedColumn :=
  ((framed_terminal "[").and (.within (userDefinedName_framed.and ((framed_terminal "]").and
    ((framed_terminal ".").and userDefinedName_framed))) _)).mono (by decide) (by decide)

/-- The ways to read a column. -/
theorem columnName_alternatives :
    ∀ x ∈ [qualifiedColumn, columnIdentifier], Framed 1 1 x := by
  simp [qualifiedColumn_framed, columnIdentifier, userDefinedName_framed]

theorem columnName_framed : Framed 1 1 columnName := framed_either columnName_alternatives

theorem selectList_alternatives :
    ∀ x ∈ [allColumns, separated selectSublist], Framed 1 1 x := by
  have hColumns : Framed 1 1 (separated selectSublist) := columnName_framed.separated
  simp [allColumns_framed, hColumns]

theorem selectStatement_framed : Framed 1 1 selectStatement :=
  ((framed_terminal _).and (((framed_either selectList_alternatives).within _).and
    ((framed_terminal _).and (userDefinedName_framed.separated.within _)))).mono (by decide)
      (by decide)

theorem insertValue_alternatives : ∀ x ∈ [literal, signedInteger], Framed 1 1 x := by
  simp [literal, characterStringLiteral_framed, signedInteger_framed]

theorem insertColumns_framed : Framed 0 0 insertColumns :=
  framed_ifTerminal "(" (((userDefinedName_framed.separated.and (framed_terminal ")")).within
    _).mono (by decide) (by decide)) framed_true

theorem insertStatement_framed : Framed 1 1 insertStatement :=
  ((framed_terminal _).and ((framed_terminal _).and (.within
    ((userDefinedName_framed.within _).and (insertColumns_framed.and ((framed_terminal _).and
      ((framed_terminal "(").and
        (.within ((framed_either insertValue_alternatives).separated.and
          (framed_terminal ")")) _))))) _))).mono (by decide) (by decide)

theorem statement_alternatives :
    ∀ x ∈ [insertStatement, selectStatement], Framed 1 1 x := by
  simp [insertStatement_framed, selectStatement_framed]

end Grammar

namespace Production

theorem action_framed (n : Production) : Framed 1 1 n.action := by
  cases n with
  | statement => exact framed_either Grammar.statement_alternatives
  | insertStatement => exact Grammar.insertStatement_framed
  | selectStatement => exact Grammar.selectStatement_framed
  | selectList => exact framed_either Grammar.selectList_alternatives
  | selectSublist | expression | term | factor | primary | columnName =>
    exact Grammar.columnName_framed
  | tableReferenceList => exact Grammar.userDefinedName_framed.separated
  | tableReference | tableName | tableIdentifier | columnIdentifier | userDefinedName =>
    exact Grammar.userDefinedName_framed
  | insertValue => exact framed_either Grammar.insertValue_alternatives
  | literal | characterStringLiteral => exact Grammar.characterStringLiteral_framed
  | signedInteger => exact Grammar.signedInteger_framed

/-- The nonterminals that are choices, also where they stand for one. -/
def choices : List Production :=
  [statement, selectList, selectSublist, expression, term, factor, primary, columnName, insertValue]

theorem alternatives_of_choice {n : Production} (h : n ∈ choices) :
    ∃ alternatives, n.action = either alternatives ∧ ∀ x ∈ alternatives, Framed 1 1 x := by
  cases n with
  | statement => exact ⟨_, rfl, Grammar.statement_alternatives⟩
  | selectList => exact ⟨_, rfl, Grammar.selectList_alternatives⟩
  | selectSublist | expression | term | factor | primary | columnName =>
    exact ⟨_, rfl, Grammar.columnName_alternatives⟩
  | insertValue => exact ⟨_, rfl, Grammar.insertValue_alternatives⟩
  | insertStatement | selectStatement | tableReferenceList | tableReference | tableName
  | tableIdentifier | columnIdentifier | userDefinedName | literal | characterStringLiteral
  | signedInteger => simp [choices] at h

/-- A choice that is not found leaves the parser as it was. -/
theorem unchanged_of_choice {n : Production} {p q : Parser} (h : n ∈ choices)
    (hRun : n.action.Runs p false q) : q = p := by
  obtain ⟨alternatives, hAction, hFramed⟩ := alternatives_of_choice h
  obtain ⟨answer, r, hThrough, -, hUnchanged⟩ := either_framed hFramed p
  rw [hAction] at hRun
  obtain ⟨hAnswer, rfl⟩ := hRun.unique hThrough.runs
  exact hUnchanged hAnswer.symm

end Production

/-- From every parser each nonterminal is read through parsers in its frame only: at every step the
tokens are the same, the place is not before the first one, the log begins with the edits that it
had and no fewer nodes are open.  Where the nonterminal is found, the parser is at the start of a later
token, as many nodes are open as before, and what the new edits build is at least one more child of
the node that was open.  Where a nonterminal that is a choice is not found, the parser is as it
was. -/
theorem nonterminals_keep_frame (n : Production) (p : Parser) :
    ∃ answer q, n.action.Runs p answer q ∧ n.action.RunsThrough p.Frame p answer q ∧ p.Frame q ∧
      (answer = true → p.cursor.Past q.cursor ∧
        ∃ trees, trees ≠ [] ∧ p.log.Gains trees q.log) ∧
      (answer = false → n ∈ Production.choices → q = p) := by
  obtain ⟨answer, q, hThrough, hTakes⟩ := n.action_framed p
  refine ⟨answer, q, hThrough.runs, hThrough, hThrough.last, fun hAnswer => ?_, ?_⟩
  · have hMore := hTakes hAnswer
    obtain ⟨trees, hSome, hGains⟩ := hMore.trees
    exact ⟨hMore.past Nat.one_pos, trees, List.ne_nil_of_length_pos hSome, hGains⟩
  · rintro rfl hChoice
    exact Production.unchanged_of_choice hChoice hThrough.runs

end SqlReader
