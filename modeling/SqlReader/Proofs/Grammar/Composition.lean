import SqlReader.Proofs.Grammar.Frame
import SqlReader.Proofs.Parser.Composition

/-! Every nonterminal is put together from plain actions in the ways of a grammar. -/

namespace SqlReader

open ParserM

namespace Grammar

/-- What has been read becomes a leaf. -/
theorem plain_leaf_after {f : Cursor → Bool × Cursor} (hf : Cursor.Local f) (tree : Tree) :
    Plain (do if ← onCursor f then do add tree; return true else return false) := by
  refine (Plain.onCursor hf).bind fun found => ?_
  cases found with
  | false => exact .pure false
  | true => exact (Plain.add tree).bind fun _ => .pure true

theorem plain_atTokenStart {x : ParserM Bool} (hx : Plain x) :
    Plain (do if !(← atTokenStart) then return false else x) := by
  refine Plain.atTokenStart.bind fun start => ?_
  cases start with
  | false => exact .pure false
  | true => exact hx

theorem userDefinedName_plain : Plain userDefinedName :=
  plain_atTokenStart <| Plain.current.bind fun _ =>
    plain_leaf_after (Cursor.local_consumeWord _ _) _

theorem allColumns_plain : Plain allColumns := plain_leaf_after (Cursor.local_terminalAny ["*"]) _

theorem characterStringLiteral_plain : Plain characterStringLiteral := by
  refine (plain_terminal "\"").bind fun opening => ?_
  cases opening with
  | false => exact .pure false
  | true =>
    refine (Plain.onCursor (Cursor.local_quotedText "" none)).bind fun text => ?_
    cases text with
    | none => exact .pure false
    | some text => exact plain_leaf_after (Cursor.local_terminalAny ["\""]) _

theorem optionalSign_plain : Plain optionalSign := by
  refine Plain.current.bind fun sign => ?_
  refine (Plain.onCursor (Cursor.local_terminalAny ["+", "-"])).bind fun found => ?_
  cases found with
  | false => exact .pure ""
  | true => exact .pure sign.value

theorem signedInteger_plain : Plain signedInteger :=
  optionalSign_plain.bind fun _ => plain_atTokenStart <| Plain.current.bind fun _ =>
    plain_leaf_after (Cursor.local_consumeRest _) _

theorem userDefinedName_composed : Composed userDefinedName :=
  .leaf userDefinedName_plain userDefinedName_framed

theorem qualifiedColumn_composed : Composed qualifiedColumn :=
  (Composed.terminal "[").and <| .within _ <| userDefinedName_composed.and <|
    (Composed.terminal "]").and <| (Composed.terminal ".").and userDefinedName_composed

theorem columnName_composed : Composed columnName :=
  .either <| by simp [qualifiedColumn_composed, columnIdentifier, userDefinedName_composed]

theorem selectList_composed : Composed selectList := by
  have hAll : Composed allColumns := .leaf allColumns_plain allColumns_framed
  have hColumns : Composed (separated selectSublist) := .separated columnName_composed
  exact .either <| by simp [hAll, hColumns]

theorem selectStatement_composed : Composed selectStatement :=
  (Composed.terminal _).and <| (selectList_composed.within _).and <|
    (Composed.terminal _).and <| .within _ <| .separated userDefinedName_composed

theorem characterStringLiteral_composed : Composed characterStringLiteral :=
  .leaf characterStringLiteral_plain characterStringLiteral_framed

theorem signedInteger_composed : Composed signedInteger :=
  .leaf signedInteger_plain signedInteger_framed

theorem insertValue_composed : Composed insertValue :=
  .either <| by simp [literal, characterStringLiteral_composed, signedInteger_composed]

theorem insertColumns_composed : Composed insertColumns :=
  .ifTerminal "(" (.within _ <| (Composed.separated userDefinedName_composed).and
    (Composed.terminal ")")) (.leaf (.pure true) framed_true)

theorem insertStatement_composed : Composed insertStatement :=
  (Composed.terminal _).and <| (Composed.terminal _).and <| .within _ <|
    (userDefinedName_composed.within _).and <| insertColumns_composed.and <|
      (Composed.terminal _).and <| (Composed.terminal "(").and <| .within _ <|
        (Composed.separated insertValue_composed).and (Composed.terminal ")")

theorem statement_composed : Composed statement :=
  .either <| by simp [insertStatement_composed, selectStatement_composed]

end Grammar

theorem Production.action_composed (n : Production) : Composed n.action := by
  cases n with
  | statement => exact Grammar.statement_composed
  | insertStatement => exact Grammar.insertStatement_composed
  | selectStatement => exact Grammar.selectStatement_composed
  | selectList => exact Grammar.selectList_composed
  | selectSublist | expression | term | factor | primary | columnName =>
    exact Grammar.columnName_composed
  | tableReferenceList => exact .separated Grammar.userDefinedName_composed
  | tableReference | tableName | tableIdentifier | columnIdentifier | userDefinedName =>
    exact Grammar.userDefinedName_composed
  | insertValue => exact Grammar.insertValue_composed
  | literal | characterStringLiteral => exact Grammar.characterStringLiteral_composed
  | signedInteger => exact Grammar.signedInteger_composed

end SqlReader
