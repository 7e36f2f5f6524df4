import SqlReader.Proofs.Grammar.Decision
import SqlReader.Proofs.Grammar.Frame
import SqlReader.Proofs.Parser.Safety

/-! Every nonterminal can be read from every parser, wherever it stands in its tokens, also inside
one, and whatever edits its log holds: the reading ends and keeps to the rules of the log. -/

namespace SqlReader

open ParserM

theorem Production.action_safe (n : Production) : Safe n.action := n.action_framed.safe

theorem Grammar.statement_safe : Safe Grammar.statement := Production.statement.action_safe

/-- From every parser each nonterminal is read to an end without a violation: no edit of the log is
taken back, the parser does not go back in its tokens, and after a success as many nodes are open as
before.  A list of nonterminals ends by itself, as it runs without a bound.  So a parse from any
parser ends without a violation, and no text makes the parser violate the rules of the log. -/
theorem readings_end_without_violation (p : Parser) :
    (∀ n : Production, ∃ answer q, n.action.Runs p answer q ∧ p.Leads answer q) ∧
      (∀ n : Production, ∃ answer q, (separated n.action).Runs p answer q ∧
        ListRun n.action p answer q) ∧
      (∃ outcome, ParserM.parse p = .ok outcome) ∧
      ∀ text violation, parseText text ≠ .error (.misuse violation) := by
  have hParse (p : Parser) : ∃ outcome, ParserM.parse p = .ok outcome := by
    obtain ⟨accepted, q, hRun, -⟩ := Grammar.statement_safe p
    obtain ⟨events, hOk⟩ := runs_parse hRun
    exact ⟨_, hOk⟩
  refine ⟨fun n => n.action_safe p, fun n => ?_, hParse p, fun text violation => ?_⟩
  · obtain ⟨answer, q, hRun, hList, -⟩ := n.action_safe.listRun p
    exact ⟨answer, q, hRun, hList⟩
  · rw [parseText, read]
    split
    · simp
    · rename_i tokens _
      obtain ⟨outcome, hOk⟩ := hParse (.ofTokens tokens)
      rw [parse, hOk]
      simp

end SqlReader
