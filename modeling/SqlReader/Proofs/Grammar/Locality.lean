import SqlReader.Proofs.Grammar.Composition
import SqlReader.Proofs.Grammar.Decision
import SqlReader.Proofs.Parser.Locality

/-! What is read depends on the tokens to come and the place in the first of them only.  So a parse
in the midst of other work answers as a parse of these tokens alone, and puts its nodes into the
node that is open. -/

namespace SqlReader

open ParserM

variable {p q r : Parser} {answer : Bool}

/-- What a nonterminal does over the tokens to come alone, it does from the parser itself. -/
theorem Production.runs_resume (n : Production) (h : n.action.Runs p.alone answer r) :
    n.action.Runs p answer (p.resume r) := by
  have hRun := (n.action_composed.local p p.alone p.cursor.covers_alone answer r h).2
  rwa [p.resume_alone] at hRun

/-- Between tokens, a statement is what its reading finds. -/
theorem statement_run (hp : p.cursor.BetweenTokens) (h : Grammar.statement.Runs p answer q) :
    match Phrase.statement.read p.cursor.rest with
    | some m => answer = true ∧ p.log.Gains m.nodes q.log
    | none => answer = false ∧ q = p := by
  cases hm : Phrase.statement.read p.cursor.rest with
  | some m =>
    obtain ⟨r, hRun, hGains⟩ := Grammar.statement_parses.found hp hm
    obtain ⟨rfl, rfl⟩ := h.unique hRun
    exact ⟨rfl, hGains.log⟩
  | none =>
    exact h.unique <|
      Grammar.insertStatement_parses.either_missed Grammar.selectStatement_parses hp hm

theorem Parser.alone_eq_ofTokens (h : p.cursor.atTokenStart = true) :
    p.alone = .ofTokens p.cursor.rest := by
  have hOffset : p.cursor.place.offset = 0 := eq_of_beq h
  rw [alone, Cursor.alone, hOffset]
  rfl

/-- A statement that is read from the start of a token puts into the node that is open what it puts
under the root over the tokens to come alone; and nothing if it is not found. -/
theorem draft_resume (hStart : p.cursor.atTokenStart = true)
    (h : Grammar.statement.Runs p.alone answer r) :
    (p.resume r).log.draft = p.log.draft.extend r.tree.children ∧
      (answer = false → r = p.alone) := by
  -- The same tokens after the edits of `p`: the reading finds the same, and the log grows by the
  -- same edits.
  let base : Parser := ⟨p.alone.cursor, p.log⟩
  have hAlone : p.alone.cursor.BetweenTokens := by
    rw [Parser.alone_eq_ofTokens hStart]
    exact Cursor.ofTokens_betweenTokens _
  have hBase : Grammar.statement.Runs base answer (base.resume r) :=
    Production.statement.runs_resume (p := base) h
  have hRun := statement_run hAlone h
  have hRun' := statement_run (p := base) hAlone hBase
  have hSame : base.cursor.rest = p.alone.cursor.rest := rfl
  rw [hSame] at hRun'
  cases hm : Phrase.statement.read p.alone.cursor.rest with
  | some m =>
    rw [hm] at hRun hRun'
    obtain ⟨rfl, hGains⟩ := hRun
    refine ⟨?_, nofun⟩
    rw [Parser.tree, hGains.build]
    exact hRun'.2.draft
  | none =>
    rw [hm] at hRun hRun'
    obtain ⟨rfl, rfl⟩ := hRun
    refine ⟨?_, fun _ => rfl⟩
    rw [p.resume_alone]
    exact (EditLog.Draft.extend_nil _).symm

/-- What is read depends on the tokens to come and the place in the first of them only: each
nonterminal gives the same answer from all parsers that agree in these, takes them equally far and
makes the same edits after those that they have made.  So a parse from the start of a token accepts
as a parse of the tokens to come does, moves on as far, and adds the nodes of that parse, in order,
to the node that was open; where it rejects, the tree is what it was. -/
theorem readings_are_local (rest : List Token) (offset : Nat) :
    (∀ n : Production, ∃ answer r, ∀ p : Parser, p.cursor.rest = rest →
      p.cursor.place.offset = offset → n.action.Runs p answer (p.resume r)) ∧
    ∃ alone, parse rest = .ok alone ∧ ∀ p : Parser, p.cursor.rest = rest →
      p.cursor.atTokenStart = true → ∃ outcome, ParserM.parse p = .ok outcome ∧
        outcome.parser = p.resume alone.parser ∧
        outcome.answer.accepted = alone.answer.accepted ∧
        outcome.answer.tree = (p.log.draft.extend alone.answer.tree.children).close ∧
        (alone.answer.accepted = false → outcome.answer.tree = p.tree) := by
  constructor
  · intro n
    obtain ⟨answer, r, hThrough, -⟩ := n.action_framed ⟨⟨rest.toArray, ⟨0, offset⟩⟩, .empty⟩
    refine ⟨answer, r, fun p hRest hOffset => n.runs_resume ?_⟩
    rw [Parser.alone, Cursor.alone_eq hRest hOffset]
    exact hThrough.runs
  · obtain ⟨accepted, r, hThrough, -⟩ := Production.statement.action_framed (.ofTokens rest)
    have hRun := hThrough.runs
    obtain ⟨events, hAlone⟩ := runs_parse hRun
    refine ⟨_, hAlone, fun p hRest hStart => ?_⟩
    subst hRest
    rw [← Parser.alone_eq_ofTokens hStart] at hRun
    obtain ⟨events', hParse⟩ := runs_parse (Production.statement.runs_resume hRun)
    obtain ⟨hDraft, hRejected⟩ := draft_resume hStart hRun
    refine ⟨_, hParse, rfl, rfl, ?_, fun hFalse => ?_⟩
    · rw [← hDraft]
      rfl
    · rw [hRejected hFalse, p.resume_alone]

end SqlReader
