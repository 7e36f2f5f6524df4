import SqlReader.Parse
import SqlReader.Proofs.Grammar.Actions
import SqlReader.Proofs.Grammar.Predictive

/-! A parse accepts exactly the tokens that begin with a statement, takes the tokens of the
statement, and builds its nodes. -/

namespace SqlReader

open ParserM

variable {tokens : List Token} {nodes : List Tree} {log : EditLog} {p q : Parser}

theorem EditLog.Gains.build (h : EditLog.empty.Gains nodes log) :
    log.build = ⟨.root, "", nodes⟩ := by
  rw [build_eq, h.draft]
  rfl

theorem runs_parse {accepted : Bool} (h : Grammar.statement.Runs p accepted q) :
    ParserM.parse.Runs p ⟨accepted, q.tree⟩ q :=
  h.bind ((runs_look id q).bind ((runs_note _ q).bind (runs_pure _ q)))

theorem parse_of_begins {m : Phrase.Match} (h : Phrase.BeginsWithStatement tokens m) :
    ∃ outcome, parse tokens = .ok outcome ∧ outcome.answer = ⟨true, .root, "", m.nodes⟩ ∧
      outcome.parser.cursor.place = ⟨m.taken.length, 0⟩ := by
  have hStart := Cursor.ofTokens_betweenTokens tokens
  have hRead : Phrase.statement.read (Parser.ofTokens tokens).cursor.rest = some m :=
    Phrase.statement_read_iff.mpr h
  obtain ⟨q, hRun, hGains⟩ := Grammar.statement_parses.found hStart hRead
  obtain ⟨events, hParse⟩ := runs_parse hRun
  refine ⟨_, hParse, ?_, ?_⟩
  · rw [Parser.tree, hGains.log.build]
  · rw [hGains.cursor.place]
    simp [Parser.ofTokens, Cursor.ofTokens, h.split]

theorem parse_of_not_begins (h : ∀ m, ¬Phrase.BeginsWithStatement tokens m) :
    ∃ outcome, parse tokens = .ok outcome ∧ outcome.answer = ⟨false, .bareRoot⟩ ∧
      outcome.parser.cursor.place = ⟨0, 0⟩ := by
  have hStart := Cursor.ofTokens_betweenTokens tokens
  have hRead : Phrase.statement.read (Parser.ofTokens tokens).cursor.rest = none :=
    Option.eq_none_iff_forall_ne_some.mpr fun m hm => h m (Phrase.statement_read_iff.mp hm)
  have hRun := Grammar.insertStatement_parses.either_missed Grammar.selectStatement_parses hStart
    hRead
  obtain ⟨events, hParse⟩ := runs_parse hRun
  exact ⟨_, hParse, rfl, rfl⟩

/-- A parse is the reading of a statement. -/
theorem parse_eq_read (tokens : List Token) : ∃ outcome, parse tokens = .ok outcome ∧
    match Phrase.statement.read tokens with
    | some m =>
      outcome.answer = ⟨true, .root, "", m.nodes⟩ ∧
        outcome.parser.cursor.place = ⟨m.taken.length, 0⟩
    | none => outcome.answer = ⟨false, .bareRoot⟩ ∧ outcome.parser.cursor.place = ⟨0, 0⟩ := by
  cases hm : Phrase.statement.read tokens with
  | some m => exact parse_of_begins (Phrase.statement_read_iff.mp hm)
  | none =>
    refine parse_of_not_begins fun m hBegins => ?_
    rw [Phrase.statement_read_iff.mpr hBegins] at hm
    cases hm

theorem parseText_of_lex {text : String} {outcome : Outcome Parsed} (hLex : lex text = .ok tokens)
    (hParse : parse tokens = .ok outcome) : parseText text = .ok outcome.answer := by
  have hCut : (Scan.ofText lexicon text).result = .ok tokens := hLex
  simp [parseText, read, hCut, hParse]

theorem parseText_of_read {text : String} {m : Phrase.Match} (hLex : lex text = .ok tokens)
    (hRead : Phrase.statement.read tokens = some m) :
    parseText text = .ok ⟨true, .root, "", m.nodes⟩ := by
  obtain ⟨outcome, hParse, hAnswer, -⟩ := parse_of_begins (Phrase.statement_read_iff.mp hRead)
  rw [parseText_of_lex hLex hParse, hAnswer]

theorem lex_of_parseText {text : String} {answer : Parsed} (h : parseText text = .ok answer) :
    ∃ tokens outcome, lex text = .ok tokens ∧ parse tokens = .ok outcome ∧
      outcome.answer = answer := by
  unfold parseText read at h
  dsimp only at h
  split at h
  · cases h
  · rename_i tokens hLex
    split at h
    · cases h
    · rename_i outcome hParse
      cases h
      exact ⟨tokens, outcome, hLex, hParse, rfl⟩

/-- Parsing decides whether the tokens begin with a statement.  There is one way to read the
statement; the parse takes its tokens and puts its nodes under the root.  Where there is none, no
token is taken and the root stays bare. -/
theorem parse_decides_statements (tokens : List Token) :
    ∃ outcome, parse tokens = .ok outcome ∧
      (outcome.answer.accepted = true ↔ ∃ m, Phrase.BeginsWithStatement tokens m) ∧
      (∀ m, Phrase.BeginsWithStatement tokens m →
        outcome.parser.cursor.place = ⟨m.taken.length, 0⟩ ∧
        outcome.answer.tree = ⟨.root, "", m.nodes⟩ ∧
        ∀ m', Phrase.BeginsWithStatement tokens m' → m' = m) ∧
      (outcome.answer.accepted = false →
        outcome.parser.cursor.place = ⟨0, 0⟩ ∧ outcome.answer.tree = .bareRoot) := by
  by_cases hBegins : ∃ m, Phrase.BeginsWithStatement tokens m
  · obtain ⟨m, hm⟩ := hBegins
    have hUnique : ∀ m', Phrase.BeginsWithStatement tokens m' → m' = m := fun m' hm' =>
      Option.some.inj ((Phrase.statement_read_iff.mpr hm').symm.trans
        (Phrase.statement_read_iff.mpr hm))
    obtain ⟨outcome, hParse, hAnswer, hPlace⟩ := parse_of_begins hm
    refine ⟨outcome, hParse, ?_, fun n hn => ?_, ?_⟩
    · simp only [hAnswer, true_iff]
      exact ⟨m, hm⟩
    · obtain rfl := hUnique n hn
      exact ⟨hPlace, by rw [hAnswer], hUnique⟩
    · simp [hAnswer]
  · obtain ⟨outcome, hParse, hAnswer, hPlace⟩ := parse_of_not_begins (not_exists.mp hBegins)
    refine ⟨outcome, hParse, ?_, fun m hm => absurd ⟨m, hm⟩ hBegins, fun _ => ⟨hPlace, ?_⟩⟩
    · simp [hAnswer, hBegins]
    · rw [hAnswer]

end SqlReader
