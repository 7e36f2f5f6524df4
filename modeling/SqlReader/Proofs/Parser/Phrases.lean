import SqlReader.Proofs.Cursor.Tokens
import SqlReader.Proofs.EditLog.Growth
import SqlReader.Proofs.Parser.Runs

/-! Parser actions that read phrases.  An action parses a phrase if from every place between tokens
it finds what the phrase's reading finds and puts the phrase's nodes into the open node; where the
reading finds nothing the action fails, and may leave nodes open, but takes nothing back.  Every way
to put actions together parses the phrase put together in the same way. -/

namespace SqlReader

namespace Parser

/-- `q` is `p` with the nodes put into the open node and with the tokens `rest` to come. -/
structure Gains (p : Parser) (nodes : List Tree) (rest : List Token) (q : Parser) : Prop where
  cursor : p.cursor.Reaches rest q.cursor
  log : p.log.Gains nodes q.log

/-- `q` has the tokens of `p`, and what was in its log. -/
structure Keeps (p q : Parser) : Prop where
  tokens : q.cursor.tokens = p.cursor.tokens
  log : p.log.Extends q.log

variable {p q r : Parser} {ms ns : List Tree} {ts rest : List Token}

theorem Keeps.refl (p : Parser) : p.Keeps p := ⟨rfl, .refl _⟩

theorem Keeps.trans (h : p.Keeps q) (h' : q.Keeps r) : p.Keeps r :=
  ⟨h'.tokens.trans h.tokens, h.log.trans h'.log⟩

theorem Gains.keeps (h : p.Gains ns rest q) : p.Keeps q := ⟨h.cursor.tokens, h.log.keeps⟩

theorem Gains.trans (h : p.Gains ms ts q) (h' : q.Gains ns rest r) : p.Gains (ms ++ ns) rest r :=
  ⟨h.cursor.trans h'.cursor, h.log.trans h'.log⟩

end Parser

namespace ParserM

/-- The action finds what the reading finds. -/
def Reads (x : ParserM Bool) (reading : List Token → Option Phrase.Match) : Prop :=
  ∀ p : Parser, p.cursor.BetweenTokens →
    match reading p.cursor.rest with
    | some m => ∃ q, x.Runs p true q ∧ p.Gains m.nodes m.rest q
    | none => ∃ q, x.Runs p false q ∧ p.Keeps q

/-- The action finds what the reading of the phrase finds. -/
def Parses (x : ParserM Bool) (a : Phrase) : Prop := x.Reads a.read

variable {x y : ParserM Bool} {a b : Phrase} {p q r : Parser}
  {reading : List Token → Option Phrase.Match}

theorem Reads.found (h : x.Reads reading) (hp : p.cursor.BetweenTokens) {m : Phrase.Match}
    (hm : reading p.cursor.rest = some m) : ∃ q, x.Runs p true q ∧ p.Gains m.nodes m.rest q := by
  have hRun := h p hp
  rw [hm] at hRun
  exact hRun

theorem Reads.missed (h : x.Reads reading) (hp : p.cursor.BetweenTokens)
    (hNone : reading p.cursor.rest = none) : ∃ q, x.Runs p false q ∧ p.Keeps q := by
  have hRun := h p hp
  rw [hNone] at hRun
  exact hRun

theorem runs_terminal_true {text : String} {t : Token} {ts : List Token}
    (hRest : p.cursor.rest = t :: ts) (ht : (TokenClass.terminal text).has t = true) :
    ∃ q, (terminal text).Runs p true q ∧ p.Gains [] ts q := by
  have hPeek : p.cursor.peekAny [text] = true := by simp [Cursor.peekAny_cons hRest, ht]
  exact ⟨_, runs_terminalAny_true hPeek, Cursor.reaches_advance hRest, .refl _⟩

theorem runs_terminal_false {text : String}
    (h : ∀ t ∈ p.cursor.rest.head?, (TokenClass.terminal text).has t = false) :
    (terminal text).Runs p false p := by
  refine runs_terminalAny_false ?_
  cases hRest : p.cursor.rest with
  | nil => exact Cursor.peekAny_nil hRest _
  | cons t ts =>
    rw [hRest] at h
    simp [Cursor.peekAny_cons hRest, h t rfl]

theorem parses_terminal (text : String) : (terminal text).Parses (.mark text) := by
  intro p hp
  cases hRest : p.cursor.rest with
  | nil => exact ⟨p, runs_terminal_false (by simp [hRest]), .refl p⟩
  | cons t ts =>
    simp only [Phrase.mark, Phrase.read]
    by_cases ht : (TokenClass.terminal text).has t = true
    · rw [if_pos ht]
      exact runs_terminal_true hRest ht
    · rw [if_neg ht]
      exact ⟨p, runs_terminal_false (by simp [hRest, ht]), .refl p⟩

theorem Parses.seq (hx : x.Parses a) (hy : y.Parses b) : (x <&&> y).Parses (.seq a b) := by
  intro p hp
  cases hm : a.read p.cursor.rest with
  | none =>
    obtain ⟨q, hRun, hKeeps⟩ := hx.missed hp hm
    simp only [Phrase.read, hm]
    exact ⟨q, hRun.and_false, hKeeps⟩
  | some m =>
    obtain ⟨q, hRun, hGains⟩ := hx.found hp hm
    have hq := hGains.cursor.betweenTokens
    have hRest := hGains.cursor.rest
    cases hn : b.read m.rest with
    | none =>
      obtain ⟨r, hRun', hKeeps⟩ := hy.missed hq (hRest ▸ hn)
      simp only [Phrase.read, hm, Option.bind_eq_bind, Option.bind_some, hn]
      exact ⟨r, hRun.and_true hRun', hGains.keeps.trans hKeeps⟩
    | some n =>
      obtain ⟨r, hRun', hGains'⟩ := hy.found hq (hRest ▸ hn)
      simp only [Phrase.read, hm, Option.bind_eq_bind, Option.bind_some, hn]
      exact ⟨r, hRun.and_true hRun', hGains.trans hGains'⟩

theorem Parses.node (hx : x.Parses a) (kind : NodeKind) :
    (within kind x).Parses (a.node kind) := by
  intro p hp
  let opened : Parser := { p with log := p.log.enter (.leaf kind "") }
  have hEnter : (enter (.leaf kind "")).Runs p () opened := runs_enter _ p
  have hKeeps : p.Keeps opened := ⟨rfl, EditLog.extends_push _ _ _⟩
  cases hm : a.read p.cursor.rest with
  | none =>
    obtain ⟨q, hRun, hKeeps'⟩ := hx.missed (p := opened) hp hm
    simp only [Phrase.read, hm]
    exact ⟨q, hEnter.bind (hRun.bind (runs_pure false q)), hKeeps.trans hKeeps'⟩
  | some m =>
    obtain ⟨q, hRun, hGains⟩ := hx.found (p := opened) hp hm
    obtain ⟨log, hExit, hLog⟩ := EditLog.gains_node hGains.log
    simp only [Phrase.read, hm]
    refine ⟨{ q with log }, hEnter.bind (hRun.bind ?_), ⟨hGains.cursor, hLog⟩⟩
    exact (runs_onLog hExit).bind (runs_pure true _)

theorem runs_restore (h : p.Keeps q) :
    (restore ⟨p.cursor.place, p.log.mark⟩).Runs q () p := by
  have hCursor : ({ q.cursor with place := p.cursor.place } : Cursor) = p.cursor := by
    dsimp only
    rw [h.tokens]
  refine (runs_onCursor _ q).bind ?_
  dsimp only
  rw [hCursor]
  exact runs_onLog (p := ⟨p.cursor, q.log⟩) h.log.rollback

theorem eitherFrom_matched {start : Checkpoint} {index : Nat} {others : List (ParserM Bool)}
    (h : x.Runs p true q) : (eitherFrom start index (x :: others)).Runs p true q :=
  h.bind ((runs_look _ q).bind ((runs_note _ q).bind (runs_pure true q)))

theorem eitherFrom_failed {index : Nat} {others : List (ParserM Bool)} {answer : Bool}
    (h : x.Runs p false q) (hKeeps : p.Keeps q)
    (hOthers : (eitherFrom ⟨p.cursor.place, p.log.mark⟩ (index + 1) others).Runs p answer r) :
    (eitherFrom ⟨p.cursor.place, p.log.mark⟩ index (x :: others)).Runs p answer r :=
  h.bind ((runs_look _ q).bind ((runs_note _ q).bind ((runs_restore hKeeps).bind hOthers)))

theorem runs_either {answer : Bool}
    (h : (eitherFrom ⟨p.cursor.place, p.log.mark⟩ 0 [x, y]).Runs p answer r) :
    (either [x, y]).Runs p answer r :=
  (runs_look _ p).bind h

theorem Parses.either_missed (hx : x.Parses a) (hy : y.Parses b) (hp : p.cursor.BetweenTokens)
    (hNone : (Phrase.alt a b).read p.cursor.rest = none) : (either [x, y]).Runs p false p := by
  rw [Phrase.read, Option.orElse_eq_orElse, Option.orElse_eq_or] at hNone
  obtain ⟨hLeft, hRight⟩ := Option.or_eq_none_iff.mp hNone
  obtain ⟨q, hRun, hKeeps⟩ := hx.missed hp hLeft
  obtain ⟨r, hRun', hKeeps'⟩ := hy.missed hp hRight
  exact runs_either (eitherFrom_failed hRun hKeeps
    (eitherFrom_failed hRun' hKeeps' (runs_pure false p)))

/-- A choice between two takes the first that is found. -/
theorem Parses.alt (hx : x.Parses a) (hy : y.Parses b) :
    (either [x, y]).Parses (.alt a b) := by
  intro p hp
  cases hm : a.read p.cursor.rest with
  | some m =>
    obtain ⟨q, hRun, hGains⟩ := hx.found hp hm
    simp only [Phrase.read, hm]
    exact ⟨q, runs_either (eitherFrom_matched hRun), hGains⟩
  | none =>
    cases hn : b.read p.cursor.rest with
    | some n =>
      obtain ⟨q, hRun, hKeeps⟩ := hx.missed hp hm
      obtain ⟨r, hRun', hGains⟩ := hy.found hp hn
      simp only [Phrase.read, hm, hn]
      exact ⟨r, runs_either (eitherFrom_failed hRun hKeeps (eitherFrom_matched hRun')), hGains⟩
    | none =>
      have hNone : (Phrase.alt a b).read p.cursor.rest = none := by simp [Phrase.read, hm, hn]
      rw [hNone]
      exact ⟨p, hx.either_missed hy hp hNone, .refl p⟩

theorem Parses.optional (hx : x.Parses a) (text : String) :
    ParserM.Parses (do if ← terminal text then x else return true)
      (.optional (.seq (.mark text) a)) := by
  intro p hp
  have hFirst : (Phrase.seq (.mark text) a).first = (TokenClass.terminal text).has := by
    funext t
    simp [Phrase.first, Phrase.mark, Phrase.nullable]
  cases hHead : p.cursor.rest.head?.any (TokenClass.terminal text).has with
  | false =>
    have hNone := (Option.any_eq_false _ _).mp hHead
    simp only [Phrase.read, hFirst, hHead]
    exact ⟨p, (runs_terminal_false hNone).bind (runs_pure true p), hp, .refl _⟩
  | true =>
    obtain ⟨t, hSome, ht⟩ := (Option.any_eq_true _ _).mp hHead
    obtain ⟨ts, hRest⟩ := List.head?_eq_some_iff.mp hSome
    obtain ⟨q, hMark, hGains⟩ := runs_terminal_true hRest ht
    have hq := hGains.cursor.betweenTokens
    simp only [Phrase.read, hFirst, hHead]
    cases hm : a.read ts with
    | some m =>
      obtain ⟨r, hRun, hGains'⟩ := hx.found hq (hGains.cursor.rest ▸ hm)
      simp only [Phrase.read, Phrase.mark, hRest, ht, hm, if_true, Option.bind_eq_bind,
        Option.bind_some]
      exact ⟨r, hMark.bind hRun, hGains.trans hGains'⟩
    | none =>
      obtain ⟨r, hRun, hKeeps⟩ := hx.missed hq (hGains.cursor.rest ▸ hm)
      simp only [Phrase.read, Phrase.mark, hRest, ht, hm, if_true, Option.bind_eq_bind,
        Option.bind_some]
      exact ⟨r, hMark.bind hRun, hGains.keeps.trans hKeeps⟩

theorem commaItems_succ (x : ParserM Bool) (bound : Nat) :
    commaItems x (bound + 1) =
      (do if ← terminal "," then x <&&> commaItems x bound else return true) := by
  have hAnd : (do if ← x then commaItems x bound else return false) =
      (x <&&> commaItems x bound) := by
    refine bind_congr fun answer => ?_
    cases answer <;> rfl
  rw [commaItems, hAnd]

theorem Parses.items (hx : x.Parses a) (bound : Nat) :
    (x <&&> commaItems x bound).Reads (Phrase.readList a.read bound) := by
  induction bound with
  | zero =>
    intro p hp
    cases hm : a.read p.cursor.rest with
    | none =>
      obtain ⟨q, hRun, hKeeps⟩ := hx.missed hp hm
      simp only [Phrase.readList, hm]
      exact ⟨q, hRun.and_false, hKeeps⟩
    | some m =>
      obtain ⟨q, hRun, hGains⟩ := hx.found hp hm
      simp only [Phrase.readList, hm]
      exact ⟨q, hRun.and_true (runs_pure true q), hGains⟩
  | succ bound ih =>
    intro p hp
    cases hm : a.read p.cursor.rest with
    | none =>
      obtain ⟨q, hRun, hKeeps⟩ := hx.missed hp hm
      simp only [Phrase.readList, hm, Option.bind_eq_bind, Option.bind_none]
      exact ⟨q, hRun.and_false, hKeeps⟩
    | some m =>
      obtain ⟨q, hRun, hGains⟩ := hx.found hp hm
      have hq := hGains.cursor.betweenTokens
      have hRest := hGains.cursor.rest
      rw [commaItems_succ]
      simp only [Phrase.readList, hm, Option.bind_eq_bind, Option.bind_some]
      cases hNext : m.rest with
      | nil =>
        have hEnd : (terminal ",").Runs q false q :=
          runs_terminal_false (by simp [hRest, hNext])
        exact ⟨q, hRun.and_true (hEnd.bind (runs_pure true q)), hNext ▸ hGains⟩
      | cons t ts =>
        by_cases hComma : Phrase.comma.has t = true
        · obtain ⟨r, hMark, hGains'⟩ := runs_terminal_true (hRest.trans hNext) hComma
          have hr := hGains'.cursor.betweenTokens
          simp only [hComma, if_true]
          cases hMore : Phrase.readList a.read bound ts with
          | none =>
            obtain ⟨s, hRun', hKeeps⟩ := ih.missed hr (hGains'.cursor.rest ▸ hMore)
            exact ⟨s, hRun.and_true (hMark.bind hRun'),
              hGains.keeps.trans (hGains'.keeps.trans hKeeps)⟩
          | some n =>
            obtain ⟨s, hRun', hGains''⟩ := ih.found hr (hGains'.cursor.rest ▸ hMore)
            exact ⟨s, hRun.and_true (hMark.bind hRun'), hGains.trans (hGains'.trans hGains'')⟩
        · have hEnd : (terminal ",").Runs q false q := by
            refine runs_terminal_false fun u hu => ?_
            rw [hRest, hNext] at hu
            cases hu
            exact Bool.eq_false_iff.mpr hComma
          simp only [hComma]
          exact ⟨q, hRun.and_true (hEnd.bind (runs_pure true q)), hNext ▸ hGains⟩

/-- The bound of the items is never met. -/
theorem Parses.list (hx : x.Parses a) : (separated x).Parses (.list a) := by
  intro p hp
  have hRun := hx.items p.cursor.tokensLeft p hp
  rw [← Cursor.length_rest] at hRun
  rw [Phrase.read]
  have hLook {answer : Bool} {q : Parser}
      (h : (x <&&> commaItems x p.cursor.rest.length).Runs p answer q) :
      (separated x).Runs p answer q := by
    rw [Cursor.length_rest] at h
    exact (runs_look (fun p => p.cursor.tokensLeft) p).bind h
  cases hm : Phrase.readList a.read p.cursor.rest.length p.cursor.rest with
  | none =>
    rw [hm] at hRun
    obtain ⟨q, hRun, hKeeps⟩ := hRun
    exact ⟨q, hLook hRun, hKeeps⟩
  | some m =>
    rw [hm] at hRun
    obtain ⟨q, hRun, hGains⟩ := hRun
    exact ⟨q, hLook hRun, hGains⟩

end ParserM

end SqlReader
