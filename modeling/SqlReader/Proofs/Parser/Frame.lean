import SqlReader.Proofs.Cursor.Forward
import SqlReader.Proofs.Parser.Phrases

/-! The frame of an action: as long as it runs, the tokens stay the same, no earlier place is gone
back to, no edit that it has found is taken back, and no node that it has found open is closed.
Every way to put actions together keeps to the frame, and what a success takes adds up. -/

namespace SqlReader

namespace Parser

/-- `q` is in the frame of `p`. -/
structure Frame (p q : Parser) : Prop where
  cursor : p.cursor.Forward q.cursor
  log : p.log.Extends q.log
  depth : p.log.depth ≤ q.log.depth

/-- The parser `q` has at least so many tokens behind it more than `p`, and in the node that is open
at least so many children more.  Unless it is where `p` is, it is at the start of a token. -/
structure Takes (p : Parser) (tokens nodes : Nat) (q : Parser) : Prop where
  trees : ∃ trees, nodes ≤ trees.length ∧ p.log.Gains trees q.log
  position : p.cursor.place.position + tokens ≤ q.cursor.place.position
  start : q.cursor.place = p.cursor.place ∨ q.cursor.place.offset = 0

variable {p q r : Parser} {c : Cursor} {tokens tokens' nodes nodes' : Nat}

theorem Frame.refl (p : Parser) : p.Frame p := ⟨.refl _, .refl _, Nat.le_refl _⟩

theorem Frame.trans (h : p.Frame q) (h' : q.Frame r) : p.Frame r :=
  ⟨h.cursor.trans h'.cursor, h.log.trans h'.log, Nat.le_trans h.depth h'.depth⟩

theorem frame_cursor (h : p.cursor.Forward c) : p.Frame { p with cursor := c } :=
  ⟨h, .refl _, Nat.le_refl _⟩

theorem frame_add (p : Parser) (tree : Tree) : p.Frame { p with log := p.log.add tree } :=
  ⟨.refl _, EditLog.extends_push _ _ _, Nat.le_refl _⟩

theorem frame_enter (p : Parser) (tree : Tree) : p.Frame { p with log := p.log.enter tree } :=
  ⟨.refl _, EditLog.extends_push _ _ _, Nat.le_succ _⟩

/-- Going back to the place of `p` stays in its frame, with whatever edits have come since. -/
theorem Frame.back (h : p.Frame q) : p.Frame { p with log := q.log } :=
  ⟨.refl _, h.log, h.depth⟩

theorem takes_nothing (p : Parser) : p.Takes 0 0 p :=
  ⟨⟨[], Nat.le_refl _, .refl _⟩, Nat.le_refl _, .inl rfl⟩

theorem takes_past (h : p.cursor.Past c) : p.Takes 1 0 { p with cursor := c } :=
  ⟨⟨[], Nat.le_refl _, .refl _⟩, h.position, .inr h.offset⟩

theorem takes_add (p : Parser) (tree : Tree) :
    p.Takes 0 1 { p with log := p.log.add tree } :=
  ⟨⟨[tree], Nat.le_refl _, EditLog.gains_add _ _⟩, Nat.le_refl _, .inl rfl⟩

theorem Takes.trans (h : p.Takes tokens nodes q) (h' : q.Takes tokens' nodes' r) :
    p.Takes (tokens + tokens') (nodes + nodes') r := by
  obtain ⟨trees, hTrees, hGains⟩ := h.trees
  obtain ⟨trees', hTrees', hGains'⟩ := h'.trees
  refine ⟨⟨trees ++ trees', ?_, hGains.trans hGains'⟩, ?_, ?_⟩
  · rw [List.length_append]
    exact Nat.add_le_add hTrees hTrees'
  · have hPosition := h.position
    have hPosition' := h'.position
    omega
  · rcases h'.start with hSame | hStart
    · rw [hSame]
      exact h.start
    · exact .inr hStart

theorem Takes.mono (h : p.Takes tokens nodes q) (hTokens : tokens' ≤ tokens)
    (hNodes : nodes' ≤ nodes) : p.Takes tokens' nodes' q := by
  obtain ⟨trees, hTrees, hGains⟩ := h.trees
  refine ⟨⟨trees, Nat.le_trans hNodes hTrees, hGains⟩, ?_, h.start⟩
  have hPosition := h.position
  omega

theorem Takes.past (h : p.Takes tokens nodes q) (hSome : 0 < tokens) :
    p.cursor.Past q.cursor := by
  have hLess : p.cursor.place.position < q.cursor.place.position := by
    have hPosition := h.position
    omega
  refine ⟨hLess, h.start.resolve_left fun hSame => ?_⟩
  rw [hSame] at hLess
  exact Nat.lt_irrefl _ hLess

end Parser

namespace ParserM

/-- The action runs from `p` to `q`, and every parser that it goes through on the way, from one step
of the cursor or the log to the next, has the property. -/
inductive RunsThrough (P : Parser → Prop) : {α : Type} → ParserM α → Parser → α → Parser → Prop
  | pure {α : Type} (a : α) {p : Parser} (hp : P p) : RunsThrough P (pure a) p a p
  | bind {α β : Type} {x : ParserM α} {f : α → ParserM β} {p q r : Parser} {a : α} {b : β}
      (hx : RunsThrough P x p a q) (hf : RunsThrough P (f a) q b r) :
      RunsThrough P (x >>= f) p b r
  | look {α : Type} (f : Parser → α) {p : Parser} (hp : P p) : RunsThrough P (look f) p (f p) p
  | note (event : Event) {p : Parser} (hp : P p) : RunsThrough P (note event) p () p
  | onCursor {α : Type} (f : Cursor → α × Cursor) {p : Parser} (hp : P p)
      (hq : P { p with cursor := (f p.cursor).2 }) :
      RunsThrough P (onCursor f) p (f p.cursor).1 { p with cursor := (f p.cursor).2 }
  | add (tree : Tree) {p : Parser} (hp : P p) (hq : P { p with log := p.log.add tree }) :
      RunsThrough P (add tree) p () { p with log := p.log.add tree }
  | enter (tree : Tree) {p : Parser} (hp : P p) (hq : P { p with log := p.log.enter tree }) :
      RunsThrough P (enter tree) p () { p with log := p.log.enter tree }
  | exit {p : Parser} {log : EditLog} (h : p.log.exit = .ok log) (hp : P p)
      (hq : P { p with log }) : RunsThrough P exit p () { p with log }
  | rollback (mark : EditLog.Mark) {p : Parser} {log : EditLog}
      (h : p.log.rollback mark = .ok log) (hp : P p) (hq : P { p with log }) :
      RunsThrough P (onLog (·.rollback mark)) p () { p with log }

variable {α β : Type} {P Q : Parser → Prop} {x y item : ParserM Bool} {p q r : Parser}

theorem RunsThrough.runs {x : ParserM α} {a : α} (h : x.RunsThrough P p a q) : x.Runs p a q := by
  induction h with
  | pure a => exact runs_pure a _
  | bind _ _ ihx ihf => exact ihx.bind ihf
  | look f => exact runs_look f _
  | note event => exact runs_note event _
  | onCursor f => exact runs_onCursor f _
  | add tree => exact runs_add tree _
  | enter tree => exact runs_enter tree _
  | exit h | rollback _ h => exact runs_onLog h

theorem RunsThrough.mono {x : ParserM α} {a : α} (h : x.RunsThrough P p a q)
    (hPQ : ∀ r, P r → Q r) : x.RunsThrough Q p a q := by
  induction h with
  | pure a hp => exact .pure a (hPQ _ hp)
  | bind _ _ ihx ihf => exact .bind ihx ihf
  | look f hp => exact .look f (hPQ _ hp)
  | note event hp => exact .note event (hPQ _ hp)
  | onCursor f hp hq => exact .onCursor f (hPQ _ hp) (hPQ _ hq)
  | add tree hp hq => exact .add tree (hPQ _ hp) (hPQ _ hq)
  | enter tree hp hq => exact .enter tree (hPQ _ hp) (hPQ _ hq)
  | exit h hp hq => exact .exit h (hPQ _ hp) (hPQ _ hq)
  | rollback mark h hp hq => exact .rollback mark h (hPQ _ hp) (hPQ _ hq)

theorem RunsThrough.last {x : ParserM α} {a : α} (h : x.RunsThrough P p a q) : P q := by
  induction h with
  | bind _ _ _ ihf => exact ihf
  | pure _ hp | look _ hp | note _ hp => exact hp
  | onCursor _ _ hq | add _ _ hq | enter _ _ hq | exit _ _ hq | rollback _ _ _ hq => exact hq

/-- A run through the frame of a parser in the frame of `p` goes through the frame of `p`. -/
theorem RunsThrough.framed {x : ParserM α} {a : α} (h : x.RunsThrough q.Frame q a r)
    (hFrame : p.Frame q) : x.RunsThrough p.Frame q a r :=
  h.mono fun _ => hFrame.trans

/-- From every parser the action runs through its frame, and where it succeeds it has taken at least
so many tokens and nodes. -/
def Framed (tokens nodes : Nat) (x : ParserM Bool) : Prop :=
  ∀ p, ∃ answer q, x.RunsThrough p.Frame p answer q ∧ (answer = true → p.Takes tokens nodes q)

variable {tokens tokens' nodes nodes' : Nat} {alternatives : List (ParserM Bool)}

theorem Framed.mono (h : Framed tokens nodes x) (hTokens : tokens' ≤ tokens)
    (hNodes : nodes' ≤ nodes) : Framed tokens' nodes' x := by
  intro p
  obtain ⟨answer, q, hRun, hTakes⟩ := h p
  exact ⟨answer, q, hRun, fun hAnswer => (hTakes hAnswer).mono hTokens hNodes⟩

/-! ### Steps -/

theorem framed_true : Framed 0 0 (pure true) := fun p =>
  ⟨true, p, .pure true (.refl p), fun _ => p.takes_nothing⟩

theorem framed_false (tokens nodes : Nat) : Framed tokens nodes (pure false) := fun p =>
  ⟨false, p, .pure false (.refl p), nofun⟩

theorem framed_look {f : Parser → α} {g : α → ParserM Bool}
    (h : ∀ a, Framed tokens nodes (g a)) : Framed tokens nodes (look f >>= g) := by
  intro p
  obtain ⟨answer, q, hRun, hTakes⟩ := h (f p) p
  exact ⟨answer, q, .bind (.look f (.refl p)) hRun, hTakes⟩

theorem framed_atTokenStart (h : Framed tokens nodes x) :
    Framed tokens nodes (do if !(← atTokenStart) then return false else x) := by
  refine framed_look fun start => ?_
  cases start with
  | false => exact framed_false tokens nodes
  | true => exact h

/-- What a step of the cursor skips counts for nothing before an action that takes a token. -/
theorem framed_onCursor {f : Cursor → α × Cursor} {g : α → ParserM Bool}
    (hf : ∀ c : Cursor, c.Forward (f c).2) (hSome : 0 < tokens)
    (hg : ∀ a, Framed tokens nodes (g a)) : Framed tokens nodes (onCursor f >>= g) := by
  intro p
  have hFrame := Parser.frame_cursor (hf p.cursor)
  obtain ⟨answer, q, hRun, hTakes⟩ := hg (f p.cursor).1 { p with cursor := (f p.cursor).2 }
  refine ⟨answer, q, .bind (.onCursor f (.refl p) hFrame) (hRun.framed hFrame), fun hAnswer => ?_⟩
  have hMore := hTakes hAnswer
  refine ⟨hMore.trees, ?_, .inr (hMore.past hSome).offset⟩
  exact Nat.le_trans (Nat.add_le_add_right (hf p.cursor).onward.position _) hMore.position

/-- What has been read becomes a leaf. -/
theorem framed_leaf_after {f : Cursor → Bool × Cursor} (hf : ∀ c : Cursor, c.Forward (f c).2)
    (hPast : ∀ c : Cursor, (f c).1 = true → c.Past (f c).2) (tree : Tree) :
    Framed 1 1 (do if ← onCursor f then do add tree; return true else return false) := by
  intro p
  have hFrame := Parser.frame_cursor (hf p.cursor)
  have hStep := RunsThrough.onCursor f (.refl p) hFrame
  cases hFound : (f p.cursor).1 with
  | false =>
    rw [hFound] at hStep
    exact ⟨false, _, .bind hStep (.pure false hFrame), nofun⟩
  | true =>
    rw [hFound] at hStep
    have hAdd := Parser.frame_add { p with cursor := (f p.cursor).2 } tree
    exact ⟨true, _, .bind hStep (.bind (.add tree hFrame (hFrame.trans hAdd))
      (.pure true (hFrame.trans hAdd))), fun _ =>
        (Parser.takes_past (hPast p.cursor hFound)).trans (Parser.takes_add _ tree)⟩

/-- A token that is taken by its text, or nothing. -/
theorem terminal_cases (text : String) (p : Parser) :
    (∃ c, p.cursor.Past c ∧ (terminal text).RunsThrough p.Frame p true { p with cursor := c }) ∨
      (terminal text).RunsThrough p.Frame p false p := by
  have hFrame := Parser.frame_cursor (p.cursor.forward_terminalAny [text])
  have hStep : (terminal text).RunsThrough p.Frame p (p.cursor.terminalAny [text]).1
      { p with cursor := (p.cursor.terminalAny [text]).2 } :=
    .onCursor (·.terminalAny [text]) (.refl p) hFrame
  rw [Cursor.terminalAny] at hStep
  split at hStep
  · rename_i hPeek
    exact .inl ⟨_, Cursor.past_advance_of_peekAny hPeek, hStep⟩
  · exact .inr hStep

theorem framed_terminal (text : String) : Framed 1 0 (terminal text) := by
  intro p
  rcases terminal_cases text p with ⟨c, hPast, hRun⟩ | hRun
  · exact ⟨true, _, hRun, fun _ => Parser.takes_past hPast⟩
  · exact ⟨false, p, hRun, nofun⟩

theorem framed_ifTerminal (text : String) (hx : Framed tokens nodes x)
    (hy : Framed tokens nodes y) :
    Framed tokens nodes (do if ← terminal text then x else y) := by
  intro p
  rcases terminal_cases text p with ⟨c, hPast, hStep⟩ | hStep
  · have hFrame := hStep.last
    obtain ⟨answer, q, hRun, hTakes⟩ := hx { p with cursor := c }
    refine ⟨answer, q, .bind hStep (hRun.framed hFrame), fun hAnswer => ?_⟩
    exact ((Parser.takes_past hPast).trans (hTakes hAnswer)).mono (Nat.le_add_left _ _)
      (Nat.le_add_left _ _)
  · obtain ⟨answer, q, hRun, hTakes⟩ := hy p
    exact ⟨answer, q, .bind hStep hRun, hTakes⟩

/-! ### Actions put together -/

theorem Framed.and (hx : Framed tokens nodes x) (hy : Framed tokens' nodes' y) :
    Framed (tokens + tokens') (nodes + nodes') (x <&&> y) := by
  intro p
  obtain ⟨found, q, hRun, hTakes⟩ := hx p
  cases found with
  | false => exact ⟨false, q, .bind hRun (.pure false hRun.last), nofun⟩
  | true =>
    obtain ⟨answer, r, hRun', hTakes'⟩ := hy q
    exact ⟨answer, r, .bind hRun (hRun'.framed hRun.last),
      fun hAnswer => (hTakes rfl).trans (hTakes' hAnswer)⟩

/-- The children of the node that is opened make one node. -/
theorem Framed.within (hx : Framed tokens nodes x) (kind : NodeKind) :
    Framed tokens 1 (within kind x) := by
  intro p
  have hOpened := p.frame_enter (.leaf kind "")
  have hEnter := RunsThrough.enter (.leaf kind "") (.refl p) hOpened
  obtain ⟨answer, q, hRun, hTakes⟩ := hx { p with log := p.log.enter (.leaf kind "") }
  have hBody := hRun.framed hOpened
  cases answer with
  | false => exact ⟨false, q, .bind hEnter (.bind hBody (.pure false hBody.last)), nofun⟩
  | true =>
    -- The body has closed what it has opened, so the node to close now is the one opened here.
    obtain ⟨trees, -, hGains⟩ := (hTakes rfl).trees
    obtain ⟨log, hExit, hNode⟩ := EditLog.gains_node hGains
    have hClosed : p.Frame { q with log } :=
      ⟨hBody.last.cursor, hNode.keeps, Nat.le_of_eq hNode.depth.symm⟩
    exact ⟨true, _, .bind hEnter (.bind hBody (.bind (.exit hExit hBody.last hClosed)
      (.pure true hClosed))), fun _ => ⟨⟨_, Nat.le_refl _, hNode⟩, (hTakes rfl).position,
        (hTakes rfl).start⟩⟩

theorem runsThrough_restore (h : p.Frame q) :
    (restore ⟨p.cursor.place, p.log.mark⟩).RunsThrough p.Frame q () p := by
  have hCursor : ({ q.cursor with place := p.cursor.place } : Cursor) = p.cursor := by
    dsimp only
    rw [h.cursor.tokens]
  have hPlace : (onCursor fun c => ((), { c with place := p.cursor.place })).RunsThrough p.Frame
      q () { p with log := q.log } := by
    have hStep := RunsThrough.onCursor (fun c => ((), { c with place := p.cursor.place })) h
    dsimp only at hStep
    rw [hCursor] at hStep
    exact hStep h.back
  exact .bind hPlace (.rollback p.log.mark h.log.rollback h.back (.refl p))

/-- A choice goes through the alternatives up to the first that succeeds, and each time that one
fails it is back where it began.  So it leaves the parser unchanged where all of them fail. -/
theorem eitherFrom_framed (h : ∀ x ∈ alternatives, Framed tokens nodes x) (p : Parser)
    (index : Nat) :
    ∃ answer q, (eitherFrom ⟨p.cursor.place, p.log.mark⟩ index alternatives).RunsThrough p.Frame
        p answer q ∧
      (answer = true → p.Takes tokens nodes q) ∧ (answer = false → q = p) := by
  -- The next alternative starts at `p` again, so only the number of the alternative changes.
  induction alternatives generalizing index with
  | nil => exact ⟨false, p, .pure false (.refl p), nofun, fun _ => rfl⟩
  | cons x others ih =>
    obtain ⟨hx, hOthers⟩ := List.forall_mem_cons.mp h
    obtain ⟨found, q, hRun, hTakes⟩ := hx p
    have hFrame := hRun.last
    cases found with
    | true =>
      exact ⟨true, q, .bind hRun (.bind (.look _ hFrame) (.bind (.note _ hFrame)
        (.pure true hFrame))), fun _ => hTakes rfl, nofun⟩
    | false =>
      obtain ⟨answer, r, hMore, hAfter⟩ := ih hOthers (index + 1)
      exact ⟨answer, r, .bind hRun (.bind (.look _ hFrame) (.bind (.note _ hFrame)
        (.bind (runsThrough_restore hFrame) hMore))), hAfter⟩

theorem either_framed (h : ∀ x ∈ alternatives, Framed tokens nodes x) (p : Parser) :
    ∃ answer q, (either alternatives).RunsThrough p.Frame p answer q ∧
      (answer = true → p.Takes tokens nodes q) ∧ (answer = false → q = p) := by
  obtain ⟨answer, q, hRun, hAfter⟩ := eitherFrom_framed h p 0
  exact ⟨answer, q, .bind (.look _ (.refl p)) hRun, hAfter⟩

theorem framed_either (h : ∀ x ∈ alternatives, Framed tokens nodes x) :
    Framed tokens nodes (either alternatives) := by
  intro p
  obtain ⟨answer, q, hRun, hTakes, -⟩ := either_framed h p
  exact ⟨answer, q, hRun, hTakes⟩

/-! ### Lists -/

/-- The items after the first count for nothing: there may be none. -/
theorem Framed.commaItems (hItem : Framed tokens nodes item) (bound : Nat) :
    Framed 0 0 (commaItems item bound) := by
  induction bound with
  | zero => exact framed_true
  | succ bound ih =>
    rw [commaItems_succ]
    have hMore : Framed 0 0 (item <&&> ParserM.commaItems item bound) :=
      (hItem.and ih).mono (Nat.zero_le _) (Nat.zero_le _)
    exact framed_ifTerminal "," hMore framed_true

theorem Framed.separated (hItem : Framed tokens nodes item) :
    Framed tokens nodes (separated item) :=
  framed_look fun _ => hItem.and (hItem.commaItems _)

end ParserM

end SqlReader
