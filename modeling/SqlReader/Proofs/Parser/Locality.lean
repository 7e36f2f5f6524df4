import SqlReader.Proofs.Parser.Composition

/-! Locality: an action that runs over the tokens to come alone, with an empty log, runs in the same
way among other tokens and after other edits. -/

namespace SqlReader

/-- The edits of the second log after those of the first, and the nodes open in both. -/
def EditLog.append (base log : EditLog) : EditLog :=
  ⟨base.edits ++ log.edits, base.depth + log.depth⟩

namespace EditLog

variable {base log next : EditLog}

theorem append_empty (base : EditLog) : base.append empty = base := by
  simp [append, empty]

theorem append_add (base log : EditLog) (tree : Tree) :
    (base.append log).add tree = base.append (log.add tree) := by
  simp [append, add]

theorem append_enter (base log : EditLog) (tree : Tree) :
    (base.append log).enter tree = base.append (log.enter tree) := by
  simp [append, enter, Nat.add_assoc]

/-- A node that the later edits have opened can be closed after earlier ones as well. -/
theorem append_exit (h : log.exit = .ok next) :
    (base.append log).exit = .ok (base.append next) := by
  unfold exit at h ⊢
  split at h
  · cases h
  · rename_i hOpen
    cases h
    have hDepth : ¬(base.append log).depth = 0 := fun h => hOpen (Nat.add_eq_zero_iff.mp h).2
    have hClosed : (base.append log).depth - 1 = base.depth + (log.depth - 1) := by
      show base.depth + log.depth - 1 = _
      omega
    rw [if_neg hDepth, hClosed]
    simp [append]

theorem append_rollback {old : EditLog} (h : log.rollback old.mark = .ok next) :
    (base.append log).rollback (base.append old).mark = .ok (base.append next) := by
  unfold rollback at h ⊢
  split at h
  · rename_i hLe
    cases h
    have hSize : (base.append old).mark.length ≤ (base.append log).edits.size := by
      simpa [append, mark] using hLe
    have hBase : base.edits.extract 0 (base.edits.size + old.edits.size) = base.edits :=
      Array.extract_eq_self_of_le (Nat.le_add_right _ _)
    rw [if_pos hSize]
    simp [append, mark, hBase]
  · cases h

end EditLog

namespace Parser

/-- `p` with the tokens taken and the edits made that `q` has taken and made over the tokens that
`p` has to come. -/
def resume (p q : Parser) : Parser := ⟨p.cursor.resume q.cursor, p.log.append q.log⟩

/-- A parser over the tokens to come, with an empty log. -/
def alone (p : Parser) : Parser := ⟨p.cursor.alone, .empty⟩

theorem resume_alone (p : Parser) : p.resume p.alone = p := by
  rw [resume, alone, p.cursor.resume_alone, p.log.append_empty]

end Parser

namespace ParserM

/-- What the action does over the tokens that a parser has to come, it does from that parser. -/
def Local {α : Type} (x : ParserM α) : Prop :=
  ∀ p q : Parser, p.cursor.Covers q.cursor → ∀ a r, x.Runs q a r →
    p.cursor.Covers r.cursor ∧ x.Runs (p.resume q) a (p.resume r)

variable {α β : Type} {x y item : ParserM Bool}

/-! ### Steps -/

theorem local_pure (a : α) : Local (pure a : ParserM α) := by
  intro p q h b r hRun
  obtain ⟨rfl, rfl⟩ := runs_pure_iff.mp hRun
  exact ⟨h, runs_pure b _⟩

theorem Local.bind {x : ParserM α} {f : α → ParserM β} (hx : Local x) (hf : ∀ a, Local (f a)) :
    Local (x >>= f) := by
  intro p q h b s hRun
  obtain ⟨a, r, hRunX, hRunF⟩ := runs_bind_iff.mp hRun
  obtain ⟨hCovers, hX⟩ := hx p q h a r hRunX
  obtain ⟨hCovers', hF⟩ := hf a p r hCovers b s hRunF
  exact ⟨hCovers', hX.bind hF⟩

theorem local_look {f : Parser → α}
    (hf : ∀ p q : Parser, p.cursor.Covers q.cursor → f (p.resume q) = f q) : Local (look f) := by
  intro p q h a r hRun
  obtain ⟨rfl, rfl⟩ := hRun.unique (runs_look f q)
  exact ⟨h, hf p _ h ▸ runs_look f _⟩

theorem local_note (event : Event) : Local (note event) := by
  intro p q h a r hRun
  obtain ⟨rfl, rfl⟩ := hRun.unique (runs_note event q)
  exact ⟨h, runs_note event _⟩

theorem local_onCursor {f : Cursor → α × Cursor} (hf : Cursor.Local f) : Local (onCursor f) := by
  intro p q h a r hRun
  obtain ⟨rfl, rfl⟩ := hRun.unique (runs_onCursor f q)
  obtain ⟨hCovers, hSame⟩ := hf p.cursor q.cursor h
  have hStep := runs_onCursor f (p.resume q)
  rw [show (p.resume q).cursor = p.cursor.resume q.cursor from rfl, hSame] at hStep
  exact ⟨hCovers, hStep⟩

theorem local_onLog {f : EditLog → Except Violation EditLog}
    (hf : ∀ base log next : EditLog, f log = .ok next → f (base.append log) =
      .ok (base.append next)) : Local (onLog f) := by
  intro p q h a r hRun
  obtain ⟨log, hLog, rfl⟩ := runs_onLog_iff.mp hRun
  exact ⟨h, runs_onLog (hf p.log q.log log hLog)⟩

theorem local_current : Local current := local_look fun _ _ h => h.current

theorem local_terminal (text : String) : Local (terminal text) :=
  local_onCursor (Cursor.local_terminalAny [text])

theorem local_add (tree : Tree) : Local (add tree) := by
  refine local_onLog fun base log next h => ?_
  cases h
  rw [EditLog.append_add]

theorem local_enter (tree : Tree) : Local (enter tree) := by
  refine local_onLog fun base log next h => ?_
  cases h
  rw [EditLog.append_enter]

theorem local_exit : Local exit := local_onLog fun _ _ _ => EditLog.append_exit

/-! ### Actions put together -/

theorem Local.and (hx : Local x) (hy : Local y) : Local (x <&&> y) := by
  refine hx.bind fun found => ?_
  cases found with
  | false => exact local_pure false
  | true => exact hy

theorem Local.ite {condition : Prop} [Decidable condition] (hx : Local x) (hy : Local y) :
    Local (if condition then x else y) := by
  split
  · exact hx
  · exact hy

theorem Local.within (hx : Local x) (kind : NodeKind) : Local (within kind x) :=
  (local_enter _).bind fun _ => hx.bind fun _ =>
    (local_exit.bind fun _ => local_pure true).ite (local_pure false)

theorem Local.ifTerminal (hx : Local x) (hy : Local y) (text : String) :
    Local (do if ← terminal text then x else y) :=
  (local_terminal text).bind fun _ => hx.ite hy

theorem local_tokensLeft : Local (look (·.cursor.tokensLeft)) :=
  local_look fun _ _ h => h.tokensLeft

variable {alternatives : List (ParserM Bool)}

/-- Going back to where a choice has begun is going back there over the tokens to come. -/
theorem restore_resume {p q r s : Parser} (h : p.cursor.Covers r.cursor)
    (hRun : (restore (start q)).Runs r () s) :
    p.cursor.Covers s.cursor ∧
      (restore (start (p.resume q))).Runs (p.resume r) () (p.resume s) := by
  obtain ⟨_, back, hPlace, hLog⟩ := runs_bind_iff.mp hRun
  obtain ⟨-, rfl⟩ := hPlace.unique (runs_onCursor _ r)
  obtain ⟨log, hBack, rfl⟩ := runs_onLog_iff.mp hLog
  exact ⟨h, (runs_onCursor _ _).bind (runs_onLog (EditLog.append_rollback hBack))⟩

theorem eitherFrom_local (h : ∀ x ∈ alternatives, Local x) {p q r s : Parser} {index : Nat}
    {answer : Bool} (hCovers : p.cursor.Covers r.cursor)
    (hRun : (eitherFrom (start q) index alternatives).Runs r answer s) :
    p.cursor.Covers s.cursor ∧
      (eitherFrom (start (p.resume q)) index alternatives).Runs (p.resume r) answer
        (p.resume s) := by
  -- The choice has begun at `q`, and the alternatives before have left the parser at `r`.
  induction alternatives generalizing index r with
  | nil => exact local_pure false p r hCovers answer s hRun
  | cons x others ih =>
    obtain ⟨hx, hOthers⟩ := List.forall_mem_cons.mp h
    obtain ⟨found, next, hFound, hRest⟩ := runs_bind_iff.mp hRun
    obtain ⟨hNext, hResumed⟩ := hx p r hCovers found next hFound
    cases found with
    | true =>
      have hNote : Local (do
          note (.matched index (← current))
          return true) :=
        local_current.bind fun _ => (local_note _).bind fun _ => local_pure true
      obtain ⟨hLast, hSame⟩ := hNote p next hNext answer s hRest
      exact ⟨hLast, hResumed.bind hSame⟩
    | false =>
      have hNote := (runs_look (·.cursor.current) next).bind_iff.mp hRest
      obtain ⟨_, back, hRestore, hMore⟩ := runs_bind_iff.mp ((runs_note _ next).bind_iff.mp hNote)
      obtain ⟨hBack, hRestored⟩ := restore_resume hNext hRestore
      obtain ⟨hLast, hSame⟩ := ih hOthers hBack hMore
      exact ⟨hLast, hResumed.bind ((runs_look _ _).bind ((runs_note _ _).bind
        (hRestored.bind hSame)))⟩

theorem local_either (h : ∀ x ∈ alternatives, Local x) : Local (either alternatives) := by
  intro p q hCovers answer r hRun
  have hFrom := (runs_look (fun p : Parser => start p) q).bind_iff.mp hRun
  obtain ⟨hCovers', hSame⟩ := eitherFrom_local h hCovers hFrom
  exact ⟨hCovers', (runs_look (fun p : Parser => start p) (p.resume q)).bind hSame⟩

theorem Plain.local {x : ParserM α} (hPlain : Plain x) : Local x := by
  induction hPlain with
  | pure a => exact local_pure a
  | bind _ _ ihx ihf => exact ihx.bind ihf
  | current => exact local_current
  | atTokenStart => exact local_look fun _ _ _ => rfl
  | onCursor hf => exact local_onCursor hf
  | add tree => exact local_add tree

theorem Composed.local (hComposed : Composed x) : Local x := by
  induction hComposed with
  | leaf hPlain => exact hPlain.local
  | and _ _ ihx ihy => exact ihx.and ihy
  | within kind _ ih => exact ih.within kind
  | ifTerminal text _ _ ihx ihy => exact ihx.ifTerminal ihy text
  | either _ ih => exact local_either ih
  | tokensLeft _ ih => exact local_tokensLeft.bind ih

end ParserM

end SqlReader
