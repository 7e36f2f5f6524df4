import SqlReader.ParserM

/-! Runs of parser actions: what an action answers and which parser it leaves, with the events on
the way left out. -/

namespace SqlReader.ParserM

variable {α β : Type} {x : ParserM α} {f : α → ParserM β} {p q r : Parser} {a : α} {b : β}

/-- From `p` the action answers `a` and leaves `q`. -/
def Runs (x : ParserM α) (p : Parser) (a : α) (q : Parser) : Prop :=
  ∃ events, x p = .ok ⟨a, q, events⟩

theorem runs_pure (a : α) (p : Parser) : (pure a : ParserM α).Runs p a p := ⟨[], rfl⟩

theorem runs_look (f : Parser → α) (p : Parser) : (look f).Runs p (f p) p := ⟨[], rfl⟩

theorem runs_note (event : Event) (p : Parser) : (note event).Runs p () p := ⟨[event], rfl⟩

theorem runs_onCursor (f : Cursor → α × Cursor) (p : Parser) :
    (onCursor f).Runs p (f p.cursor).1 { p with cursor := (f p.cursor).2 } := ⟨[], rfl⟩

theorem runs_onLog {f : EditLog → Except Violation EditLog} {log : EditLog}
    (h : f p.log = .ok log) : (onLog f).Runs p () { p with log } :=
  ⟨[], by simp [onLog, h]⟩

theorem runs_add (tree : Tree) (p : Parser) :
    (add tree).Runs p () { p with log := p.log.add tree } :=
  runs_onLog rfl

theorem runs_enter (tree : Tree) (p : Parser) :
    (enter tree).Runs p () { p with log := p.log.enter tree } :=
  runs_onLog rfl

theorem runs_terminalAny_true {texts : List String} (h : p.cursor.peekAny texts = true) :
    (terminalAny texts).Runs p true { p with cursor := p.cursor.advance } := by
  have hRun := runs_onCursor (·.terminalAny texts) p
  simp only [Cursor.terminalAny, h] at hRun
  exact hRun

theorem runs_terminalAny_false {texts : List String} (h : p.cursor.peekAny texts = false) :
    (terminalAny texts).Runs p false p := by
  have hRun := runs_onCursor (·.terminalAny texts) p
  simp only [Cursor.terminalAny, h] at hRun
  exact hRun

theorem Runs.bind (hx : x.Runs p a q) (hf : (f a).Runs q b r) : (x >>= f).Runs p b r := by
  obtain ⟨events, hx⟩ := hx
  obtain ⟨events', hf⟩ := hf
  exact ⟨events ++ events', by simp [bind_apply, hx, hf]⟩

/-- An action leaves one parser with one answer. -/
theorem Runs.unique {a' : α} {q' : Parser} (h : x.Runs p a q) (h' : x.Runs p a' q') :
    a = a' ∧ q = q' := by
  obtain ⟨events, h⟩ := h
  obtain ⟨events', h'⟩ := h'
  rw [h] at h'
  cases h'
  exact ⟨rfl, rfl⟩

theorem runs_pure_iff {a' : α} : (pure a : ParserM α).Runs p a' q ↔ a' = a ∧ q = p := by
  constructor
  · intro h
    exact h.unique (runs_pure a p)
  · rintro ⟨rfl, rfl⟩
    exact runs_pure a' q

/-- A run of two actions in a row goes through what the first one leaves. -/
theorem runs_bind_iff : (x >>= f).Runs p b r ↔ ∃ a q, x.Runs p a q ∧ (f a).Runs q b r := by
  constructor
  · rintro ⟨events, h⟩
    rw [bind_apply] at h
    split at h
    · cases h
    · rename_i first hx
      split at h
      · cases h
      · rename_i second hf
        cases h
        exact ⟨first.answer, first.parser, ⟨_, hx⟩, ⟨_, hf⟩⟩
  · rintro ⟨a, q, hx, hf⟩
    exact hx.bind hf

theorem runs_onLog_iff {f : EditLog → Except Violation EditLog} {u : Unit} :
    (onLog f).Runs p u q ↔ ∃ log, f p.log = .ok log ∧ q = { p with log } := by
  constructor
  · rintro ⟨events, h⟩
    unfold onLog at h
    split at h
    · cases h
    · rename_i log hLog
      cases h
      exact ⟨log, hLog, rfl⟩
  · rintro ⟨log, hLog, rfl⟩
    exact runs_onLog hLog

theorem Runs.bind_iff (hx : x.Runs p a q) : (x >>= f).Runs p b r ↔ (f a).Runs q b r := by
  rw [runs_bind_iff]
  constructor
  · rintro ⟨a', q', hx', hf⟩
    obtain ⟨rfl, rfl⟩ := hx.unique hx'
    exact hf
  · intro hf
    exact ⟨a, q, hx, hf⟩

theorem runs_leaf (tree : Tree) (p : Parser) :
    Runs (do add tree; return true) p true { p with log := p.log.add tree } :=
  (runs_add tree p).bind (runs_pure true _)

section Conjunction

variable {y z : ParserM Bool}

theorem Runs.and_true {answer : Bool} (hy : y.Runs p true q) (hz : z.Runs q answer r) :
    (y <&&> z).Runs p answer r :=
  hy.bind hz

theorem Runs.and_false (hy : y.Runs p false q) : (y <&&> z).Runs p false q :=
  hy.bind (runs_pure false q)

end Conjunction

end SqlReader.ParserM
