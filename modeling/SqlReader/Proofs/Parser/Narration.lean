import SqlReader.Proofs.Parser.Choice
import SqlReader.Proofs.Parser.Composition

/-! What the events of an action tell.  Only choices record events: one for each alternative that
they try, after the events of that alternative.  In a grammar every choice begins at the start of a
token, and a failed alternative names the place where its choice began. -/

namespace SqlReader.ParserM

/-- The action goes from `p` to `q` and records the events, which tell of its choices. -/
inductive Tells : {α : Type} → ParserM α → Parser → α → Parser → List Event → Prop
  | quiet {α : Type} {x : ParserM α} {p q : Parser} {a : α} (h : x p = .ok ⟨a, q, []⟩) :
      Tells x p a q []
  | bind {α β : Type} {x : ParserM α} {f : α → ParserM β} {p q r : Parser} {a : α} {b : β}
      {events later : List Event} (hx : Tells x p a q events) (hf : Tells (f a) q b r later) :
      Tells (x >>= f) p b r (events ++ later)
  | choice {alternatives : List (ParserM Bool)} {p q : Parser} {answer : Bool}
      {events : List Event} (h : Tells (eitherFrom (start p) 0 alternatives) p answer q events) :
      Tells (either alternatives) p answer q events
  /-- An alternative of a choice that has begun at the start of a token has matched, which ends the
  choice. -/
  | matched {x : ParserM Bool} {others : List (ParserM Bool)} {index : Nat} {p q : Parser}
      {events : List Event} (hStart : p.cursor.place.offset = 0) (h : Tells x p true q events) :
      Tells (eitherFrom (start p) index (x :: others)) p true q
        (events ++ [.matched index q.cursor.current])
  /-- An alternative has failed, and the next one starts where the choice has begun. -/
  | failed {x : ParserM Bool} {others : List (ParserM Bool)} {index : Nat} {p q r : Parser}
      {answer : Bool} {events later : List Event} (hStart : p.cursor.place.offset = 0)
      (h : Tells x p false q events) (hKeeps : p.Keeps q)
      (hOthers : Tells (eitherFrom (start p) (index + 1) others) p answer r later) :
      Tells (eitherFrom (start p) index (x :: others)) p answer r
        (events ++ .failed index q.cursor.current p.cursor.place :: later)

variable {α β : Type} {p q r : Parser} {answer : Bool} {events later : List Event}
  {alternatives : List (ParserM Bool)}

theorem bind_ok {x : ParserM α} {f : α → ParserM β} {a : α} {b : β}
    (hx : x p = .ok ⟨a, q, events⟩) (hf : f a q = .ok ⟨b, r, later⟩) :
    (x >>= f) p = .ok ⟨b, r, events ++ later⟩ := by
  simp [bind_apply, hx, hf]

theorem restore_start (h : p.Keeps q) : restore (start p) q = .ok ⟨(), p, []⟩ := by
  obtain ⟨⟨tokens, place⟩, log⟩ := q
  obtain rfl : tokens = p.cursor.tokens := h.tokens
  simp [restore, bind_apply, onCursor, onLog, start, h.log.rollback]

/-- What is told is what the action does and records. -/
theorem Tells.ok {x : ParserM α} {a : α} (h : x.Tells p a q events) : x p = .ok ⟨a, q, events⟩ := by
  induction h with
  | quiet h => exact h
  | bind _ _ ihx ihf => exact bind_ok ihx ihf
  | choice _ ih => exact bind_ok (x := checkpoint) rfl ih
  | @matched x others index p q events _ _ ih =>
    have hNote : (do
        note (.matched index (← current))
        return true : ParserM Bool) q = .ok ⟨true, q, [.matched index q.cursor.current]⟩ := rfl
    exact bind_ok ih hNote
  | @failed x others index p q r answer events later _ _ hKeeps _ ih ihOthers =>
    have hRest : (do
        restore (start p)
        eitherFrom (start p) (index + 1) others : ParserM Bool) q = .ok ⟨answer, r, later⟩ :=
      bind_ok (restore_start hKeeps) ihOthers
    exact bind_ok ih (bind_ok (x := current) rfl (bind_ok (x := note _) rfl hRest))

/-- The event tells of an alternative; where that has failed, the parser goes back to the start of a
token. -/
def TellsOfAlternative : Event → Prop
  | .matched _ _ => True
  | .failed _ _ start => start.offset = 0
  | _ => False

theorem Tells.of_alternatives {x : ParserM α} {a : α} (h : x.Tells p a q events) :
    ∀ event ∈ events, TellsOfAlternative event := by
  induction h with
  | quiet => exact nofun
  | bind _ _ ihx ihf => exact List.forall_mem_append.mpr ⟨ihx, ihf⟩
  | choice _ ih => exact ih
  | matched _ _ ih => exact List.forall_mem_append.mpr ⟨ih, by simp [TellsOfAlternative]⟩
  | failed hStart _ _ _ ih ihOthers =>
    exact List.forall_mem_append.mpr ⟨ih, List.forall_mem_cons.mpr ⟨hStart, ihOthers⟩⟩

/-! ### Composed actions -/

/-- From the start of a token the events of every run of the action tell of its choices. -/
def Narrated (x : ParserM Bool) : Prop :=
  ∀ p, p.cursor.place.offset = 0 → ∀ answer q, x.Runs p answer q →
    ∃ events, x.Tells p answer q events

variable {x y : ParserM Bool}

/-- A success leads from the start of a token to the start of a token. -/
theorem Framed.offset {tokens nodes : Nat} (h : Framed tokens nodes x)
    (hStart : p.cursor.place.offset = 0) (hRun : x.Runs p true q) : q.cursor.place.offset = 0 := by
  obtain ⟨answer, r, hThrough, hTakes⟩ := h p
  obtain ⟨hAnswer, rfl⟩ := hRun.unique hThrough.runs
  rcases (hTakes hAnswer.symm).start with hSame | hOffset
  · rw [hSame]
    exact hStart
  · exact hOffset

theorem Framed.keeps {tokens nodes : Nat} (h : Framed tokens nodes x) (hRun : x.Runs p answer q) :
    p.Keeps q := by
  obtain ⟨answer, r, hThrough, -⟩ := h p
  obtain ⟨-, rfl⟩ := hRun.unique hThrough.runs
  exact ⟨hThrough.last.cursor.tokens, hThrough.last.log⟩

/-- A token is taken whole, or the parser stays where it is. -/
theorem terminal_offset {text : String} (hStart : p.cursor.place.offset = 0)
    (hRun : (terminal text).Runs p answer q) : q.cursor.place.offset = 0 := by
  rcases terminal_cases text p with ⟨c, hPast, hThrough⟩ | hThrough
  · obtain ⟨-, rfl⟩ := hRun.unique hThrough.runs
    exact hPast.offset
  · obtain ⟨-, rfl⟩ := hRun.unique hThrough.runs
    exact hStart

theorem silent_onLog {f : EditLog → Except Violation EditLog} {u : Unit}
    (hRun : (onLog f).Runs p u q) : onLog f p = .ok ⟨u, q, []⟩ := by
  obtain ⟨log, hLog, rfl⟩ := runs_onLog_iff.mp hRun
  simp [onLog, hLog]

theorem tells_pure (a : α) (p : Parser) : (pure a : ParserM α).Tells p a p [] := .quiet rfl

theorem eitherFrom_narrated (hFramed : ∀ x ∈ alternatives, Framed 0 0 x)
    (hNarrated : ∀ x ∈ alternatives, Narrated x) (hStart : p.cursor.place.offset = 0) {index : Nat}
    (hRun : (eitherFrom (start p) index alternatives).Runs p answer q) :
    ∃ events, (eitherFrom (start p) index alternatives).Tells p answer q events := by
  induction alternatives generalizing index with
  | nil =>
    obtain ⟨rfl, rfl⟩ := runs_pure_iff.mp hRun
    exact ⟨[], .quiet rfl⟩
  | cons x others ih =>
    obtain ⟨hFramedX, hFramed⟩ := List.forall_mem_cons.mp hFramed
    obtain ⟨hNarratedX, hNarrated⟩ := List.forall_mem_cons.mp hNarrated
    obtain ⟨found, r, hx, -⟩ := runs_bind_iff.mp hRun
    obtain ⟨events, hTells⟩ := hNarratedX p hStart found r hx
    cases found with
    | true =>
      obtain ⟨rfl, rfl⟩ := hRun.unique (eitherFrom_matched hx)
      exact ⟨_, .matched hStart hTells⟩
    | false =>
      have hKeeps := hFramedX.keeps hx
      have hMore := (eitherFrom_failed_iff hx hKeeps).mp hRun
      obtain ⟨later, hLater⟩ := ih hFramed hNarrated hMore
      exact ⟨_, .failed hStart hTells hKeeps hLater⟩

theorem Composed.narrated (h : Composed x) : Narrated x := by
  induction h with
  | leaf hPlain =>
    intro p _ answer q hRun
    exact ⟨[], .quiet (hPlain.silent hRun)⟩
  | and hx _ ihx ihy =>
    intro p hStart answer q hRun
    obtain ⟨found, r, hRunX, hRunY⟩ := runs_bind_iff.mp hRun
    obtain ⟨events, hTells⟩ := ihx p hStart found r hRunX
    cases found with
    | false =>
      obtain ⟨rfl, rfl⟩ := runs_pure_iff.mp hRunY
      exact ⟨_, hTells.bind (tells_pure false _)⟩
    | true =>
      obtain ⟨later, hLater⟩ := ihy r (hx.framed.offset hStart hRunX) answer q hRunY
      exact ⟨_, hTells.bind hLater⟩
  | within kind _ ih =>
    intro p hStart answer q hRun
    obtain ⟨_, opened, hEnter, hBody⟩ := runs_bind_iff.mp hRun
    obtain ⟨-, rfl⟩ := hEnter.unique (runs_enter _ p)
    obtain ⟨found, r, hRunX, hRest⟩ := runs_bind_iff.mp hBody
    obtain ⟨events, hTells⟩ :=
      ih { p with log := p.log.enter (.leaf kind "") } hStart found r hRunX
    cases found with
    | false =>
      obtain ⟨rfl, rfl⟩ := runs_pure_iff.mp hRest
      exact ⟨_, .bind (.quiet rfl) (.bind hTells (tells_pure false _))⟩
    | true =>
      obtain ⟨_, closed, hExit, hEnd⟩ := runs_bind_iff.mp hRest
      obtain ⟨rfl, rfl⟩ := runs_pure_iff.mp hEnd
      have hQuiet : exit.Tells r () q [] := .quiet (silent_onLog hExit)
      exact ⟨_, .bind (.quiet rfl) (.bind hTells (.bind hQuiet (tells_pure true _)))⟩
  | ifTerminal text hx hy ihx ihy =>
    intro p hStart answer q hRun
    obtain ⟨found, r, hTerminal, hRest⟩ := runs_bind_iff.mp hRun
    have hTells : (ParserM.terminal text).Tells p found r [] :=
      .quiet ((plain_terminal text).silent hTerminal)
    have hNext := terminal_offset hStart hTerminal
    cases found with
    | true =>
      obtain ⟨events, hBranch⟩ := ihx r hNext answer q hRest
      exact ⟨_, hTells.bind hBranch⟩
    | false =>
      obtain ⟨events, hBranch⟩ := ihy r hNext answer q hRest
      exact ⟨_, hTells.bind hBranch⟩
  | either hComposed ih =>
    intro p hStart answer q hRun
    have hFrom := (runs_look (fun p : Parser => start p) p).bind_iff.mp hRun
    obtain ⟨events, hTells⟩ :=
      eitherFrom_narrated (fun x hx => (hComposed x hx).framed) ih hStart hFrom
    exact ⟨events, .choice hTells⟩
  | tokensLeft _ ih =>
    intro p hStart answer q hRun
    have hRest := (runs_look (fun p => p.cursor.tokensLeft) p).bind_iff.mp hRun
    obtain ⟨events, hTells⟩ := ih _ p hStart answer q hRest
    exact ⟨events, .bind (.quiet rfl) hTells⟩

end SqlReader.ParserM
