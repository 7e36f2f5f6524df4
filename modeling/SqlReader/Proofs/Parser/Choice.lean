import SqlReader.Proofs.Parser.Phrases

/-! Ordered choice.  If its alternatives take nothing back, a choice does what the first alternative
that succeeds does by itself, and where none succeeds it leaves the parser as it was. -/

namespace SqlReader.ParserM

/-- The first of the alternatives that succeeds when each is run by itself from `p`: it leaves `q`.
Where none succeeds `q` is `p`. -/
inductive FirstOf : List (ParserM Bool) → Parser → Bool → Parser → Prop
  | nothing {p : Parser} : FirstOf [] p false p
  | here {x : ParserM Bool} {others : List (ParserM Bool)} {p q : Parser}
      (h : x.Runs p true q) : FirstOf (x :: others) p true q
  | later {x : ParserM Bool} {others : List (ParserM Bool)} {p q r : Parser} {answer : Bool}
      (h : x.Runs p false r) (hOthers : FirstOf others p answer q) :
      FirstOf (x :: others) p answer q

variable {x : ParserM Bool} {alternatives others : List (ParserM Bool)} {p q r : Parser}
  {answer : Bool} {index : Nat}

theorem exists_firstOf (h : ∀ x ∈ alternatives, ∃ answer q, x.Runs p answer q) :
    ∃ answer q, FirstOf alternatives p answer q := by
  induction alternatives with
  | nil => exact ⟨false, p, .nothing⟩
  | cons x others ih =>
    obtain ⟨⟨answer, q, hRun⟩, hOthers⟩ := List.forall_mem_cons.mp h
    cases answer with
    | true => exact ⟨true, q, .here hRun⟩
    | false =>
      obtain ⟨answer, r, hFirst⟩ := ih hOthers
      exact ⟨answer, r, .later hRun hFirst⟩

theorem FirstOf.of_true (h : FirstOf alternatives p answer q) (hAnswer : answer = true) :
    ∃ failed x others, alternatives = failed ++ x :: others ∧
      (∀ y ∈ failed, ∃ r, y.Runs p false r) ∧ x.Runs p true q := by
  induction h with
  | nothing => cases hAnswer
  | @here x others p q h => exact ⟨[], x, others, rfl, by simp, h⟩
  | @later x others p q r answer h hOthers ih =>
    obtain ⟨failed, y, more, rfl, hFailed, hRun⟩ := ih hAnswer
    exact ⟨x :: failed, y, more, rfl, List.forall_mem_cons.mpr ⟨⟨r, h⟩, hFailed⟩, hRun⟩

theorem FirstOf.of_false (h : FirstOf alternatives p answer q) (hAnswer : answer = false) :
    (∀ x ∈ alternatives, ∃ r, x.Runs p false r) ∧ q = p := by
  induction h with
  | nothing => exact ⟨by simp, rfl⟩
  | here => cases hAnswer
  | @later x others p q r answer h hOthers ih =>
    obtain ⟨hFailed, hSame⟩ := ih hAnswer
    exact ⟨List.forall_mem_cons.mpr ⟨⟨r, h⟩, hFailed⟩, hSame⟩

/-- What a choice does is what one of its alternatives does, or nothing. -/
theorem FirstOf.one_or_nothing (h : FirstOf alternatives p answer q) :
    (∃ x ∈ alternatives, x.Runs p answer q) ∨ answer = false ∧ q = p := by
  induction h with
  | nothing => exact .inr ⟨rfl, rfl⟩
  | here h => exact .inl ⟨_, List.mem_cons_self, h⟩
  | later _ _ ih =>
    rcases ih with ⟨y, hy, hRun⟩ | hNothing
    · exact .inl ⟨y, List.mem_cons_of_mem _ hy, hRun⟩
    · exact .inr hNothing

theorem eitherFrom_matched_iff (h : x.Runs p true r) :
    (eitherFrom ⟨p.cursor.place, p.log.mark⟩ index (x :: others)).Runs p answer q ↔
      answer = true ∧ q = r := by
  constructor
  · intro hRun
    exact hRun.unique (eitherFrom_matched h)
  · rintro ⟨rfl, rfl⟩
    exact eitherFrom_matched h

/-- After a failure the choice goes on from where it began. -/
theorem eitherFrom_failed_iff (h : x.Runs p false r) (hKeeps : p.Keeps r) :
    (eitherFrom ⟨p.cursor.place, p.log.mark⟩ index (x :: others)).Runs p answer q ↔
      (eitherFrom ⟨p.cursor.place, p.log.mark⟩ (index + 1) others).Runs p answer q := by
  constructor
  · intro hRun
    have hLook := (h.bind_iff.mp hRun)
    have hNote := (runs_look (·.cursor.current) r).bind_iff.mp hLook
    have hRestore := (runs_note _ r).bind_iff.mp hNote
    exact (runs_restore hKeeps).bind_iff.mp hRestore
  · exact eitherFrom_failed h hKeeps

theorem eitherFrom_iff (h : ∀ x ∈ alternatives, ∀ answer q, x.Runs p answer q → p.Keeps q) :
    (eitherFrom ⟨p.cursor.place, p.log.mark⟩ index alternatives).Runs p answer q ↔
      FirstOf alternatives p answer q := by
  induction alternatives generalizing index with
  | nil =>
    rw [eitherFrom, runs_pure_iff]
    constructor
    · rintro ⟨rfl, rfl⟩
      exact .nothing
    · intro hFirst
      cases hFirst
      exact ⟨rfl, rfl⟩
  | cons x others ih =>
    obtain ⟨hKeeps, hOthers⟩ := List.forall_mem_cons.mp h
    constructor
    · intro hRun
      obtain ⟨found, r, hx, -⟩ := runs_bind_iff.mp hRun
      cases found with
      | true =>
        obtain ⟨rfl, rfl⟩ := (eitherFrom_matched_iff hx).mp hRun
        exact .here hx
      | false =>
        have hMore := (eitherFrom_failed_iff hx (hKeeps _ _ hx)).mp hRun
        exact .later hx ((ih hOthers).mp hMore)
    · intro hFirst
      cases hFirst with
      | here hx => exact eitherFrom_matched hx
      | later hx hMore =>
        exact (eitherFrom_failed_iff hx (hKeeps _ _ hx)).mpr ((ih hOthers).mpr hMore)

/-- A choice runs as its first alternative that succeeds does by itself. -/
theorem either_iff (h : ∀ x ∈ alternatives, ∀ answer q, x.Runs p answer q → p.Keeps q) :
    (either alternatives).Runs p answer q ↔ FirstOf alternatives p answer q :=
  (runs_look (fun p => (⟨p.cursor.place, p.log.mark⟩ : Checkpoint)) p).bind_iff.trans
    (eitherFrom_iff h)

end SqlReader.ParserM
