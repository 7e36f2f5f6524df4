import SqlReader.Proofs.Grammar.Safety
import SqlReader.Proofs.Parser.Choice

/-! Programs: the actions made of a parser's own steps, the nonterminals and choices.  A program may
exit nodes that it has not entered and may stop inside a token, but it takes back no edit that it
has not made, and so a choice among programs is one of them or nothing. -/

namespace SqlReader.ParserM

/-- Finite programs.  What comes after a step may depend on its answer. -/
inductive Program : {α : Type} → ParserM α → Prop
  | pure {α : Type} (a : α) : Program (pure a)
  | bind {α β : Type} {x : ParserM α} {f : α → ParserM β} (hx : Program x)
      (hf : ∀ a, Program (f a)) : Program (x >>= f)
  | look {α : Type} (f : Parser → α) : Program (look f)
  | terminalAny (texts : List String) : Program (terminalAny texts)
  | consume (test : Char → Bool) : Program (consume test)
  | add (tree : Tree) : Program (add tree)
  | enter (tree : Tree) : Program (enter tree)
  | exit : Program exit
  | production (n : Production) : Program n.action
  | either {alternatives : List (ParserM Bool)} (h : ∀ x ∈ alternatives, Program x) :
      Program (either alternatives)

variable {α : Type} {x : ParserM α} {alternatives : List (ParserM Bool)} {p q : Parser} {a : α}
  {answer : Bool}

theorem Program.terminal (text : String) : Program (terminal text) := .terminalAny [text]

/-- A step of the cursor keeps the log, and the tokens if the cursor does. -/
theorem keeps_onCursor {f : Cursor → α × Cursor} (hf : ∀ c : Cursor, c.Onward (f c).2)
    (h : (onCursor f).Runs p a q) : p.Keeps q := by
  obtain ⟨-, rfl⟩ := h.unique (runs_onCursor f p)
  exact ⟨(hf p.cursor).tokens, .refl _⟩

/-- An edit keeps what was in the log. -/
theorem keeps_onLog {f : EditLog → Except Violation EditLog} {u : Unit}
    (hf : ∀ log next : EditLog, f log = .ok next → log.Extends next)
    (h : (onLog f).Runs p u q) : p.Keeps q := by
  obtain ⟨log, hLog, rfl⟩ := runs_onLog_iff.mp h
  exact ⟨rfl, hf p.log log hLog⟩

theorem keeps_either (hKeeps : ∀ x ∈ alternatives, ∀ answer q, x.Runs p answer q → p.Keeps q)
    (h : (either alternatives).Runs p answer q) : p.Keeps q := by
  have hFirst := (either_iff hKeeps).mp h
  rcases hFirst.one_or_nothing with ⟨x, hx, hRun⟩ | ⟨rfl, rfl⟩
  · exact hKeeps x hx answer q hRun
  · exact .refl q

/-- A program takes nothing back, also where it fails. -/
theorem Program.keeps (hProgram : Program x) (h : x.Runs p a q) : p.Keeps q := by
  induction hProgram generalizing p q with
  | pure =>
    obtain ⟨-, rfl⟩ := runs_pure_iff.mp h
    exact .refl q
  | bind _ _ ihx ihf =>
    obtain ⟨a, r, hx, hf⟩ := runs_bind_iff.mp h
    exact (ihx hx).trans (ihf a hf)
  | look f =>
    obtain ⟨-, rfl⟩ := h.unique (runs_look f p)
    exact .refl q
  | terminalAny texts => exact keeps_onCursor (fun c => c.onward_terminalAny texts) h
  | consume test => exact keeps_onCursor (fun c => c.onward_consume test) h
  | add | enter =>
    refine keeps_onLog (fun log next hNext => ?_) h
    cases hNext
    exact EditLog.extends_push _ _ _
  | exit => exact keeps_onLog (fun log next hNext => EditLog.extends_exit hNext) h
  | production n =>
    -- A nonterminal has one run, and that one is known to take nothing back.
    obtain ⟨answer, r, hRun, hLeads⟩ := n.action_safe p
    obtain ⟨-, rfl⟩ := h.unique hRun
    exact hLeads.keeps
  | either _ ih => exact keeps_either (fun x hx answer q hRun => ih x hx hRun) h

/-- If none of the programs violates the rules of the log from `p`, the choice among them does not
either.  It succeeds exactly if one of them does, and then leaves what the first one that succeeds
leaves by itself; otherwise it leaves `p`, whatever nodes the programs have entered or exited and
wherever in a token they have stopped. -/
theorem either_is_transactional (p : Parser) (hPrograms : ∀ x ∈ alternatives, Program x)
    (hEnds : ∀ x ∈ alternatives, ∃ answer q, x.Runs p answer q) :
    ∃ answer q, (either alternatives).Runs p answer q ∧
      (answer = true ↔ ∃ x ∈ alternatives, ∃ r, x.Runs p true r) ∧
      (answer = true → ∃ failed x others, alternatives = failed ++ x :: others ∧
        (∀ y ∈ failed, ∃ r, y.Runs p false r) ∧ x.Runs p true q) ∧
      (answer = false → q = p) := by
  obtain ⟨answer, q, hFirst⟩ := exists_firstOf hEnds
  have hRun : (either alternatives).Runs p answer q :=
    (either_iff fun x hx answer q hRun => (hPrograms x hx).keeps hRun).mpr hFirst
  refine ⟨answer, q, hRun, ⟨fun hAnswer => ?_, ?_⟩, hFirst.of_true, fun hAnswer =>
    (hFirst.of_false hAnswer).2⟩
  · obtain ⟨failed, x, others, rfl, -, hx⟩ := hFirst.of_true hAnswer
    exact ⟨x, by simp, q, hx⟩
  · rintro ⟨x, hx, r, hTrue⟩
    cases hAnswer : answer with
    | true => rfl
    | false =>
      obtain ⟨r', hFalse⟩ := (hFirst.of_false hAnswer).1 x hx
      exact (hTrue.unique hFalse).1.symm

/-- The first program exits the node that is open and fails, the second one enters a node and fails
inside the token, the third one takes the token. -/
theorem either_takes_back_exit_and_character :
    (either [(do exit; terminal ")"),
      (do enter (.leaf .columns ""); return (← consume Char.isDigit).matched),
      (do exit; terminal "AB")]).Runs
      ⟨.ofTokens [⟨"ab", .id, 0⟩], EditLog.empty.enter (.leaf .select "")⟩ true
      ⟨⟨#[⟨"ab", .id, 0⟩], ⟨1, 0⟩⟩, ⟨#[.enter (.leaf .select ""), .exit], 0⟩⟩ := by
  let start : Parser := ⟨.ofTokens [⟨"ab", .id, 0⟩], EditLog.empty.enter (.leaf .select "")⟩
  let exiting : ParserM Bool := do exit; terminal ")"
  let entering : ParserM Bool := do
    enter (.leaf .columns "")
    return (← consume Char.isDigit).matched
  let taking : ParserM Bool := do exit; terminal "AB"
  have hExit : start.log.exit = .ok ⟨#[.enter (.leaf .select ""), .exit], 0⟩ := rfl
  have hOther : start.cursor.peekAny [")"] = false := by decide
  have hLetter : (start.cursor.consume Char.isDigit).1.matched = false := by decide
  have hSame : start.cursor.peekAny ["AB"] = true := by decide
  have hExiting : ∃ r, exiting.Runs start false r :=
    ⟨_, (runs_onLog hExit).bind (runs_terminalAny_false hOther)⟩
  have hEntering : ∃ r, entering.Runs start false r :=
    ⟨_, (runs_enter _ start).bind ((runs_onCursor _ _).bind
      (runs_pure_iff.mpr ⟨hLetter.symm, rfl⟩))⟩
  have hTaking : taking.Runs start true
      ⟨⟨#[⟨"ab", .id, 0⟩], ⟨1, 0⟩⟩, ⟨#[.enter (.leaf .select ""), .exit], 0⟩⟩ :=
    (runs_onLog hExit).bind (runs_terminalAny_true hSame)
  have hPrograms : ∀ x ∈ [exiting, entering, taking], Program x := by
    simp only [List.forall_mem_cons]
    exact ⟨.bind .exit fun _ => .terminal ")",
      .bind (.enter _) fun _ => .bind (.consume _) fun _ => .pure _,
      .bind .exit fun _ => .terminal "AB", nofun⟩
  have hEnds : ∀ x ∈ [exiting, entering, taking], ∃ answer q, x.Runs start answer q := by
    simp only [List.forall_mem_cons]
    exact ⟨⟨false, hExiting⟩, ⟨false, hEntering⟩, ⟨true, _, hTaking⟩, nofun⟩
  obtain ⟨answer, q, hRun, hIff, hFirst, -⟩ := either_is_transactional start hPrograms hEnds
  have hTrue : answer = true := hIff.mpr ⟨taking, by simp, _, hTaking⟩
  obtain ⟨failed, x, others, hList, hFailed, hx⟩ := hFirst hTrue
  rcases failed with _ | ⟨y, _ | ⟨z, _ | ⟨w, failed⟩⟩⟩
  · cases hList
    obtain ⟨r, hFalse⟩ := hExiting
    cases (hFalse.unique hx).1
  · cases hList
    obtain ⟨r, hFalse⟩ := hEntering
    cases (hFalse.unique hx).1
  · cases hList
    obtain ⟨-, rfl⟩ := hx.unique hTaking
    exact hTrue ▸ hRun
  · simp at hList

end SqlReader.ParserM
