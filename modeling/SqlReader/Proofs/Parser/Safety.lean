import SqlReader.Proofs.Parser.Frame

/-! Actions that end without a violation wherever the parser stands and whatever its log holds.
They take nothing back and do not go back in the tokens; where they succeed they have closed the
nodes that they have opened.  An action that keeps to its frame is one of them; and the bound of a
list of items is never met. -/

namespace SqlReader

namespace Parser

/-- Where an action with the answer `answer` may leave the parser `p`. -/
structure Leads (p : Parser) (answer : Bool) (q : Parser) : Prop where
  cursor : p.cursor.Onward q.cursor
  log : p.log.Extends q.log
  depth : answer = true → q.log.depth = p.log.depth

variable {p q r : Parser} {answer : Bool}

theorem Leads.trans (h : p.Leads true q) (h' : q.Leads answer r) : p.Leads answer r :=
  ⟨h.cursor.trans h'.cursor, h.log.trans h'.log,
    fun hAnswer => (h'.depth hAnswer).trans (h.depth rfl)⟩

theorem Leads.keeps (h : p.Leads answer q) : p.Keeps q := ⟨h.cursor.tokens, h.log⟩

theorem leads_cursor {c : Cursor} (h : p.cursor.Onward c) (answer : Bool) :
    p.Leads answer { p with cursor := c } :=
  ⟨h, .refl _, fun _ => rfl⟩

end Parser

namespace ParserM

/-- From every parser the action ends without a violation. -/
def Safe (x : ParserM Bool) : Prop := ∀ p, ∃ answer q, x.Runs p answer q ∧ p.Leads answer q

/-- A list of items run without a bound: an item, and again one after each comma.  It fails with the
first item that fails, and ends after an item that no comma follows. -/
inductive ListRun (item : ParserM Bool) : Parser → Bool → Parser → Prop
  | failed {p q : Parser} (hItem : item.Runs p false q) : ListRun item p false q
  | last {p q : Parser} (hItem : item.Runs p true q) (hComma : q.cursor.peek "," = false) :
      ListRun item p true q
  | next {p q r : Parser} {answer : Bool} (hItem : item.Runs p true q)
      (hComma : q.cursor.peek "," = true)
      (h : ListRun item { q with cursor := q.cursor.advance } answer r) : ListRun item p answer r

variable {x item : ParserM Bool} {p q r : Parser} {answer : Bool}

/-- An action that keeps to its frame is safe. -/
theorem Framed.safe {tokens nodes : Nat} (h : Framed tokens nodes x) : Safe x := by
  intro p
  obtain ⟨answer, q, hThrough, hTakes⟩ := h p
  have hFrame := hThrough.last
  refine ⟨answer, q, hThrough.runs, hFrame.cursor.onward, hFrame.log, fun hAnswer => ?_⟩
  obtain ⟨trees, -, hGains⟩ := (hTakes hAnswer).trees
  exact hGains.depth

/-! ### Lists -/

/-- With a bound of at least the tokens left, a list runs as it does without one: every comma is a
token. -/
theorem Safe.items (hItem : Safe item) (bound : Nat) (p : Parser)
    (hBound : p.cursor.tokensLeft ≤ bound) :
    ∃ answer q, (item <&&> commaItems item bound).Runs p answer q ∧ ListRun item p answer q ∧
      p.Leads answer q := by
  induction bound generalizing p with
  | zero =>
    obtain ⟨found, q, hRun, hLeads⟩ := hItem p
    cases found with
    | false => exact ⟨false, q, hRun.and_false, .failed hRun, hLeads⟩
    | true =>
      -- With no token left there is no comma, so the list ends here without the bound too.
      have hLeft := hLeads.cursor.tokensLeft_le
      have hComma : q.cursor.peek "," = false := by
        refine Bool.eq_false_iff.mpr fun hPeek => ?_
        have hLess := Cursor.tokensLeft_advance_lt hPeek
        omega
      exact ⟨true, q, hRun.and_true (runs_pure true q), .last hRun hComma, hLeads⟩
  | succ bound ih =>
    obtain ⟨found, q, hRun, hLeads⟩ := hItem p
    cases found with
    | false => exact ⟨false, q, hRun.and_false, .failed hRun, hLeads⟩
    | true =>
      have hLeft := hLeads.cursor.tokensLeft_le
      rw [commaItems_succ]
      cases hComma : q.cursor.peek "," with
      | false =>
        have hEnd : (terminal ",").Runs q false q := runs_terminalAny_false hComma
        exact ⟨true, q, hRun.and_true (hEnd.bind (runs_pure true q)), .last hRun hComma, hLeads⟩
      | true =>
        have hLess := Cursor.tokensLeft_advance_lt hComma
        have hTake : (terminal ",").Runs q true { q with cursor := q.cursor.advance } :=
          runs_terminalAny_true hComma
        obtain ⟨answer, r, hMore, hList, hLeads'⟩ := ih { q with cursor := q.cursor.advance }
          (by show q.cursor.advance.tokensLeft ≤ bound; omega)
        exact ⟨answer, r, hRun.and_true (hTake.bind hMore), .next hRun hComma hList,
          (hLeads.trans (Parser.leads_cursor q.cursor.onward_advance true)).trans hLeads'⟩

theorem Safe.listRun (hItem : Safe item) (p : Parser) :
    ∃ answer q, (separated item).Runs p answer q ∧ ListRun item p answer q ∧ p.Leads answer q := by
  obtain ⟨answer, q, hRun, hList, hLeads⟩ := hItem.items p.cursor.tokensLeft p (Nat.le_refl _)
  exact ⟨answer, q, (runs_look (·.cursor.tokensLeft) p).bind hRun, hList, hLeads⟩

end ParserM

end SqlReader
