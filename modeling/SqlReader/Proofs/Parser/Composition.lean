import SqlReader.Proofs.Cursor.Resume
import SqlReader.Proofs.Parser.Frame

/-! The actions of a grammar, by the ways in which they are put together.  At the leaves are plain
actions, which read tokens and add trees; above them are sequences, nodes, choices, lists and what
may be left out. -/

namespace SqlReader.ParserM

/-- Actions that look at the current token, move in the tokens to come and add trees. -/
inductive Plain : {α : Type} → ParserM α → Prop
  | pure {α : Type} (a : α) : Plain (pure a)
  | bind {α β : Type} {x : ParserM α} {f : α → ParserM β} (hx : Plain x)
      (hf : ∀ a, Plain (f a)) : Plain (x >>= f)
  | current : Plain current
  | atTokenStart : Plain atTokenStart
  | onCursor {α : Type} {f : Cursor → α × Cursor} (hf : Cursor.Local f) : Plain (onCursor f)
  | add (tree : Tree) : Plain (add tree)

/-- Actions put together in the ways of a grammar. -/
inductive Composed : ParserM Bool → Prop
  | leaf {x : ParserM Bool} {tokens nodes : Nat} (hPlain : Plain x)
      (hFramed : Framed tokens nodes x) : Composed x
  | and {x y : ParserM Bool} (hx : Composed x) (hy : Composed y) : Composed (x <&&> y)
  | within {x : ParserM Bool} (kind : NodeKind) (hx : Composed x) : Composed (within kind x)
  | ifTerminal (text : String) {x y : ParserM Bool} (hx : Composed x) (hy : Composed y) :
      Composed (do if ← terminal text then x else y)
  | either {alternatives : List (ParserM Bool)} (h : ∀ x ∈ alternatives, Composed x) :
      Composed (either alternatives)
  | tokensLeft {f : Nat → ParserM Bool} (hf : ∀ left, Composed (f left)) :
      Composed (look (·.cursor.tokensLeft) >>= f)

/-- The checkpoint at which a parser stands. -/
def start (p : Parser) : Checkpoint := ⟨p.cursor.place, p.log.mark⟩

variable {α : Type} {x item : ParserM Bool} {p q : Parser}

theorem plain_terminal (text : String) : Plain (terminal text) :=
  .onCursor (Cursor.local_terminalAny [text])

theorem Composed.terminal (text : String) : Composed (terminal text) :=
  .leaf (plain_terminal text) (framed_terminal text)

theorem Composed.commaItems (hItem : Composed item) (bound : Nat) :
    Composed (commaItems item bound) := by
  induction bound with
  | zero => exact .leaf (.pure true) framed_true
  | succ bound ih =>
    rw [commaItems_succ]
    exact .ifTerminal "," (hItem.and ih) (.leaf (.pure true) framed_true)

theorem Composed.separated (hItem : Composed item) : Composed (separated item) :=
  .tokensLeft fun bound => hItem.and (hItem.commaItems bound)

/-- Every composed action keeps to the frame. -/
theorem Composed.framed (h : Composed x) : Framed 0 0 x := by
  induction h with
  | leaf _ hFramed => exact hFramed.mono (Nat.zero_le _) (Nat.zero_le _)
  | and _ _ ihx ihy => exact ihx.and ihy
  | within kind _ ih => exact (ih.within kind).mono (Nat.zero_le _) (Nat.zero_le _)
  | ifTerminal text _ _ ihx ihy => exact framed_ifTerminal text ihx ihy
  | either _ ih => exact framed_either ih
  | tokensLeft _ ih => exact framed_look ih

/-- A plain action records no event. -/
theorem Plain.silent {x : ParserM α} {a : α} (hPlain : Plain x) (h : x.Runs p a q) :
    x p = .ok ⟨a, q, []⟩ := by
  induction hPlain generalizing p q with
  | pure | current | atTokenStart | onCursor | add =>
    obtain ⟨events, h⟩ := h
    cases h
    rfl
  | bind _ _ ihx ihf =>
    obtain ⟨a, r, hx, hf⟩ := runs_bind_iff.mp h
    simp [bind_apply, ihx hx, ihf a hf]

end SqlReader.ParserM
