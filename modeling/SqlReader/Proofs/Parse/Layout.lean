import Mathlib.Control.Monad.Basic
import SqlReader.Proofs.Grammar.Likeness
import SqlReader.Proofs.Lexing.Layout

/-! A parse does not depend on the layout of the text.  The place of a token shows in one respect
only, whether there is white space before it: where there is some inside a literal, the value of
the literal has a space. -/

namespace SqlReader

open Text Phrase Cursor

variable {ts us : List Token}

/-! ### Pieces of token lists -/

theorem pieces_take (lastStop : Option Nat) (ts : List Token) (n : Nat) :
    pieces lastStop (ts.take n) = (pieces lastStop ts).take n := by
  induction ts generalizing lastStop n with
  | nil => rw [List.take_nil, pieces, List.take_nil]
  | cons t ts ih =>
    cases n with
    | zero => rfl
    | succ n => rw [List.take_succ_cons, pieces, ih, pieces, List.take_succ_cons]

/-- Without what was before them, the later tokens have no space before the first. -/
theorem pieces_drop (lastStop : Option Nat) (ts : List Token) (n : Nat) :
    pieces none (ts.drop n) = ((pieces lastStop ts).drop n).modifyHead ({ · with gap := [] }) := by
  induction ts generalizing lastStop n with
  | nil => rw [List.drop_nil, pieces, pieces, List.drop_nil, List.modifyHead_nil]
  | cons t ts ih =>
    cases n with
    | zero => rfl
    | succ n => rw [List.drop_succ_cons, ih (some t.stop), pieces, List.drop_succ_cons]

theorem pieces_values (lastStop : Option Nat) (ts : List Token) :
    (pieces lastStop ts).map (fun p => (p.kind, p.value)) = ts.map fun t => (t.kind, t.value) := by
  induction ts generalizing lastStop with
  | nil => rfl
  | cons t ts ih => rw [pieces, List.map_cons, List.map_cons, ih]

theorem TokenClass.has_congr (t u : Token) (h : (t.kind, t.value) = (u.kind, u.value))
    (c : TokenClass) : c.has t = c.has u := by
  obtain ⟨hKind, hValue⟩ := Prod.mk.inj h
  cases c <;> simp only [TokenClass.has, Token.isEnd, Token.hasText, hKind, hValue]

theorem values_of_pieces (h : pieces none ts = pieces none us) :
    ts.map (fun t => (t.kind, t.value)) = us.map fun u => (u.kind, u.value) := by
  rw [← pieces_values none, h, pieces_values]

/-! ### The likeness -/

/-- Token lists are alike if they differ in layout only; then they are read as the same trees. -/
def Likeness.layout : Likeness where
  tokens ts us := pieces none ts = pieces none us
  tree _ := Eq
  has h := forall₂_of_map TokenClass.has_congr (values_of_pieces h)
  take h n := by rw [pieces_take, h, pieces_take]
  drop h n := by rw [pieces_drop none, h, ← pieces_drop]
  node h _ := by
    rw [List.forall₂_eq_eq_eq] at h
    rw [h]

theorem statement_respects_layout : statement.Respects .layout .root := by
  refine Likeness.statement_respects (fun above kind ts us h => ?_) rfl fun ts us h => ?_
  · have hValues := congrArg (List.map Prod.snd) (values_of_pieces h)
    rw [List.map_map, List.map_map] at hValues
    exact congrArg (fun values => Tree.leaf kind (String.join values)) hValues
  · have hInside : Likeness.layout.tokens (ts.drop 1).dropLast (us.drop 1).dropLast :=
      Likeness.dropLast_alike (Likeness.layout.drop h 1)
    rw [quotedValue, quotedValue, spaced_eq_pieces, spaced_eq_pieces, hInside]
    rfl

/-- Texts of the same words, which differ in the white space between the words and at the two ends
only, are both cut into tokens or both not.  If they are, the tokens have the same values and
categories, and both texts are parsed with the same answer and the same tree.  If they are not, the
cutting fails at the same visible character of both. -/
theorem parse_ignores_layout {a b : String} (h : words a.toList = words b.toList) :
    match lex a, lex b with
    | .ok ts, .ok us =>
      ts.map (fun t => (t.kind, t.value)) = us.map (fun u => (u.kind, u.value)) ∧
        ∃ answer, parseText a = .ok answer ∧ parseText b = .ok answer
    | .error e, .error e' => ∃ c before after before' after',
      FailsAt a e before c after ∧ FailsAt b e' before' c after' ∧
        visible before = visible before'
    | _, _ => False := by
  have hSame := lex_same_words h
  cases ha : lex a with
  | error e =>
    cases hb : lex b with
    | error e' => exact fails_same_words h ha hb
    | ok us =>
      rw [ha, hb] at hSame
      cases hSame
  | ok ts =>
    cases hb : lex b with
    | error e' =>
      rw [ha, hb] at hSame
      cases hSame
    | ok us =>
      rw [ha, hb] at hSame
      have hPieces : pieces none ts = pieces none us := Except.ok.inj hSame
      obtain ⟨o, o', hParse, hParse', hAccepted, -, hTree⟩ :=
        Likeness.parse_alike (L := .layout) statement_respects_layout hPieces
      have hAnswer : o.answer = o'.answer := by
        obtain ⟨answer, _⟩ := o
        obtain ⟨answer', _⟩ := o'
        cases answer
        cases answer'
        exact congrArg₂ Parsed.mk hAccepted (hTree .root)
      exact ⟨values_of_pieces hPieces, o.answer, parseText_of_lex ha hParse,
        hAnswer ▸ parseText_of_lex hb hParse'⟩

/-- The tokens of an insertion with wide spaces between the two words of its literal, the second of
which is cut in two. -/
def literalTokens : List Token :=
  [⟨"insert", .reserved, 0⟩, ⟨"into", .reserved, 7⟩, ⟨"t", .id, 12⟩, ⟨"values", .reserved, 14⟩,
    ⟨"(", .reserved, 20⟩, ⟨"\"", .reserved, 21⟩, ⟨"a", .id, 22⟩, ⟨"1", .int, 29⟩,
    ⟨"b", .id, 30⟩, ⟨"\"", .reserved, 31⟩, ⟨")", .reserved, 32⟩]

def literalNodes : List Tree :=
  [⟨.insert, "", [⟨.tableName, "", [.leaf .string "t"]⟩, ⟨.values, "", [.leaf .string "a 1b"]⟩]⟩]

/-- With a line feed in its place, the gap in the literal is the same space; and two texts fail at
the same letter. -/
theorem parse_ignores_layout_of_literal :
    words "insert into t values(\"a\u2003\u20031b\")".toList =
        words "\tinsert into  t\rvalues(\"a\n1b\") ".toList ∧
      parseText "\tinsert into  t\rvalues(\"a\n1b\") " =
        .ok ⟨true, .root, "", literalNodes⟩ ∧
      words "\u2003x  é y".toList = words "x\né\ty ".toList ∧
      ∃ c before after before' after', FailsAt "\u2003x  é y" ⟨6, "é y"⟩ before c after ∧
        FailsAt "x\né\ty " ⟨2, "é\ty "⟩ before' c after' ∧ visible before = visible before' := by
  have hWords : words "insert into t values(\"a\u2003\u20031b\")".toList =
      words "\tinsert into  t\rvalues(\"a\n1b\") ".toList := by decide +kernel
  have hLex : lex "insert into t values(\"a\u2003\u20031b\")" = .ok literalTokens := by
    decide +kernel
  have hRead : statement.read literalTokens = some ⟨literalTokens, literalNodes, []⟩ := by
    decide +kernel
  have hParse := parse_ignores_layout hWords
  rw [hLex] at hParse
  have hWords' : words "\u2003x  é y".toList = words "x\né\ty ".toList := by decide +kernel
  have hError : lex "\u2003x  é y" = .error ⟨6, "é y"⟩ := by decide +kernel
  have hError' : lex "x\né\ty " = .error ⟨2, "é\ty "⟩ := by decide +kernel
  have hFails := parse_ignores_layout hWords'
  rw [hError, hError'] at hFails
  refine ⟨hWords, ?_, hWords', hFails⟩
  cases hOther : lex "\tinsert into  t\rvalues(\"a\n1b\") " with
  | error e =>
    rw [hOther] at hParse
    exact hParse.elim
  | ok us =>
    rw [hOther] at hParse
    obtain ⟨-, answer, hAnswer, hAnswer'⟩ := hParse
    rw [parseText_of_read hLex hRead] at hAnswer
    cases hAnswer
    exact hAnswer'

end SqlReader
