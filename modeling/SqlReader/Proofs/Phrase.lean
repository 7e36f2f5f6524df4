import SqlReader.Text.Number
import SqlReader.Token
import SqlReader.Tree

/-! Phrases: grammars over tokens, as expressions.  `Derives` reads an expression as a context-free
grammar, in which a choice is a choice of any alternative and a repetition may end anywhere; a
derivation also gives the nodes that its tokens stand for.  `read` reads an expression as a
recursive descent, which tries alternatives in order and repeats as long as it can. -/

namespace SqlReader

/-- A set of tokens that a grammar names. -/
inductive TokenClass where
  /-- The tokens spelled like a word or mark of the language, in any case. -/
  | terminal (text : String)
  /-- A letter, followed by letters and numbers. -/
  | name
  /-- The digits `0` to `9`, at least one. -/
  | digits
  /-- Letters and numbers, at least one. -/
  | plain
  deriving DecidableEq, Repr

/-- A letter, followed by letters and numbers. -/
def isName : List Char → Bool
  | [] => false
  | c :: cs => Text.isAlphabetic c && cs.all Text.isAlphanumeric

/-- At least one character, and all of them pass the test. -/
def isRun (test : Char → Bool) (cs : List Char) : Bool := !cs.isEmpty && cs.all test

theorem isRun_iff {test : Char → Bool} {cs : List Char} :
    isRun test cs = true ↔ cs ≠ [] ∧ ∀ c ∈ cs, test c = true := by
  simp [isRun]

/-- The token is in the class.  The category of a token counts for terminals only, and there only
in that the end of the input is none. -/
def TokenClass.has : TokenClass → Token → Bool
  | terminal text, token => !token.isEnd && token.hasText text
  | name, token => isName token.value.toList
  | digits, token => isRun Char.isDigit token.value.toList
  | plain, token => isRun Text.isAlphanumeric token.value.toList

inductive Phrase where
  /-- One token of a class. -/
  | token (tokens : TokenClass)
  /-- Any number of tokens of a class. -/
  | run (tokens : TokenClass)
  | seq (first second : Phrase)
  | alt (first second : Phrase)
  | optional (phrase : Phrase)
  /-- One or more items with commas between them. -/
  | list (item : Phrase)
  /-- A phrase whose nodes stand under one node of the given kind. -/
  | node (phrase : Phrase) (kind : NodeKind)
  /-- A phrase that stands for one leaf, whose value is made of the phrase's tokens. -/
  | leaf (phrase : Phrase) (kind : NodeKind) (value : List Token → String)

namespace Phrase

/-- One token spelled like a mark of the language. -/
def mark (text : String) : Phrase := token (.terminal text)

def comma : TokenClass := .terminal ","

/-- The tokens are a phrase that stands for the nodes. -/
inductive Derives : Phrase → List Token → List Tree → Prop
  | token {tokens : TokenClass} {t : Token} :
      tokens.has t = true → Derives (token tokens) [t] []
  | run {tokens : TokenClass} {ts : List Token} :
      (∀ t ∈ ts, tokens.has t = true) → Derives (run tokens) ts []
  | seq {a b : Phrase} {ts us : List Token} {ms ns : List Tree} :
      Derives a ts ms → Derives b us ns → Derives (seq a b) (ts ++ us) (ms ++ ns)
  | altLeft {a b : Phrase} {ts : List Token} {ns : List Tree} :
      Derives a ts ns → Derives (alt a b) ts ns
  | altRight {a b : Phrase} {ts : List Token} {ns : List Tree} :
      Derives b ts ns → Derives (alt a b) ts ns
  | optionalNone {a : Phrase} : Derives (optional a) [] []
  | optionalSome {a : Phrase} {ts : List Token} {ns : List Tree} :
      Derives a ts ns → Derives (optional a) ts ns
  | listOne {a : Phrase} {ts : List Token} {ns : List Tree} :
      Derives a ts ns → Derives (list a) ts ns
  | listMore {a : Phrase} {t : Token} {ts us : List Token} {ms ns : List Tree} :
      Derives a ts ms → comma.has t = true → Derives (list a) us ns →
      Derives (list a) (ts ++ t :: us) (ms ++ ns)
  | node {a : Phrase} {kind : NodeKind} {ts : List Token} {ns : List Tree} :
      Derives a ts ns → Derives (node a kind) ts [⟨kind, "", ns⟩]
  | leaf {a : Phrase} {kind : NodeKind} {value : List Token → String} {ts : List Token}
      {ns : List Tree} :
      Derives a ts ns → Derives (leaf a kind value) ts [.leaf kind (value ts)]

section Inversion

variable {a b : Phrase} {ts : List Token} {ns : List Tree}

theorem derives_token {tokens : TokenClass} : (token tokens).Derives ts ns ↔
    ∃ t, tokens.has t = true ∧ ts = [t] ∧ ns = [] := by
  constructor
  · rintro ⟨⟩
    exact ⟨_, by assumption, rfl, rfl⟩
  · rintro ⟨t, ht, rfl, rfl⟩
    exact .token ht

theorem derives_run {tokens : TokenClass} : (run tokens).Derives ts ns ↔
    (∀ t ∈ ts, tokens.has t = true) ∧ ns = [] := by
  constructor
  · rintro ⟨⟩
    exact ⟨by assumption, rfl⟩
  · rintro ⟨ht, rfl⟩
    exact .run ht

theorem derives_seq : (seq a b).Derives ts ns ↔ ∃ us vs ms ms',
    a.Derives us ms ∧ b.Derives vs ms' ∧ ts = us ++ vs ∧ ns = ms ++ ms' := by
  constructor
  · rintro ⟨⟩
    exact ⟨_, _, _, _, by assumption, by assumption, rfl, rfl⟩
  · rintro ⟨us, vs, ms, ms', ha, hb, rfl, rfl⟩
    exact .seq ha hb

theorem derives_alt : (alt a b).Derives ts ns ↔ a.Derives ts ns ∨ b.Derives ts ns := by
  constructor
  · intro h
    cases h with
    | altLeft h => exact .inl h
    | altRight h => exact .inr h
  · exact fun h => h.elim .altLeft .altRight

theorem derives_optional : (optional a).Derives ts ns ↔
    ts = [] ∧ ns = [] ∨ a.Derives ts ns := by
  constructor
  · intro h
    cases h with
    | optionalNone => exact .inl ⟨rfl, rfl⟩
    | optionalSome h => exact .inr h
  · rintro (⟨rfl, rfl⟩ | h)
    · exact .optionalNone
    · exact .optionalSome h

theorem derives_node {kind : NodeKind} : (node a kind).Derives ts ns ↔
    ∃ ms, a.Derives ts ms ∧ ns = [⟨kind, "", ms⟩] := by
  constructor
  · rintro ⟨⟩
    exact ⟨_, by assumption, rfl⟩
  · rintro ⟨ms, h, rfl⟩
    exact .node h

theorem derives_leaf {kind : NodeKind} {value : List Token → String} :
    (leaf a kind value).Derives ts ns ↔
      ∃ ms, a.Derives ts ms ∧ ns = [.leaf kind (value ts)] := by
  constructor
  · rintro ⟨⟩
    exact ⟨_, by assumption, rfl⟩
  · rintro ⟨ms, h, rfl⟩
    exact .leaf h

end Inversion

/-- The phrase may consist of no tokens. -/
def nullable : Phrase → Bool
  | token _ => false
  | run _ | optional _ => true
  | seq a b => a.nullable && b.nullable
  | alt a b => a.nullable || b.nullable
  | list a | node a _ | leaf a _ _ => a.nullable

/-- The phrase may begin with the token. -/
def first : Phrase → Token → Bool
  | token tokens, t | run tokens, t => tokens.has t
  | seq a b, t => a.first t || a.nullable && b.first t
  | alt a b, t => a.first t || b.first t
  | list a, t => a.first t || a.nullable && comma.has t
  | optional a, t | node a _, t | leaf a _ _, t => a.first t

/-- A phrase at the head of the tokens: its tokens, the nodes it stands for, and the tokens after
it. -/
structure Match where
  taken : List Token
  nodes : List Tree
  rest : List Token
  deriving DecidableEq, Repr

/-- Two phrases, the second at the head of what the first has left. -/
def Match.append (m n : Match) : Match := ⟨m.taken ++ n.taken, m.nodes ++ n.nodes, n.rest⟩

/-- One or more items, and another after each comma.  Every comma takes a token, so `bound` may be
the number of tokens. -/
def readList (item : List Token → Option Match) : (bound : Nat) → List Token → Option Match
  | 0, ts => item ts
  | bound + 1, ts => do
    let m ← item ts
    match m.rest with
    | [] => return m
    | t :: rest =>
      if comma.has t then
        return m.append (Match.append ⟨[t], [], rest⟩ (← readList item bound rest))
      else return m

/-- The phrase at the head of the tokens.  The first alternative that is found is taken, a phrase
that may be left out is looked for if its first token is there, and a repetition goes on as long
as there is more. -/
def read : Phrase → List Token → Option Match
  | token _, [] => none
  | token tokens, t :: rest => if tokens.has t then some ⟨[t], [], rest⟩ else none
  | run tokens, ts => some ⟨ts.takeWhile tokens.has, [], ts.dropWhile tokens.has⟩
  | seq a b, ts => do
    let m ← a.read ts
    return m.append (← b.read m.rest)
  | alt a b, ts => a.read ts <|> b.read ts
  | optional a, ts => if ts.head?.any a.first then a.read ts else some ⟨[], [], ts⟩
  | list a, ts => readList a.read ts.length ts
  | node a kind, ts => do
    let m ← a.read ts
    return { m with nodes := [⟨kind, "", m.nodes⟩] }
  | leaf a kind value, ts => do
    let m ← a.read ts
    return { m with nodes := [.leaf kind (value m.taken)] }

end Phrase

end SqlReader
