import SqlReader.Proofs.Grammar.Likeness

/-! A parse looks at the lexemes of its tokens, and at whether a token ends the input.  Their other
categories do not count, and where they stand shows in the spaces inside literals only. -/

namespace SqlReader

open Phrase Cursor

/-- What of a token decides how it is parsed: its lexeme, and whether it ends the input. -/
def Token.matter (t : Token) : String × Bool := (t.value, t.isEnd)

/-- The text without its spaces. -/
def withoutSpaces (text : String) : String := String.ofList (text.toList.filter (· != ' '))

mutual

/-- The tree with no spaces in the strings that stand right under a node of values; `above` is the
kind of the node above the tree. -/
def Tree.squeeze (above : NodeKind) : Tree → Tree
  | ⟨kind, value, children⟩ =>
    ⟨kind, if above = .values ∧ kind = .string then withoutSpaces value else value,
      squeezeAll kind children⟩

def Tree.squeezeAll (above : NodeKind) : List Tree → List Tree
  | [] => []
  | child :: rest => child.squeeze above :: squeezeAll above rest

end

variable {ts us : List Token}

theorem Tree.squeezeAll_eq_map (above : NodeKind) (trees : List Tree) :
    squeezeAll above trees = trees.map (squeeze above) := by
  induction trees with
  | nil => rfl
  | cons tree rest ih => rw [squeezeAll, ih, List.map_cons]

/-- Without spaces nothing is left of where the tokens of a literal stand. -/
theorem filter_spaced (lastStop : Option Nat) (ts : List Token) :
    (spaced lastStop ts).filter (· != ' ') =
      (ts.map fun t => t.value.toList.filter (· != ' ')).flatten := by
  induction ts generalizing lastStop with
  | nil => rfl
  | cons t ts ih =>
    have hGap : (gap lastStop t.start).filter (· != ' ') = [] := by
      rcases gap_cases lastStop t.start with h | h <;> rw [h] <;> rfl
    rw [spaced, List.filter_append, List.filter_append, hGap, ih, List.nil_append, List.map_cons,
      List.flatten_cons]

theorem values_of_matter (h : ts.map Token.matter = us.map Token.matter) :
    ts.map Token.value = us.map Token.value := by
  have hValues := congrArg (List.map Prod.fst) h
  rw [List.map_map, List.map_map] at hValues
  exact hValues

theorem TokenClass.has_of_matter (t u : Token) (h : t.matter = u.matter) (c : TokenClass) :
    c.has t = c.has u := by
  obtain ⟨hValue, hEnd⟩ := Prod.mk.inj h
  cases c <;> simp only [TokenClass.has, Token.hasText, hValue, hEnd]

theorem valueOf_of_matter (h : ts.map Token.matter = us.map Token.matter) :
    valueOf ts = valueOf us := by
  rw [valueOf, valueOf, values_of_matter h]

theorem Tree.node_of_eq {kind : NodeKind} {ms ns : List Tree} (h : List.Forall₂ Eq ms ns)
    (_above : NodeKind) : (⟨kind, "", ms⟩ : Tree) = ⟨kind, "", ns⟩ := by
  rw [List.forall₂_eq_eq_eq] at h
  rw [h]

/-! ### The likenesses -/

/-- Token lists are alike if they have the same lexemes and ends of input, and then they are read as
trees that differ in the spaces of literals only. -/
def Likeness.matter : Likeness where
  tokens ts us := ts.map Token.matter = us.map Token.matter
  tree above a b := a.squeeze above = b.squeeze above
  has h := forall₂_of_map TokenClass.has_of_matter h
  take h n := by rw [List.map_take, h, List.map_take]
  drop h n := by rw [List.map_drop, h, List.map_drop]
  node h above := by
    have hChildren := List.forall₂_map_right_iff.mpr (List.forall₂_map_left_iff.mpr h)
    rw [List.forall₂_eq_eq_eq] at hChildren
    rw [Tree.squeeze, Tree.squeeze, Tree.squeezeAll_eq_map, Tree.squeezeAll_eq_map, hChildren]

theorem statement_respects_matter : statement.Respects .matter .root := by
  refine Likeness.statement_respects (fun above kind ts us h => ?_) rfl fun ts us h => ?_
  · show (Tree.leaf kind (valueOf ts)).squeeze above = (Tree.leaf kind (valueOf us)).squeeze above
    rw [valueOf_of_matter h]
  · have hInside : Likeness.matter.tokens (ts.drop 1).dropLast (us.drop 1).dropLast :=
      Likeness.dropLast_alike (Likeness.matter.drop h 1)
    have hLetters := congrArg (List.map fun value => value.toList.filter (· != ' '))
      (values_of_matter hInside)
    rw [List.map_map, List.map_map] at hLetters
    have hSqueezed : withoutSpaces (quotedValue ts) = withoutSpaces (quotedValue us) := by
      rw [withoutSpaces, withoutSpaces, quotedValue, quotedValue, String.toList_ofList,
        String.toList_ofList, filter_spaced, filter_spaced]
      exact congrArg (fun letters => String.ofList letters.flatten) hLetters
    show Tree.squeeze .values (.leaf .string (quotedValue ts)) =
      Tree.squeeze .values (.leaf .string (quotedValue us))
    simp [Tree.leaf, Tree.squeeze, hSqueezed]

/-- Token lists are alike if the tokens stand at the same places too, and then they are read as the
same trees. -/
def Likeness.places : Likeness where
  tokens ts us := ts.map (fun t => (t.matter, t.start)) = us.map fun t => (t.matter, t.start)
  tree _ := Eq
  has h := forall₂_of_map (fun t u hSame => TokenClass.has_of_matter t u (Prod.mk.inj hSame).1) h
  take h n := by rw [List.map_take, h, List.map_take]
  drop h n := by rw [List.map_drop, h, List.map_drop]
  node := Tree.node_of_eq

/-- A literal is made of the lexemes of its tokens and of the places where they start. -/
theorem spaced_of_places (lastStop : Option Nat) (h : Likeness.places.tokens ts us) :
    spaced lastStop ts = spaced lastStop us := by
  have hTokens : List.Forall₂ (fun t u : Token => t.value = u.value ∧ t.start = u.start) ts us := by
    refine Likeness.forall₂_of_map (fun t u hSame => ?_) h
    obtain ⟨hMatter, hStart⟩ := Prod.mk.inj hSame
    exact ⟨(Prod.mk.inj hMatter).1, hStart⟩
  clear h
  induction hTokens generalizing lastStop with
  | nil => rfl
  | cons hSame _ ih =>
    rw [spaced, spaced, Token.stop, Token.stop, hSame.1, hSame.2, ih]

theorem statement_respects_places : statement.Respects .places .root := by
  refine Likeness.statement_respects (fun above kind ts us h => ?_) rfl fun ts us h => ?_
  · have hMatter := congrArg (List.map Prod.fst) h
    rw [List.map_map, List.map_map] at hMatter
    exact congrArg (Tree.leaf kind) (valueOf_of_matter hMatter)
  · have hInside : Likeness.places.tokens (ts.drop 1).dropLast (us.drop 1).dropLast :=
      Likeness.dropLast_alike (Likeness.places.drop h 1)
    rw [quotedValue, quotedValue, spaced_of_places none hInside]
    rfl

/-- Tokens with the same lexemes, of which the same ones end the input, are parsed with the same
answer and as many of them taken, whatever their other categories are and wherever they stand.  The
trees are the same but for spaces in the strings among the values of an insertion; if the tokens
start at the same places, they are the same. -/
theorem parse_ignores_kinds_and_places (h : ts.map Token.matter = us.map Token.matter) :
    ∃ o o', parse ts = .ok o ∧ parse us = .ok o' ∧
      o.answer.accepted = o'.answer.accepted ∧
      o.parser.cursor.place = o'.parser.cursor.place ∧
      o.answer.tree.squeeze .root = o'.answer.tree.squeeze .root ∧
      (ts.map Token.start = us.map Token.start → o.answer.tree = o'.answer.tree) := by
  obtain ⟨o, o', hParse, hParse', hAccepted, hPlace, hTree⟩ :=
    Likeness.parse_alike (L := .matter) statement_respects_matter h
  refine ⟨o, o', hParse, hParse', hAccepted, hPlace, hTree .root, fun hStart => ?_⟩
  have hPlaces : Likeness.places.tokens ts us := by
    have hZip := congrArg₂ List.zip h hStart
    rw [List.zip_map', List.zip_map'] at hZip
    exact hZip
  obtain ⟨o₁, o₁', hSame, hSame', -, -, hEqual⟩ :=
    Likeness.parse_alike (L := .places) statement_respects_places hPlaces
  rw [hParse, Except.ok.injEq] at hSame
  rw [hParse', Except.ok.injEq] at hSame'
  rw [hSame, hSame']
  exact hEqual .root

/-- The tokens of an insertion of a literal of two words, all of one category, the second word
starting at byte `start`; after it a token that ends the input. -/
def twoWords (kind : TokenKind) (start : Nat) : List Token :=
  [⟨"INSERT", kind, 0⟩, ⟨"INTO", kind, 7⟩, ⟨"t", kind, 12⟩, ⟨"VALUES", kind, 14⟩, ⟨"(", kind, 20⟩,
    ⟨"\"", kind, 21⟩, ⟨"a", kind, 22⟩, ⟨"b", kind, start⟩, ⟨"\"", kind, start + 1⟩,
    ⟨")", kind, start + 2⟩, ⟨"b", .endOfInput, start + 3⟩]

def twoWordsTree (literal : String) : Tree :=
  ⟨.root, "", [⟨.insert, "",
    [⟨.tableName, "", [.leaf .string "t"]⟩, ⟨.values, "", [.leaf .string literal]⟩]⟩]⟩

/-- Where the second word touches the first, the literal has no space, and nothing else changes;
where only the category of the tokens is another, nothing does. -/
theorem parse_ignores_kinds_and_places_of_insertion :
    (twoWords .reserved 25).map Token.matter = (twoWords .discard 23).map Token.matter ∧
      ∃ o o' o'', parse (twoWords .reserved 25) = .ok o ∧ parse (twoWords .discard 23) = .ok o' ∧
        parse (twoWords .discard 25) = .ok o'' ∧
        o.answer.tree = twoWordsTree "a b" ∧ o'.answer.tree = twoWordsTree "ab" ∧
        o'.answer.accepted = true ∧ o'.parser.cursor.place = ⟨10, 0⟩ ∧
        o'.answer.tree.squeeze .root = (twoWordsTree "a b").squeeze .root ∧
        o''.answer.tree = twoWordsTree "a b" := by
  have hRead : statement.read (twoWords .reserved 25) =
      some ⟨(twoWords .reserved 25).take 10, (twoWordsTree "a b").children,
        (twoWords .reserved 25).drop 10⟩ := by decide +kernel
  have hRead' : statement.read (twoWords .discard 23) =
      some ⟨(twoWords .discard 23).take 10, (twoWordsTree "ab").children,
        (twoWords .discard 23).drop 10⟩ := by decide +kernel
  obtain ⟨p, hParse, hFound⟩ := parse_eq_read (twoWords .reserved 25)
  obtain ⟨p', hParse', hFound'⟩ := parse_eq_read (twoWords .discard 23)
  rw [hRead] at hFound
  rw [hRead'] at hFound'
  have hOther : (twoWords .reserved 25).map Token.matter =
      (twoWords .discard 23).map Token.matter := rfl
  have hSamePlaces : (twoWords .reserved 25).map Token.matter =
      (twoWords .discard 25).map Token.matter := rfl
  obtain ⟨o, o', ho, ho', hAccepted, hPlace, hTree, -⟩ := parse_ignores_kinds_and_places hOther
  obtain ⟨q, o'', hq, ho'', -, -, -, hSame⟩ := parse_ignores_kinds_and_places hSamePlaces
  rw [hParse, Except.ok.injEq] at ho hq
  rw [hParse', Except.ok.injEq] at ho'
  subst ho hq ho'
  rw [hFound.1] at hAccepted hTree
  rw [hFound.2] at hPlace
  refine ⟨hOther, p, p', o'', hParse, hParse', ho'', by rw [hFound.1]; rfl, by rw [hFound'.1]; rfl,
    hAccepted.symm, hPlace.symm, hTree.symm, ?_⟩
  rw [← hSame rfl, hFound.1]
  rfl

end SqlReader
