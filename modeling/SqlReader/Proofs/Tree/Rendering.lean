import SqlReader.Proofs.Text.Runs
import SqlReader.Tree

/-! A tree can be read off its rendering, if the marks of a rendering do not occur in its values. -/

namespace SqlReader

theorem NodeKind.name_injective {k l : NodeKind} (h : k.name = l.name) : k = l := by
  cases k <;> cases l <;> first | rfl | exact absurd h (by decide)

theorem NodeKind.isAlpha_of_mem_name (k : NodeKind) : ∀ c ∈ k.name.toList, c.isAlpha = true :=
  List.all_eq_true.mp (by cases k <;> decide)

namespace Tree

mutual

/-- The values of all nodes. -/
def values : Tree → List String
  | ⟨_, value, children⟩ => value :: valuesAll children

def valuesAll : List Tree → List String
  | [] => []
  | child :: rest => values child ++ valuesAll rest

end

theorem valuesAll_append (ms ns : List Tree) :
    valuesAll (ms ++ ns) = valuesAll ms ++ valuesAll ns := by
  induction ms with
  | nil => rfl
  | cons tree ms ih => rw [List.cons_append, valuesAll, valuesAll, ih, List.append_assoc]

/-- The characters that a rendering puts around values and children. -/
def marks : List Char := ['(', ')', '[', ']', ',']

/-- None of the characters is a mark of a rendering. -/
def Unmarked (text : String) : Prop := ∀ c ∈ text.toList, c ∉ marks

/-! ### The parts of a rendering -/

/-- A value as it is rendered. -/
def valueText (value : String) : List Char :=
  if value.isEmpty then [] else '(' :: value.toList ++ [')']

/-- Trees that come after another one. -/
def laterText (trees : List Tree) : List Char :=
  trees.flatMap fun tree => ',' :: ' ' :: tree.render.toList

/-- Children as they are rendered. -/
def childrenText : List Tree → List Char
  | [] => []
  | child :: later => '[' :: child.render.toList ++ laterText later ++ [']']

theorem intercalate_render (tree : Tree) (later : List Tree) :
    (", ".intercalate (renderAll (tree :: later))).toList =
      tree.render.toList ++ laterText later := by
  induction later generalizing tree with
  | nil => simp [renderAll, laterText]
  | cons next later ih =>
    have hNext := ih next
    simp only [renderAll, String.intercalate_cons_cons, String.toList_append] at hNext ⊢
    rw [hNext]
    simp [laterText]

theorem render_toList (kind : NodeKind) (value : String) (children : List Tree) :
    (render ⟨kind, value, children⟩).toList =
      kind.name.toList ++ (valueText value ++ childrenText children) := by
  cases children with
  | nil =>
    simp [render, valueText, childrenText]
    split <;> simp
  | cons child later =>
    have hChildren := intercalate_render child later
    simp [render, valueText, childrenText, hChildren]
    split <;> simp

/-! ### The characters of a rendering -/

section Characters

variable {P : Char → Prop}

theorem forall_mem_valueText {value : String} (hMarks : ∀ c ∈ marks, P c)
    (hValue : ∀ c ∈ value.toList, P c) : ∀ c ∈ valueText value, P c := by
  rw [valueText]
  split
  · exact List.forall_mem_nil _
  · refine List.forall_mem_append.mpr ⟨List.forall_mem_cons.mpr ⟨?_, hValue⟩, ?_⟩
    · exact hMarks '(' (by decide)
    · exact List.forall_mem_singleton.mpr (hMarks ')' (by decide))

theorem forall_mem_childrenText {children : List Tree} (hMarks : ∀ c ∈ marks, P c)
    (hChildren : ∀ c ∈ laterText children, P c) : ∀ c ∈ childrenText children, P c := by
  cases children with
  | nil => exact List.forall_mem_nil _
  | cons child later =>
    simp only [laterText, List.flatMap_cons, List.cons_append, List.forall_mem_cons] at hChildren
    refine List.forall_mem_append.mpr ⟨List.forall_mem_cons.mpr ⟨?_, hChildren.2.2⟩, ?_⟩
    · exact hMarks '[' (by decide)
    · exact List.forall_mem_singleton.mpr (hMarks ']' (by decide))

/-- What is so of letters, marks, the space and the characters of the values is so of all
characters in a rendering. -/
theorem forall_mem_laterText (hLetters : ∀ c, c.isAlpha = true → P c) (hMarks : ∀ c ∈ marks, P c)
    (hSpace : P ' ') : (trees : List Tree) →
    (∀ value ∈ valuesAll trees, ∀ c ∈ value.toList, P c) → ∀ c ∈ laterText trees, P c
  | [], _ => List.forall_mem_nil _
  | ⟨kind, value, children⟩ :: trees, hValues => by
    simp only [valuesAll, values, List.cons_append, List.forall_mem_cons,
      List.forall_mem_append] at hValues
    obtain ⟨hValue, hChildren, hTrees⟩ := hValues
    have hName : ∀ c ∈ kind.name.toList, P c :=
      fun c hc => hLetters c (kind.isAlpha_of_mem_name c hc)
    have hInner := forall_mem_childrenText hMarks
      (forall_mem_laterText hLetters hMarks hSpace children hChildren)
    have hLater := forall_mem_laterText hLetters hMarks hSpace trees hTrees
    simp only [laterText, List.flatMap_cons, render_toList, List.cons_append, List.append_assoc,
      List.forall_mem_cons, List.forall_mem_append]
    exact ⟨hMarks ',' (by decide), hSpace, hName, forall_mem_valueText hMarks hValue, hInner,
      hLater⟩

theorem forall_mem_render {tree : Tree} (hLetters : ∀ c, c.isAlpha = true → P c)
    (hMarks : ∀ c ∈ marks, P c) (hSpace : P ' ')
    (hValues : ∀ value ∈ tree.values, ∀ c ∈ value.toList, P c) :
    ∀ c ∈ tree.render.toList, P c := by
  have hAll := forall_mem_laterText hLetters hMarks hSpace [tree]
    (by simpa [valuesAll] using hValues)
  simp only [laterText, List.flatMap_cons, List.flatMap_nil, List.append_nil,
    List.forall_mem_cons] at hAll
  exact hAll.2.2

end Characters

/-! ### Reading the parts -/

variable {kind kind' : NodeKind} {value value' : String} {rest rest' : List Char}

theorem name_append_injective (hEnds : ∀ c ∈ rest.head?, c.isAlpha = false)
    (hEnds' : ∀ c ∈ rest'.head?, c.isAlpha = false)
    (h : kind.name.toList ++ rest = kind'.name.toList ++ rest') : kind = kind' ∧ rest = rest' := by
  obtain ⟨hName, hRest⟩ := run_append_injective kind.isAlpha_of_mem_name kind'.isAlpha_of_mem_name
    hEnds hEnds' h
  exact ⟨NodeKind.name_injective (String.toList_inj.mp hName), hRest⟩

theorem valueText_empty : valueText "" = [] := rfl

theorem valueText_append (h : value ≠ "") :
    valueText value ++ rest = '(' :: (value.toList ++ ')' :: rest) := by
  rw [valueText, if_neg (by simpa using h)]
  simp

theorem value_append_injective (hValue : Unmarked value) (hValue' : Unmarked value')
    (hEnds : rest.head? ≠ some '(') (hEnds' : rest'.head? ≠ some '(')
    (h : valueText value ++ rest = valueText value' ++ rest') : value = value' ∧ rest = rest' := by
  have hClose {value : String} (hValue : Unmarked value) :
      ∀ c ∈ value.toList, (c != ')') = true := by
    intro c hc
    have hMark := hValue c hc
    simp only [marks, List.mem_cons, not_or] at hMark
    simpa using hMark.2.1
  by_cases hNil : value = ""
  · subst hNil
    by_cases hNil' : value' = ""
    · subst hNil'
      exact ⟨rfl, h⟩
    · rw [valueText_empty, valueText_append hNil', List.nil_append] at h
      exact absurd (congrArg List.head? h) hEnds
  · by_cases hNil' : value' = ""
    · subst hNil'
      rw [valueText_empty, valueText_append hNil, List.nil_append] at h
      exact absurd (congrArg List.head? h.symm) hEnds'
    · rw [valueText_append hNil, valueText_append hNil'] at h
      obtain ⟨hSame, hRest⟩ := run_append_injective (hClose hValue) (hClose hValue') (by simp)
        (by simp) (List.cons.inj h).2
      exact ⟨String.toList_inj.mp hSame, (List.cons.inj hRest).2⟩

/-- The text is at its end, or goes on with one of the characters. -/
def GoesOnWith (chars : List Char) (rest : List Char) : Prop := ∀ c ∈ rest.head?, c ∈ chars

theorem goesOn_laterText (h : GoesOnWith [']'] rest) (later : List Tree) :
    GoesOnWith [',', ']'] (laterText later ++ rest) := by
  intro c hc
  cases later with
  | nil => exact List.mem_cons_of_mem _ (h c hc)
  | cons next later =>
    cases hc
    exact List.mem_cons_self

theorem goesOn_childrenText (h : GoesOnWith [',', ']'] rest) (children : List Tree) :
    GoesOnWith ['[', ',', ']'] (childrenText children ++ rest) := by
  intro c hc
  cases children with
  | nil => exact List.mem_cons_of_mem _ (h c hc)
  | cons child later =>
    cases hc
    exact List.mem_cons_self

theorem goesOn_valueText (h : GoesOnWith ['[', ',', ']'] rest) (value : String) :
    GoesOnWith ['(', '[', ',', ']'] (valueText value ++ rest) := by
  intro c hc
  by_cases hNil : value = ""
  · subst hNil
    exact List.mem_cons_of_mem _ (h c hc)
  · rw [valueText_append hNil] at hc
    cases hc
    exact List.mem_cons_self

theorem GoesOnWith.head_ne {chars : List Char} (h : GoesOnWith chars rest) {c : Char}
    (hc : c ∉ chars) : rest.head? ≠ some c := fun hHead => hc (h c hHead)

/-- The children of a node can be read off, if they can where they come after one another. -/
theorem children_append_injective {children children' : List Tree}
    (hEnds : GoesOnWith [',', ']'] rest) (hEnds' : GoesOnWith [',', ']'] rest')
    (hLater : ∀ r r', GoesOnWith [']'] r → GoesOnWith [']'] r' →
      laterText children ++ r = laterText children' ++ r' → children = children' ∧ r = r')
    (h : childrenText children ++ rest = childrenText children' ++ rest') :
    children = children' ∧ rest = rest' := by
  have hOpen : '[' ∉ [',', ']'] := by decide
  cases children with
  | nil =>
    cases children' with
    | nil => exact ⟨rfl, h⟩
    | cons child' later' => exact absurd (congrArg List.head? h) (hEnds.head_ne hOpen)
  | cons child later =>
    cases children' with
    | nil => exact absurd (congrArg List.head? h.symm) (hEnds'.head_ne hOpen)
    | cons child' later' =>
      have hSame : laterText (child :: later) ++ ']' :: rest =
          laterText (child' :: later') ++ ']' :: rest' := by
        simpa [childrenText, laterText] using h
      obtain ⟨hChildren, hRest⟩ := hLater _ _ (by simp [GoesOnWith]) (by simp [GoesOnWith]) hSame
      exact ⟨hChildren, (List.cons.inj hRest).2⟩

/-- Trees that come after one another can be read off what is rendered of them. -/
theorem laterText_append_injective : (as bs : List Tree) → (rest rest' : List Char) →
    (∀ value ∈ valuesAll as, Unmarked value) → (∀ value ∈ valuesAll bs, Unmarked value) →
    GoesOnWith [']'] rest → GoesOnWith [']'] rest' →
    laterText as ++ rest = laterText bs ++ rest' → as = bs ∧ rest = rest'
  | [], [], _, _, _, _, _, _, h => ⟨rfl, h⟩
  | [], _ :: _, _, _, _, _, hRest, _, h =>
    absurd (congrArg List.head? h) (hRest.head_ne (by decide))
  | _ :: _, [], _, _, _, _, _, hRest', h =>
    absurd (congrArg List.head? h.symm) (hRest'.head_ne (by decide))
  | ⟨kind, value, children⟩ :: as, ⟨kind', value', children'⟩ :: bs, rest, rest', hAs, hBs,
      hRest, hRest', h => by
    simp only [valuesAll, values, List.cons_append, List.forall_mem_cons,
      List.forall_mem_append] at hAs hBs
    -- The text after each part begins with a character that the part cannot hold; the children are
    -- read as later trees are, up to the bracket that closes them.
    obtain ⟨hValue, hChildren, hLater⟩ := hAs
    obtain ⟨hValue', hChildren', hLater'⟩ := hBs
    have hEnds := goesOn_laterText hRest as
    have hEnds' := goesOn_laterText hRest' bs
    have hInner := goesOn_childrenText hEnds children
    have hInner' := goesOn_childrenText hEnds' children'
    have hLetters : ∀ c ∈ ['(', '[', ',', ']'], c.isAlpha = false := by simp
    have hSame : kind.name.toList ++ (valueText value ++ (childrenText children ++
          (laterText as ++ rest))) =
        kind'.name.toList ++ (valueText value' ++ (childrenText children' ++
          (laterText bs ++ rest'))) := by
      simpa [laterText, render_toList] using h
    obtain ⟨rfl, hAfterName⟩ := name_append_injective
      (fun c hc => hLetters c (goesOn_valueText hInner value c hc))
      (fun c hc => hLetters c (goesOn_valueText hInner' value' c hc)) hSame
    obtain ⟨rfl, hAfterValue⟩ := value_append_injective hValue hValue'
      (hInner.head_ne (by decide)) (hInner'.head_ne (by decide)) hAfterName
    obtain ⟨rfl, hAfterChildren⟩ := children_append_injective hEnds hEnds'
      (fun r r' => laterText_append_injective children children' r r' hChildren hChildren')
      hAfterValue
    obtain ⟨rfl, rfl⟩ := laterText_append_injective as bs rest rest' hLater hLater' hRest hRest'
      hAfterChildren
    exact ⟨rfl, rfl⟩

/-- Trees without marks in their values that are rendered alike are the same. -/
theorem render_injective {a b : Tree} (ha : ∀ value ∈ a.values, Unmarked value)
    (hb : ∀ value ∈ b.values, Unmarked value) (h : a.render = b.render) : a = b := by
  have hSame : laterText [a] ++ [] = laterText [b] ++ [] := by simp [laterText, h]
  have hAll := laterText_append_injective [a] [b] [] [] (by simpa [valuesAll] using ha)
    (by simpa [valuesAll] using hb) nofun nofun hSame
  exact (List.cons.inj hAll.1).1

end Tree

end SqlReader
