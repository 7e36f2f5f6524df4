import SqlReader.Proofs.Canonical
import SqlReader.Proofs.Grammar
import SqlReader.Proofs.Lexing.Keywords

/-! Texts that are cut into the tokens of a phrase wherever they stand before the end of a word.
The canonical text of a statement tree is such a text if the texts of its leaves are. -/

namespace SqlReader

open Text Phrase

/-- Wherever no word runs on from it, the text is cut into tokens that are a phrase for the
nodes. -/
def Prints (text : List Char) (a : Phrase) (nodes : List Tree) : Prop :=
  ∀ start rest, atWordEnd rest = true → ∃ ts, a.Derives ts nodes ∧ Cuts start text rest ts

variable {a b : Phrase} {u v : List Char} {ms ns : List Tree} {mark : String} {m c : Char}
  {cs rest : List Char} {start : Nat} {k : Keyword}

/-! ### Putting texts together -/

theorem atWordEnd_append (hv : atWordEnd v = true) (hRest : atWordEnd rest = true) :
    atWordEnd (v ++ rest) = true := by
  cases v with
  | nil => exact hRest
  | cons c v => exact hv

theorem Prints.seq (hu : Prints u a ms) (hv : Prints v b ns) (hEnd : atWordEnd v = true) :
    Prints (u ++ v) (.seq a b) (ms ++ ns) := by
  intro start rest hRest
  obtain ⟨ts, hTs, hFirst⟩ := hu start (v ++ rest) (atWordEnd_append hEnd hRest)
  obtain ⟨us, hUs, hSecond⟩ := hv (start + byteSize u) rest hRest
  exact ⟨ts ++ us, .seq hTs hUs, hFirst.append hSecond⟩

theorem Prints.imp (h : Prints u a ms) (hDerives : ∀ ts, a.Derives ts ms → b.Derives ts ns) :
    Prints u b ns := by
  intro start rest hRest
  obtain ⟨ts, hTs, hScan⟩ := h start rest hRest
  exact ⟨ts, hDerives ts hTs, hScan⟩

theorem Prints.node (h : Prints u a ns) (kind : NodeKind) :
    Prints u (a.node kind) [⟨kind, "", ns⟩] :=
  h.imp fun _ => .node

theorem Prints.altLeft (h : Prints u a ns) : Prints u (.alt a b) ns := h.imp fun _ => .altLeft

theorem Prints.altRight (h : Prints u b ns) : Prints u (.alt a b) ns := h.imp fun _ => .altRight

theorem Prints.optional (h : Prints u a ns) : Prints u (.optional a) ns :=
  h.imp fun _ => .optionalSome

theorem prints_nothing : Prints [] (.optional a) [] := fun _ _ _ => ⟨[], .optionalNone, cuts_nil⟩

theorem white_of_gap {space : List Char} (h : space = [] ∨ space = [' ']) :
    ∀ c ∈ space, isWhiteSpace c = true := by
  rcases h with rfl | rfl
  · simp
  · simp
    decide

theorem Prints.space (h : Prints u a ns) : Prints (' ' :: u) a ns := by
  intro start rest hRest
  obtain ⟨ts, hTs, hScan⟩ := h (start + byteSize [' ']) rest hRest
  exact ⟨ts, hTs, (cuts_space (white_of_gap (.inr rfl))).append hScan⟩

/-! ### Marks, words and lists -/

theorem prints_token {tokens : TokenClass}
    (hFirst : ∃ c ∈ u.head?, isWhiteSpace c = false)
    (hCut : ∀ rest, atWordEnd rest = true → ∃ kind, ruleLexeme (u ++ rest) = some (kind, u) ∧
      ∀ start, tokens.has ⟨String.ofList u, kind, start⟩ = true) :
    Prints u (.token tokens) [] := by
  intro start rest hRest
  obtain ⟨c, hc, hSpace⟩ := hFirst
  obtain ⟨kind, hLexeme, hHas⟩ := hCut rest hRest
  have hu : u ≠ [] := by
    rintro rfl
    cases hc
  have hHead : ∀ d ∈ u.head?, isWhiteSpace d = false := fun d hd => by
    rwa [Option.some.inj (hd.symm.trans hc)]
  exact ⟨[⟨String.ofList u, kind, start⟩], .token (hHas start), cuts_lexeme hu hHead hLexeme start⟩

theorem terminal_has {text : String} {kind : TokenKind} (hKind : kind.isEmitted = true) :
    (TokenClass.terminal text).has ⟨text, kind, start⟩ = true := by
  cases kind <;> simp_all [TokenClass.has, Token.isEnd, Token.hasText, sameIgnoringCase_refl,
    TokenKind.isEmitted]

theorem ruleLexeme_mark (cs : List Char) (hm : m ∈ '*' :: punctuation) :
    ∃ kind : TokenKind, kind.isEmitted = true ∧ ruleLexeme (m :: cs) = some (kind, [m]) := by
  obtain ⟨hName, hAscii, hLong, hAlpha⟩ := marks_outside_names m hm
  rw [ruleLexeme_cons (isWhiteSpace_mark hm), headKeyword?_of_head hAlpha hLong]
  by_cases hMark : m ∈ punctuation
  · exact ⟨.reserved, rfl, by simp [hMark]⟩
  · obtain rfl : m = '*' := (List.mem_cons.mp hm).resolve_right hMark
    exact ⟨.id, rfl, by simp [hMark]⟩

theorem derives_mark {kind : TokenKind} (hKind : kind.isEmitted = true) :
    (Phrase.mark mark).Derives [⟨mark, kind, start⟩] [] :=
  .token (terminal_has hKind)

/-- A mark ends by itself, whatever comes after it. -/
theorem cuts_mark (mark : String) (m : Char) (hText : mark.toList = [m])
    (hm : m ∈ '*' :: punctuation) (start : Nat) (rest : List Char) :
    ∃ kind : TokenKind, kind.isEmitted = true ∧ Cuts start [m] rest [⟨mark, kind, start⟩] := by
  obtain ⟨kind, hKind, hLexeme⟩ := ruleLexeme_mark rest hm
  have hMark : String.ofList [m] = mark := by rw [← hText, String.ofList_toList]
  have hSpace : ∀ c ∈ [m].head?, isWhiteSpace c = false := by simpa using isWhiteSpace_mark hm
  rw [← hMark]
  exact ⟨kind, hKind, cuts_lexeme (by simp) hSpace hLexeme start⟩

theorem prints_mark (mark : String) (m : Char) (hText : mark.toList = [m])
    (hm : m ∈ '*' :: punctuation) : Prints [m] (.mark mark) [] := by
  intro start rest _
  obtain ⟨kind, hKind, hScan⟩ := cuts_mark mark m hText hm start rest
  exact ⟨_, derives_mark hKind, hScan⟩

theorem Prints.afterMark (h : Prints u a ns) (mark : String) (m : Char)
    (hText : mark.toList = [m]) (hm : m ∈ '*' :: punctuation) :
    Prints (m :: u) (.seq (.mark mark) a) ns := by
  intro start rest hRest
  obtain ⟨kind, hKind, hScan⟩ := cuts_mark mark m hText hm start (u ++ rest)
  obtain ⟨us, hUs, hScan'⟩ := h (start + byteSize [m]) rest hRest
  have hMark : (Phrase.mark mark).Derives [⟨mark, kind, start⟩] [] := derives_mark hKind
  exact ⟨_, .seq hMark hUs, hScan.append hScan'⟩

theorem atWordEnd_space (cs : List Char) : atWordEnd (' ' :: cs) = true := by
  rw [atWordEnd, isWordChar_whiteSpace (by decide)]
  rfl

theorem atWordEnd_mark (hm : m ∈ '*' :: punctuation) (cs : List Char) :
    atWordEnd (m :: cs) = true := by
  obtain ⟨hName, hAscii, -⟩ := marks_outside_names m hm
  rw [atWordEnd, isWordChar_ascii hAscii, hName]
  rfl

theorem spells_spelling (k : Keyword) : spells k.spelling.toList k.spelling = true := by
  cases k <;> decide

theorem prints_keyword (k : Keyword) : Prints k.spelling.toList (word k) [] := by
  refine prints_token ?_ fun rest hRest => ⟨.reserved, ?_, fun start => ?_⟩
  · cases k <;> simp [Keyword.spelling] <;> decide
  · rw [ruleLexeme, firstMatch_keyword (spells_spelling k) hRest]
    rfl
  · rw [String.ofList_toList]
    exact terminal_has rfl

theorem Prints.afterKeyword (h : Prints u a ns) (k : Keyword) :
    Prints (k.spelling.toList ++ ' ' :: u) (.seq (word k) a) ns :=
  (prints_keyword k).seq h.space (atWordEnd_space u)

theorem prints_list {sql : Tree → String} {trees : List Tree}
    (h : Listed (fun tree => Prints (sql tree).toList a [tree]) trees) :
    Prints (Tree.listSql sql trees).toList (.list a) trees := by
  obtain ⟨hNe, hAll⟩ := h
  induction trees with
  | nil => exact absurd rfl hNe
  | cons tree trees ih =>
    obtain ⟨hTree, hTrees⟩ := List.forall_mem_cons.mp hAll
    cases trees with
    | nil =>
      rw [Tree.listSql, List.map_singleton, String.intercalate_singleton]
      exact hTree.imp fun _ => .listOne
    | cons tree' trees =>
      have hRest := ih (List.cons_ne_nil tree' trees) hTrees
      have hMore : Prints
          ((sql tree).toList ++ ',' :: ' ' :: (Tree.listSql sql (tree' :: trees)).toList)
          (.seq a (.seq (.mark ",") (.list a))) (tree :: tree' :: trees) :=
        hTree.seq (hRest.space.afterMark "," ',' rfl (by decide)) (atWordEnd_mark (by decide) _)
      have hText : (Tree.listSql sql (tree :: tree' :: trees)).toList =
          (sql tree).toList ++ ',' :: ' ' :: (Tree.listSql sql (tree' :: trees)).toList := by
        simp [Tree.listSql]
      rw [hText]
      refine hMore.imp fun ts hTs => ?_
      obtain ⟨us, vs, ms, ms', hUs, hVs, rfl, hNodes⟩ := derives_seq.mp hTs
      obtain ⟨ws, xs, ls, ls', hWs, hXs, rfl, rfl⟩ := derives_seq.mp hVs
      obtain ⟨t, ht, rfl, rfl⟩ := derives_token.mp hWs
      rw [List.nil_append] at hNodes
      rw [hNodes]
      exact .listMore hUs ht hXs

/-! ### Statements -/

/-- The texts that can be read back as what they are. -/
def LeafTexts.printable : LeafTexts where
  name text := Prints text.toList userDefinedName [.leaf .string text]
  int text := Prints text.toList signedInteger [.leaf .int text]
  literal text := Prints ('"' :: (text.toList ++ ['"'])) characterStringLiteral [.leaf .string text]

open LeafTexts

variable {tree table : Tree} {trees : List Tree}

theorem prints_name (h : printable.IsName tree) :
    Prints tree.value.toList userDefinedName [tree] := by
  obtain ⟨name, hName, rfl⟩ := h
  exact hName

theorem prints_item (h : printable.IsItem tree) :
    Prints tree.itemSql.toList columnName [tree] := by
  cases h with
  | column hColumn =>
    obtain ⟨name, hName, rfl⟩ := hColumn
    exact hName.altRight
  | @qualified table column hTable hColumn =>
    have hDot := (prints_name hColumn).afterMark "." '.' rfl (by decide)
    have hNames : Prints (table.value.toList ++ ']' :: '.' :: column.value.toList)
        (.seq userDefinedName (.seq (.mark "]") (.seq (.mark ".") userDefinedName)))
        [table, column] :=
      (prints_name hTable).seq (hDot.afterMark "]" ']' rfl (by decide))
        (atWordEnd_mark (by decide) _)
    have hSql : (Tree.itemSql ⟨.qualifiedName, "", [table, column]⟩).toList =
        '[' :: (table.value.toList ++ ']' :: '.' :: column.value.toList) := by
      simp [Tree.itemSql]
    rw [hSql]
    exact ((hNames.node .qualifiedName).afterMark "[" '[' rfl (by decide)).altLeft

theorem prints_value (h : printable.IsValue tree) :
    Prints tree.valueSql.toList insertValue [tree] := by
  cases h with
  | @literal text hText =>
    have hSql : (Tree.valueSql (.leaf .string text)).toList = '"' :: (text.toList ++ ['"']) := by
      simp [Tree.valueSql, Tree.leaf]
    rw [hSql]
    exact hText.altLeft
  | int hInt => exact hInt.altRight

theorem prints_select {items : List Tree} (hItems : Prints u selectList items)
    (hTables : Listed printable.IsName trees) :
    Prints (Keyword.SELECT.spelling.toList ++ ' ' :: (u ++ ' ' :: (Keyword.FROM.spelling.toList ++
      ' ' :: (Tree.listSql Tree.value trees).toList))) selectStatement
      [⟨.select, "", items⟩, ⟨.tableName, "", trees⟩] := by
  have hNames := (prints_list (hTables.imp fun _ => prints_name)).node .tableName
  exact ((hItems.node .select).seq (hNames.afterKeyword .FROM).space
    (atWordEnd_space _)).afterKeyword .SELECT

/-- The canonical text of an insertion; `u` is what stands between the table and the values. -/
theorem prints_insert (hTable : printable.IsName table) (hColumns : Prints u insertColumns ns)
    (hEnd : atWordEnd u = true) (hValues : Listed printable.IsValue trees) :
    Prints (Keyword.INSERT.spelling.toList ++ ' ' :: (Keyword.INTO.spelling.toList ++ ' ' ::
      (table.value.toList ++ (u ++ ' ' :: (Keyword.VALUES.spelling.toList ++ ' ' ::
        '(' :: ((Tree.listSql Tree.valueSql trees).toList ++ [')'])))))) insertStatement
      [⟨.insert, "", ⟨.tableName, "", [table]⟩ :: (ns ++ [⟨.values, "", trees⟩])⟩] := by
  have hList : Prints ((Tree.listSql Tree.valueSql trees).toList ++ [')'])
      (.node (.seq (.list insertValue) (.mark ")")) .values) [⟨.values, "", trees⟩] := by
    have hClose := (prints_list (hValues.imp fun _ => prints_value)).seq
      (prints_mark ")" ')' rfl (by decide))
      (atWordEnd_mark (by decide) [])
    rw [List.append_nil] at hClose
    exact hClose.node .values
  have hAfter := hColumns.seq ((hList.afterMark "(" '(' rfl (by decide)).afterKeyword
    .VALUES).space (atWordEnd_space _)
  have hInsert := (((prints_name hTable).node .tableName).seq hAfter
    (by cases u with | nil => exact atWordEnd_space _ | cons c u => exact hEnd)).node .insert
  exact (hInsert.afterKeyword .INTO).afterKeyword .INSERT

theorem prints_statement (h : printable.IsStatement tree) :
    Prints tree.sql.toList statement tree.children := by
  cases h with
  | @selectAll tables hTables =>
    have hStar : Prints ['*'] allColumns [.leaf .string "*"] :=
      (prints_mark "*" '*' rfl (by decide)).imp fun _ => .leaf
    have hText := prints_select hStar.altLeft hTables
    simpa [statement, Tree.sql, Tree.listSql, Tree.itemSql, Tree.leaf, Keyword.spelling] using
      hText.altRight
  | @select items tables hItems hTables =>
    have hText := prints_select (prints_list (hItems.imp fun _ => prints_item)).altRight hTables
    simpa [statement, Tree.sql, Keyword.spelling] using hText.altRight
  | @insert table values hTable hValues =>
    have hText := prints_insert hTable prints_nothing rfl hValues
    simpa [statement, Tree.sql, Keyword.spelling] using hText.altLeft
  | @insertColumns table columns values hTable hColumns hValues =>
    have hNames := (prints_list (hColumns.imp fun _ => prints_name)).seq
      (prints_mark ")" ')' rfl (by decide)) (atWordEnd_mark (by decide) [])
    rw [List.append_nil] at hNames
    have hList := ((hNames.node .columns).afterMark "(" '(' rfl (by decide)).optional.space
    have hText := prints_insert hTable hList (atWordEnd_space _) hValues
    simpa [statement, Tree.sql, Keyword.spelling] using hText.altLeft

end SqlReader
