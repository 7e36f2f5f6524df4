import SqlReader.Proofs.Canonical.Reread

/-! The trees that phrases stand for, where their tokens were cut from a text.  They have the
shapes of statement trees, and the texts in their leaves can be read back. -/

namespace SqlReader

open Phrase LeafTexts

/-- Where the tokens of a text are the phrase, its nodes have the property. -/
def Gives (a : Phrase) (P : List Tree → Prop) : Prop :=
  ∀ ts ns, Lexed ts → a.Derives ts ns → P ns

/-- One tree of a sort. -/
def One (sort : Tree → Prop) (ns : List Tree) : Prop := ∃ tree, ns = [tree] ∧ sort tree

variable {a b : Phrase} {P Q R : List Tree → Prop} {sort : Tree → Prop} {kind : NodeKind}

/-! ### Putting phrases together -/

theorem Gives.seq (ha : Gives a P) (hb : Gives b Q) (h : ∀ ms ns, P ms → Q ns → R (ms ++ ns)) :
    Gives (.seq a b) R := by
  intro ts ns hTs hDerives
  obtain ⟨us, vs, ms, ms', hUs, hVs, rfl, rfl⟩ := derives_seq.mp hDerives
  exact h ms ms' (ha us ms hTs.left hUs) (hb vs ms' hTs.right hVs)

theorem gives_mark (mark : String) : Gives (.mark mark) (· = []) := by
  intro ts ns _ hDerives
  obtain ⟨t, -, -, hNodes⟩ := derives_token.mp hDerives
  exact hNodes

theorem Gives.afterMark (hb : Gives b Q) (mark : String) : Gives (.seq (.mark mark) b) Q :=
  (gives_mark mark).seq hb fun ms ns hMark hQ => by rwa [hMark]

theorem Gives.beforeMark (ha : Gives a P) (mark : String) : Gives (.seq a (.mark mark)) P :=
  ha.seq (gives_mark mark) fun ms ns hP hMark => by rwa [hMark, List.append_nil]

theorem Gives.node (ha : Gives a P) (h : ∀ ns, P ns → Q [⟨kind, "", ns⟩]) :
    Gives (.node a kind) Q := by
  intro ts ns hTs hDerives
  obtain ⟨ms, hMs, rfl⟩ := derives_node.mp hDerives
  exact h ms (ha ts ms hTs hMs)

theorem Gives.alt (ha : Gives a P) (hb : Gives b P) : Gives (.alt a b) P := by
  intro ts ns hTs hDerives
  rcases derives_alt.mp hDerives with h | h
  · exact ha ts ns hTs h
  · exact hb ts ns hTs h

theorem Gives.optional (hNone : P []) (ha : Gives a P) : Gives (.optional a) P := by
  intro ts ns hTs hDerives
  rcases derives_optional.mp hDerives with ⟨-, rfl⟩ | h
  · exact hNone
  · exact ha ts ns hTs h

theorem Gives.imp (ha : Gives a P) (h : ∀ ns, P ns → Q ns) : Gives a Q := fun ts ns hTs hDerives =>
  h ns (ha ts ns hTs hDerives)

theorem Gives.list (ha : Gives a (One sort)) : Gives (.list a) (Listed sort) := by
  intro ts ns hTs hDerives
  generalize hList : Phrase.list a = b at hDerives
  induction hDerives with
  | listOne hFirst =>
    cases hList
    obtain ⟨tree, rfl, hTree⟩ := ha _ _ hTs hFirst
    exact ⟨by simp, by simpa using hTree⟩
  | listMore hFirst _ _ _ ih =>
    cases hList
    obtain ⟨tree, rfl, hTree⟩ := ha _ _ hTs.left hFirst
    obtain ⟨-, hTrees⟩ := ih hTs.right.tail rfl
    exact ⟨by simp, List.forall_mem_cons.mpr ⟨hTree, hTrees⟩⟩
  | _ => cases hList

/-! ### Names and values -/

theorem userDefinedName_gives : Gives userDefinedName (One printable.IsName) := by
  intro ts ns hTs hDerives
  obtain ⟨ms, hMs, rfl⟩ := derives_leaf.mp hDerives
  obtain ⟨t, hName, rfl, -⟩ := derives_token.mp hMs
  rw [valueOf_singleton]
  exact ⟨_, rfl, t.value, hTs.name hName, rfl⟩

theorem columnName_gives : Gives columnName (One printable.IsItem) := by
  have hNames : Gives (.seq userDefinedName (.seq (.mark "]") (.seq (.mark ".") userDefinedName)))
      fun ns => ∃ table column, ns = [table, column] ∧ printable.IsName table ∧
        printable.IsName column := by
    refine userDefinedName_gives.seq ((userDefinedName_gives.afterMark ".").afterMark "]") ?_
    rintro _ _ ⟨table, rfl, hTable⟩ ⟨column, rfl, hColumn⟩
    exact ⟨table, column, rfl, hTable, hColumn⟩
  refine .alt (.afterMark (hNames.node ?_) "[") (userDefinedName_gives.imp ?_)
  · rintro _ ⟨table, column, rfl, hTable, hColumn⟩
    exact ⟨_, rfl, .qualified hTable hColumn⟩
  · rintro _ ⟨tree, rfl, hTree⟩
    exact ⟨tree, rfl, .column hTree⟩

theorem characterStringLiteral_gives : Gives characterStringLiteral (One printable.IsValue) := by
  intro ts ns hTs hDerives
  obtain ⟨ms, hMs, rfl⟩ := derives_leaf.mp hDerives
  obtain ⟨_, us, _, _, hOpen, hUs, rfl, -⟩ := derives_seq.mp hMs
  obtain ⟨inside, _, _, _, hInside, hClose, rfl, -⟩ := derives_seq.mp hUs
  obtain ⟨opening, -, rfl, -⟩ := derives_token.mp hOpen
  obtain ⟨closing, hQuote, rfl, -⟩ := derives_token.mp hClose
  have hValue : quotedValue ([opening] ++ (inside ++ [closing])) =
      String.ofList (Cursor.spaced none inside) := by simp [quotedValue]
  rw [hValue]
  exact ⟨_, rfl, .literal (hTs.right.literal (derives_run.mp hInside).1 hQuote)⟩

theorem signedInteger_gives : Gives signedInteger (One printable.IsValue) := by
  intro ts ns _ hDerives
  obtain ⟨ms, hMs, rfl⟩ := derives_leaf.mp hDerives
  obtain ⟨sign, _, _, _, hSign, hDigits, rfl, -⟩ := derives_seq.mp hMs
  obtain ⟨t, hRun, rfl, -⟩ := derives_token.mp hDigits
  have hSignText : (valueOf sign).toList ∈ [[], ['+'], ['-']] := by
    rcases derives_optional.mp hSign with ⟨rfl, -⟩ | hMark
    · simp [valueOf]
    · rcases derives_alt.mp hMark with h | h
      all_goals
        obtain ⟨u, hu, rfl, -⟩ := derives_token.mp h
        rw [valueOf_singleton, TokenClass.value_of_mark rfl (by decide) hu]
        decide
  have hRun : t.value.toList ≠ [] ∧ ∀ d ∈ t.value.toList, d.isDigit = true := isRun_iff.mp hRun
  have hText : (valueOf (sign ++ [t])).toList = (valueOf sign).toList ++ t.value.toList := by
    rw [valueOf_append, valueOf_singleton, String.toList_append]
  exact ⟨_, rfl, .int (printable_int hText hSignText hRun.1 hRun.2)⟩

theorem insertValue_gives : Gives insertValue (One printable.IsValue) :=
  characterStringLiteral_gives.alt signedInteger_gives

/-! ### Statements -/

theorem selectStatement_gives :
    Gives selectStatement fun ns => printable.IsStatement ⟨.root, "", ns⟩ := by
  have hItems : Gives (.node selectList .select) fun ns => ∃ items, ns = [⟨.select, "", items⟩] ∧
      (items = [.leaf .string "*"] ∨ Listed printable.IsItem items) := by
    have hList : Gives selectList fun items =>
        items = [.leaf .string "*"] ∨ Listed printable.IsItem items := by
      refine .alt ?_ (columnName_gives.list.imp fun _ => .inr)
      · intro ts ns _ hDerives
        obtain ⟨-, -, rfl⟩ := derives_leaf.mp hDerives
        exact .inl rfl
    exact hList.node fun items h => ⟨items, rfl, h⟩
  have hTables : Gives (.node (.list userDefinedName) .tableName) fun ns =>
      ∃ tables, ns = [⟨.tableName, "", tables⟩] ∧ Listed printable.IsName tables :=
    userDefinedName_gives.list.node fun tables h => ⟨tables, rfl, h⟩
  refine .afterMark (hItems.seq (hTables.afterMark _) ?_) _
  rintro _ _ ⟨items, rfl, rfl | hItems⟩ ⟨tables, rfl, hTables⟩
  · exact .selectAll hTables
  · exact .select hItems hTables

theorem insertStatement_gives :
    Gives insertStatement fun ns => printable.IsStatement ⟨.root, "", ns⟩ := by
  have hTable : Gives (.node userDefinedName .tableName) fun ns =>
      ∃ table, ns = [⟨.tableName, "", [table]⟩] ∧ printable.IsName table := by
    refine userDefinedName_gives.node ?_
    rintro _ ⟨table, rfl, hTable⟩
    exact ⟨table, rfl, hTable⟩
  have hColumns : Gives insertColumns fun ns =>
      ns = [] ∨ ∃ columns, ns = [⟨.columns, "", columns⟩] ∧ Listed printable.IsName columns := by
    refine .optional (.inl rfl) (.afterMark ?_ "(")
    refine (userDefinedName_gives.list.beforeMark ")").node ?_
    exact fun columns h => .inr ⟨columns, rfl, h⟩
  have hValues : Gives (.node (.seq (.list insertValue) (.mark ")")) .values) fun ns =>
      ∃ values, ns = [⟨.values, "", values⟩] ∧ Listed printable.IsValue values :=
    (insertValue_gives.list.beforeMark ")").node fun values h => ⟨values, rfl, h⟩
  have hAfter : Gives (.seq insertColumns (.seq (word .VALUES) (.seq (.mark "(")
      (.node (.seq (.list insertValue) (.mark ")")) .values)))) fun ns =>
        ∀ table, printable.IsName table → printable.IsStatement
          ⟨.root, "", [⟨.insert, "", ⟨.tableName, "", [table]⟩ :: ns⟩]⟩ := by
    refine hColumns.seq ((hValues.afterMark "(").afterMark _) ?_
    rintro _ _ (rfl | ⟨columns, rfl, hColumns⟩) ⟨values, rfl, hValues⟩ table hTable
    · exact .insert hTable hValues
    · exact .insertColumns hTable hColumns hValues
  refine .afterMark (.afterMark (Gives.node (hTable.seq hAfter ?_) fun _ h => h) _) _
  rintro _ ns ⟨table, rfl, hTable⟩ hAfter
  exact hAfter table hTable

theorem statement_gives : Gives statement fun ns => printable.IsStatement ⟨.root, "", ns⟩ :=
  insertStatement_gives.alt selectStatement_gives

end SqlReader
