import SqlReader.Proofs.Lexing.WholeWords

/-! The order of the rules.  Whatever stands at the head of a text, at most one rule other than that
of names matches it, so those rules may be listed in any order.  The rule of names matches what
begins with a keyword or an integer as well, so it has to come after their rules. -/

namespace SqlReader

open Text Pattern

variable {rule other : Rule} {rules table earlier later : List Rule} {text value : List Char}

/-- What is cut off by no other rule is cut off as a name. -/
def nameRule : Rule := ⟨.name, .id⟩

/-! ### First matches of a table -/

theorem firstMatch_nil (rules : List Rule) : firstMatch rules [] = none := by
  cases h : firstMatch rules [] with
  | none => rfl
  | some found =>
    have hNe := (firstMatch_some h).2.2
    exact absurd (List.prefix_nil.mp (firstMatch_isPrefix h)) hNe

theorem firstMatch_isSome (hRule : rule ∈ rules) (hMatched : rule.pattern.matched text ≠ []) :
    ∃ found, firstMatch rules text = some found :=
  Option.ne_none_iff_exists'.mp fun hNone => hMatched (matched_of_firstMatch_none hNone rule hRule)

/-- Where at most one rule matches, it is the first one. -/
theorem firstMatch_eq_some_iff (hUnique : ∀ a ∈ rules, ∀ b ∈ rules,
      a.pattern.matched text ≠ [] → b.pattern.matched text ≠ [] → a = b) :
    firstMatch rules text = some (rule, value) ↔
      rule ∈ rules ∧ value = rule.pattern.matched text ∧ value ≠ [] := by
  refine ⟨firstMatch_some, ?_⟩
  rintro ⟨hRule, rfl, hMatched⟩
  obtain ⟨⟨found, value⟩, hFound⟩ := firstMatch_isSome hRule hMatched
  obtain ⟨hMem, rfl, hValue⟩ := firstMatch_some hFound
  obtain rfl := hUnique found hMem rule hRule hValue hMatched
  exact hFound

theorem firstMatch_perm (hPerm : table.Perm rules) (hUnique : ∀ a ∈ rules, ∀ b ∈ rules,
      a.pattern.matched text ≠ [] → b.pattern.matched text ≠ [] → a = b) :
    firstMatch table text = firstMatch rules text := by
  have hUnique' : ∀ a ∈ table, ∀ b ∈ table,
      a.pattern.matched text ≠ [] → b.pattern.matched text ≠ [] → a = b := fun a ha b hb =>
    hUnique a (hPerm.mem_iff.mp ha) b (hPerm.mem_iff.mp hb)
  refine Option.ext fun ⟨rule, value⟩ => ?_
  rw [firstMatch_eq_some_iff hUnique, firstMatch_eq_some_iff hUnique', hPerm.mem_iff]

theorem scan_congr (h : ∀ text, firstMatch table text = firstMatch rules text) (start : Nat)
    (text : List Char) : scan table start text = scan rules start text := by
  fun_induction scan rules start text with
  | case1 start text hNone => exact scan_of_none ((h text).trans hNone)
  | case2 start text rule value hMatch rest ih =>
    rw [scan_of_some ((h text).trans hMatch), ih]

theorem lexWith_congr (h : ∀ text, firstMatch table text = firstMatch rules text)
    (text : String) : lexWith table text = lexWith rules text := by
  rw [lexWith, lexWith, Scan.ofText, Scan.ofText, scan_congr h]

/-- A text that is matched as a whole is one token. -/
theorem lexWith_of_whole {text : String} (h : firstMatch rules text.toList =
      some (rule, text.toList)) (hKind : rule.kind.isEmitted = true) :
    lexWith rules text = .ok [⟨text, rule.kind, 0⟩] := by
  rw [lexWith, Scan.ofText, scan_of_some h, List.drop_length, scan_of_none (firstMatch_nil rules)]
  simp [Scan.result, Scan.emitted, Lexeme.isEmitted, hKind, Lexeme.token]

/-! ### The rules of the lexicon -/

theorem lexicon_eq : lexicon = lexicon.dropLast ++ [nameRule] := rfl

theorem nameRule_notMem : nameRule ∉ lexicon.dropLast := by decide

theorem mem_dropLast : rule ∈ lexicon.dropLast ↔ rule ∈ lexicon ∧ rule ≠ nameRule := by
  constructor
  · exact fun h => ⟨List.dropLast_subset _ h, fun hName => nameRule_notMem (hName ▸ h)⟩
  · rintro ⟨hRule, hNe⟩
    rw [lexicon_eq, List.mem_append, List.mem_singleton] at hRule
    exact hRule.resolve_right hNe

theorem head_of_run {test : Char → Bool} (h : text.takeWhile test ≠ []) :
    ∃ c cs, text = c :: cs ∧ test c = true := by
  cases text with
  | nil => exact absurd rfl h
  | cons c cs =>
    exact ⟨c, cs, rfl, Classical.not_not.mp fun hc => h (List.takeWhile_cons_of_neg hc)⟩

theorem head_of_mark {m : Char} (h : (Pattern.char m).matched text ≠ []) :
    ∃ cs, text = m :: cs ∧ (Pattern.char m).matched text = [m] := by
  rw [Pattern.matched] at h ⊢
  split at h
  · rename_i hHead
    obtain ⟨cs, rfl⟩ := List.head?_eq_some_iff.mp hHead
    exact ⟨cs, rfl, by simp⟩
  · exact absurd rfl h

/-- If a rule other than that of names matches, it is the first that does. -/
theorem firstMatch_of_matched (hRule : rule ∈ lexicon.dropLast)
    (hMatched : rule.pattern.matched text ≠ []) :
    firstMatch lexicon text = some (rule, rule.pattern.matched text) := by
  have hMark {m : Char} (hm : m ∈ '*' :: punctuation) (cs : List Char) :
      isWhiteSpace m = false ∧ headKeyword? (m :: cs) = none := by
    obtain ⟨-, -, hLong, hAlpha⟩ := marks_outside_names m hm
    exact ⟨isWhiteSpace_mark hm, headKeyword?_of_head hAlpha hLong⟩
  obtain ⟨hRule, hName⟩ := mem_dropLast.mp hRule
  rcases mem_lexicon.mp hRule with rfl | ⟨k, rfl⟩ | ⟨m, hm, rfl⟩ | rfl | rfl | rfl
  · obtain ⟨c, cs, rfl, hSpace⟩ := head_of_run hMatched
    exact firstMatch_space hSpace
  · have hSplit : headWord text ++ text.dropWhile isWordChar = text :=
      List.takeWhile_append_dropWhile
    have hSpells : spells (headWord text) k.spelling = true := by
      refine Classical.not_not.mp fun hNot => hMatched ?_
      rw [keyword_matched, if_neg hNot]
    have hFirst := firstMatch_keyword hSpells (atWordEnd_dropWhile text)
    rw [hSplit] at hFirst
    rw [hFirst, keyword_matched, if_pos hSpells]
  · obtain ⟨cs, rfl, hValue⟩ := head_of_mark hMatched
    obtain ⟨hSpace, hWord⟩ := hMark (List.mem_cons_of_mem _ hm) cs
    rw [hValue, firstMatch_lexicon, hSpace, if_neg (by simp), hWord]
    simp [hm]
  · obtain ⟨cs, rfl, hValue⟩ := head_of_mark hMatched
    obtain ⟨hSpace, hWord⟩ := hMark List.mem_cons_self cs
    rw [hValue, firstMatch_lexicon, hSpace, if_neg (by simp), hWord]
    rfl
  · obtain ⟨c, cs, rfl, hDigit⟩ := head_of_run hMatched
    have hNameChar := isNameChar_of_isDigit hDigit
    obtain ⟨hStar, hMarks⟩ := not_or.mp (mt List.mem_cons.mpr (not_mark_of_isNameChar hNameChar))
    have hLong : c ≠ longS := by
      rintro rfl
      exact absurd hDigit (by decide)
    rw [firstMatch_lexicon, isWhiteSpace_of_isNameChar hNameChar, if_neg (by simp),
      headKeyword?_of_head (isAlpha_of_isDigit hDigit) hLong]
    simp [hStar, hMarks, hDigit, Pattern.matched]
  · exact absurd rfl hName

/-- At most one rule other than that of names matches. -/
theorem eq_of_matched (hRule : rule ∈ lexicon.dropLast) (hOther : other ∈ lexicon.dropLast)
    (hMatched : rule.pattern.matched text ≠ []) (hMatched' : other.pattern.matched text ≠ []) :
    rule = other := by
  have hFirst := firstMatch_of_matched hRule hMatched
  rw [firstMatch_of_matched hOther hMatched'] at hFirst
  exact (Prod.mk.inj (Option.some.inj hFirst)).1.symm

theorem length_matching_le_one (text : List Char) : (lexicon.dropLast.filter fun rule =>
    !(rule.pattern.matched text).isEmpty).length ≤ 1 := by
  have hNodup : lexicon.dropLast.Nodup := by decide
  have hAll : ∀ rule ∈ lexicon.dropLast.filter fun rule => !(rule.pattern.matched text).isEmpty,
      rule ∈ lexicon.dropLast ∧ rule.pattern.matched text ≠ [] := fun rule hRule => by
    simpa using List.mem_filter.mp hRule
  have hNodup := hNodup.filter fun rule => !(rule.pattern.matched text).isEmpty
  generalize lexicon.dropLast.filter _ = matching at *
  rcases matching with _ | ⟨a, _ | ⟨b, matching⟩⟩
  · exact Nat.zero_le 1
  · exact Nat.le_refl 1
  · obtain ⟨ha, hMatched⟩ := hAll a (by simp)
    obtain ⟨hb, hMatched'⟩ := hAll b (by simp)
    obtain rfl := eq_of_matched ha hb hMatched hMatched'
    simp at hNodup

/-- The rules of words and the others do not match the same texts. -/
theorem ofWords_of_matched (hRule : rule ∈ lexicon) (hOther : other ∈ lexicon)
    (hMatched : rule.pattern.matched text ≠ []) (hMatched' : other.pattern.matched text ≠ []) :
    rule.pattern.ofWords = other.pattern.ofWords := by
  have hHead {p : Pattern} (h : p.matched text ≠ []) : ∃ c cs, text = c :: cs ∧
      c ∈ p.matched text := by
    obtain ⟨c, vs, hValue⟩ := List.exists_cons_of_ne_nil h
    obtain ⟨after, hAfter⟩ := p.matched_isPrefix text
    rw [hValue, List.cons_append] at hAfter
    exact ⟨c, _, hAfter.symm, by simp [hValue]⟩
  obtain ⟨c, cs, rfl, hc⟩ := hHead hMatched
  obtain ⟨d, ds, hText, hd⟩ := hHead hMatched'
  obtain ⟨rfl, -⟩ := List.cons.inj hText
  rw [← isWordChar_of_matched hRule c hc, ← isWordChar_of_matched hOther c hd]

/-! ### Tables in other orders -/

/-- The rules before that of names may be listed in any order. -/
theorem firstMatch_names_last (hPerm : rules.Perm lexicon.dropLast) (text : List Char) :
    firstMatch (rules ++ [nameRule]) text = firstMatch lexicon text := by
  rw [lexicon_eq, firstMatch_append, firstMatch_append, firstMatch_perm hPerm]
  exact fun a ha b hb => eq_of_matched ha hb

/-- The rule of names may come before rules that match nothing of a word. -/
theorem firstMatch_names_before (hLater : ∀ rule ∈ later, rule ∈ lexicon ∧
      rule.pattern.ofWords = false) (text : List Char) :
    firstMatch (nameRule :: later) text = firstMatch (later ++ [nameRule]) text := by
  rw [← List.singleton_append, firstMatch_append, firstMatch_append]
  cases hFirst : firstMatch later text with
  | none => simp
  | some found =>
    obtain ⟨rule, value⟩ := found
    obtain ⟨hRule, rfl, hMatched⟩ := firstMatch_some hFirst
    obtain ⟨hRule, hWords⟩ := hLater rule hRule
    have hNone : nameRule.pattern.matched text = [] := by
      refine Classical.not_not.mp fun hNe => ?_
      have hSame := ofWords_of_matched hRule (by decide) hMatched hNe
      rw [hWords] at hSame
      cases hSame
    rw [firstMatch_singleton, hNone]
    simp

/-- The rules besides that of names are the same in every order. -/
theorem perm_others (hPerm : (earlier ++ nameRule :: later).Perm lexicon) :
    (earlier ++ later).Perm lexicon.dropLast := by
  have hLexicon : (nameRule :: lexicon.dropLast).Perm lexicon :=
    List.perm_append_singleton nameRule lexicon.dropLast |>.symm
  exact ((List.perm_middle.symm.trans hPerm).trans hLexicon.symm).cons_inv

theorem lexWith_of_ofWords (hPerm : (earlier ++ nameRule :: later).Perm lexicon)
    (hLater : ∀ rule ∈ later, rule.pattern.ofWords = false) (text : String) :
    lexWith (earlier ++ nameRule :: later) text = lex text := by
  have hMem : ∀ rule ∈ later, rule ∈ lexicon ∧ rule.pattern.ofWords = false := fun rule h =>
    ⟨hPerm.mem_iff.mp (by simp [h]), hLater rule h⟩
  refine lexWith_congr (fun text => ?_) text
  rw [firstMatch_append, firstMatch_names_before hMem, ← firstMatch_append, ← List.append_assoc,
    firstMatch_names_last (perm_others hPerm)]

/-- What a rule of words matches may be a name as well, of another kind. -/
theorem exists_also_name (hRule : rule ∈ lexicon.dropLast) (hWords : rule.pattern.ofWords = true) :
    ∃ text : String, text.toList ≠ [] ∧ rule.pattern.matched text.toList = text.toList ∧
      nameRule.pattern.matched text.toList = text.toList ∧ rule.kind.isEmitted = true ∧
      rule.kind ≠ .id := by
  obtain ⟨hRule, hName⟩ := mem_dropLast.mp hRule
  rcases mem_lexicon.mp hRule with rfl | ⟨k, rfl⟩ | ⟨m, -, rfl⟩ | rfl | rfl | rfl
  · cases hWords
  · refine ⟨k.spelling, k.spelling_ne_nil, ?_, ?_, rfl, nofun⟩
    · cases k <;> decide +kernel
    · cases k <;> decide +kernel
  · cases hWords
  · cases hWords
  · exact ⟨"0", by decide, by decide, by decide, rfl, nofun⟩
  · exact absurd rfl hName

/-- A rule of words that comes after that of names is missed. -/
theorem ofWords_of_same (hPerm : (earlier ++ nameRule :: later).Perm lexicon)
    (hSame : ∀ text, lexWith (earlier ++ nameRule :: later) text = lex text) :
    ∀ rule ∈ later, rule.pattern.ofWords = false := by
  intro rule hLater
  refine Bool.eq_false_iff.mpr fun hWords => ?_
  have hOthers := perm_others hPerm
  have hRule := hOthers.mem_iff.mp (List.mem_append_right earlier hLater)
  have hNodup : (earlier ++ later).Nodup := hOthers.nodup_iff.mpr (by decide)
  obtain ⟨text, hNe, hMatched, hName, hEmitted, hKind⟩ := exists_also_name hRule hWords
  have hFirst : firstMatch lexicon text.toList = some (rule, text.toList) := by
    rw [firstMatch_of_matched hRule (by rwa [hMatched]), hMatched]
  have hEarlier : firstMatch earlier text.toList = none := by
    refine Option.eq_none_iff_forall_ne_some.mpr fun ⟨found, value⟩ hSome => ?_
    obtain ⟨hFound, rfl, hValue⟩ := firstMatch_some hSome
    have hMem := hOthers.mem_iff.mp (List.mem_append_left later hFound)
    obtain rfl := eq_of_matched hMem hRule hValue (by rwa [hMatched])
    exact (List.nodup_append.mp hNodup).2.2 _ hFound _ hLater rfl
  have hNames : firstMatch (earlier ++ nameRule :: later) text.toList =
      some (nameRule, text.toList) := by
    rw [firstMatch_append, hEarlier, ← List.singleton_append, firstMatch_append,
      firstMatch_singleton, hName]
    simp [hNe]
  have hTokens := hSame text
  rw [lexWith_of_whole hNames rfl, lex, lexWith_of_whole hFirst hEmitted] at hTokens
  obtain ⟨hToken, -⟩ := List.cons.inj (Except.ok.inj hTokens)
  exact hKind (congrArg Token.kind hToken).symm

/-- Whatever stands at the head of a text, at most one rule matches it besides that of names.  A
table of the same rules in another order cuts all texts into the same tokens, with the same errors,
if it ends with the rule of names, and exactly if no rule of words comes after that rule. -/
theorem only_place_of_names_matters (hPerm : table.Perm lexicon) :
    (∀ text, (lexicon.dropLast.filter fun rule =>
      !(rule.pattern.matched text).isEmpty).length ≤ 1) ∧
    (table.getLast? = lexicon.getLast? → ∀ text, lexWith table text = lex text) ∧
    ((∀ text, lexWith table text = lex text) ↔ ∀ earlier later,
      table = earlier ++ nameRule :: later → ∀ rule ∈ later, rule.pattern.ofWords = false) := by
  refine ⟨length_matching_le_one, fun hLast => ?_, fun hSame earlier later hTable => ?_,
    fun hLater => ?_⟩
  · obtain ⟨earlier, rfl⟩ := List.getLast?_eq_some_iff.mp (hLast.trans rfl)
    exact lexWith_of_ofWords hPerm nofun
  · subst hTable
    exact ofWords_of_same hPerm hSame
  · have hName : nameRule ∈ table := hPerm.mem_iff.mpr (by decide)
    obtain ⟨earlier, later, rfl⟩ := List.append_of_mem hName
    exact lexWith_of_ofWords hPerm (hLater earlier later rfl)

/-- The other rules in reverse, with integers first and white space before names. -/
theorem only_place_of_names_matters_reversed :
    (lexicon.dropLast.reverse ++ [nameRule]).Perm lexicon ∧
      (lexicon.dropLast.reverse ++ [nameRule]).getLast? = lexicon.getLast? ∧
      lexWith (lexicon.dropLast.reverse ++ [nameRule]) "VALUES\t12from*é" =
        lex "VALUES\t12from*é" := by
  have hPerm : (lexicon.dropLast.reverse ++ [nameRule]).Perm lexicon :=
    (List.reverse_perm lexicon.dropLast).append_right [nameRule]
  have hLast : (lexicon.dropLast.reverse ++ [nameRule]).getLast? = lexicon.getLast? := rfl
  exact ⟨hPerm, hLast, (only_place_of_names_matters hPerm).2.1 hLast _⟩

end SqlReader
