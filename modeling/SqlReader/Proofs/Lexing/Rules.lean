import SqlReader.Lexeme
import SqlReader.Proofs.Text.Classes

/-! Which rule of the lexicon matches, told by the first character of a text and by the word at its
head. -/

namespace SqlReader

open Text

variable {word rest text : List Char} {c : Char} {cs : List Char} {k l : Keyword}

/-! ### Words -/

namespace Text

/-- The word characters at the head of the text. -/
def headWord (text : List Char) : List Char := text.takeWhile isWordChar

theorem atWordEnd_dropWhile (text : List Char) : atWordEnd (text.dropWhile isWordChar) = true := by
  have hHead := List.head?_dropWhile_not isWordChar text
  cases h : text.dropWhile isWordChar with
  | nil => rfl
  | cons c cs =>
    rw [h] at hHead
    simpa [atWordEnd] using hHead

theorem atWordEnd_of_head (h : ∀ c ∈ rest.head?, isWhiteSpace c = true) :
    atWordEnd rest = true := by
  cases rest with
  | nil => rfl
  | cons c rest => simp [atWordEnd, isWordChar_whiteSpace (h c rfl)]

theorem atWordEnd_white {space : List Char} (hNe : space ≠ [])
    (hWhite : ∀ c ∈ space, isWhiteSpace c = true) : atWordEnd (space ++ rest) = true := by
  obtain ⟨c, cs, rfl⟩ := List.exists_cons_of_ne_nil hNe
  exact atWordEnd_of_head (by simpa using hWhite c List.mem_cons_self)

/-- Cut off before the end of a word, a run is what it is by itself. -/
theorem takeWhile_before {test : Char → Bool} (hTest : ∀ c, test c = true → isWordChar c = true)
    (hEnd : atWordEnd rest = true) : (text ++ rest).takeWhile test = text.takeWhile test := by
  induction text with
  | nil =>
    cases rest with
    | nil => rfl
    | cons c rest =>
      have hc : test c = false := Bool.eq_false_iff.mpr fun h => by
        simp [atWordEnd, hTest c h] at hEnd
      simp [hc]
  | cons c text ih => simp [List.takeWhile_cons, ih]

theorem headWord_before (hEnd : atWordEnd rest = true) :
    headWord (text ++ rest) = headWord text :=
  takeWhile_before (fun _ h => h) hEnd

theorem takeWhile_whole {test : Char → Bool} (hTest : ∀ c, test c = true → isWordChar c = true)
    (hWord : ∀ c ∈ word, test c = true) (hEnd : atWordEnd rest = true) :
    (word ++ rest).takeWhile test = word := by
  rw [takeWhile_before hTest hEnd, ← List.append_nil word, List.takeWhile_append_of_pos hWord,
    List.takeWhile_nil]

theorem headWord_append (hWord : ∀ c ∈ word, isWordChar c = true) (hEnd : atWordEnd rest = true) :
    headWord (word ++ rest) = word :=
  takeWhile_whole (fun _ h => h) hWord hEnd

end Text

namespace Keyword

theorem lower_letters (k : Keyword) :
    ∀ c ∈ k.spelling.toList.map Char.toLower, c.isAlpha = true ∧ c ≠ 'k' := by
  have hAll : (k.spelling.toList.map Char.toLower).all (fun c => c.isAlpha && c != 'k') = true := by
    cases k <;> decide
  intro c hc
  simpa using List.all_eq_true.mp hAll c hc

theorem lower_injective
    (h : k.spelling.toList.map Char.toLower = l.spelling.toList.map Char.toLower) : k = l := by
  revert h
  cases k <;> cases l <;> decide

theorem spelling_ne_nil (k : Keyword) : k.spelling.toList ≠ [] := by cases k <;> decide

end Keyword

theorem spells_iff : spells word k.spelling = true ↔
    word.map foldToAscii = k.spelling.toList.map Char.toLower := by
  simp [spells]

theorem spells_letters (h : spells word k.spelling = true) :
    ∀ c ∈ word, (foldToAscii c).isAlpha = true ∧ foldToAscii c ≠ 'k' := by
  intro c hc
  exact k.lower_letters _ (spells_iff.mp h ▸ List.mem_map_of_mem hc)

/-- A keyword is spelled with letters of ASCII and the long s. -/
theorem spells_alpha (h : spells word k.spelling = true) :
    ∀ c ∈ word, c.isAlpha = true ∨ c = longS := fun c hc =>
  isAlpha_of_foldToAscii (spells_letters h c hc).1 (spells_letters h c hc).2

theorem spells_wordChars (h : spells word k.spelling = true) :
    ∀ c ∈ word, isWordChar c = true := by
  intro c hc
  rcases spells_alpha h c hc with hAlpha | rfl
  · exact isWordChar_of_isNameChar (isNameChar_of_isAlpha hAlpha)
  · exact isWordChar_longS

theorem spells_length (h : spells word k.spelling = true) :
    word.length = k.spelling.length := by
  have hLength := congrArg List.length (spells_iff.mp h)
  rwa [List.length_map, List.length_map, String.length_toList] at hLength

theorem spells_ne_nil (h : spells word k.spelling = true) : word ≠ [] := by
  rintro rfl
  have hNil := spells_iff.mp h
  simp [k.spelling_ne_nil] at hNil

theorem spells_unique (h : spells word k.spelling = true) (h' : spells word l.spelling = true) :
    k = l :=
  Keyword.lower_injective ((spells_iff.mp h).symm.trans (spells_iff.mp h'))

/-- A word is a keyword ignoring the case of ASCII if it is one under case folding and has no long
s. -/
theorem sameIgnoringCase_spelling_iff :
    sameIgnoringCase (String.ofList word) k.spelling = true ↔
      spells word k.spelling = true ∧ longS ∉ word := by
  rw [sameIgnoringCase_iff, String.toList_ofList, spells_iff]
  constructor
  · intro h
    have hLetters : ∀ c ∈ word, c.toLower.isAlpha = true := fun c hc =>
      (k.lower_letters _ (h ▸ List.mem_map_of_mem hc)).1
    have hLong : longS ∉ word := fun hMem => absurd (hLetters _ hMem) (by decide)
    refine ⟨?_, hLong⟩
    rw [← h]
    refine List.map_congr_left fun c hc => foldToAscii_of_ne (fun hEq => hLong (hEq ▸ hc)) ?_
    rintro rfl
    exact absurd (hLetters _ hc) (by decide)
  · rintro ⟨h, hLong⟩
    rw [← h]
    refine List.map_congr_left fun c hc => (foldToAscii_of_ne (fun hEq => hLong (hEq ▸ hc)) ?_).symm
    rintro rfl
    exact (spells_letters (spells_iff.mpr h) _ hc).2 rfl

/-- A keyword is matched if the whole word at the head of the text spells it. -/
theorem keyword_matched (k : Keyword) (text : List Char) :
    (Pattern.keyword k).matched text =
      if spells (headWord text) k.spelling then headWord text else [] := by
  have hSplit : headWord text ++ text.dropWhile isWordChar = text :=
    List.takeWhile_append_dropWhile
  rw [Pattern.matched]
  by_cases h : spells (headWord text) k.spelling = true
  · have hTake : (headWord text ++ text.dropWhile isWordChar).take k.spelling.length =
        headWord text := List.take_left' (spells_length h)
    have hDrop : (headWord text ++ text.dropWhile isWordChar).drop k.spelling.length =
        text.dropWhile isWordChar := List.drop_left' (spells_length h)
    rw [hSplit] at hTake hDrop
    simp [hTake, hDrop, h, atWordEnd_dropWhile]
  · rw [if_neg h, if_neg]
    intro hMatched
    obtain ⟨hSpells, hEnd⟩ := (Bool.and_eq_true _ _).mp hMatched
    have hHead := headWord_append (spells_wordChars hSpells) hEnd
    rw [List.take_append_drop] at hHead
    exact h (hHead ▸ hSpells)

/-! ### The first rule -/

/-- The keyword that the word at the head of the text spells. -/
def headKeyword? (text : List Char) : Option Keyword :=
  Keyword.all.find? fun k => spells (headWord text) k.spelling

theorem headKeyword?_eq_some : headKeyword? text = some k ↔
    spells (headWord text) k.spelling = true := by
  have hFound {l : Keyword} (h : headKeyword? text = some l) :
      spells (headWord text) l.spelling = true :=
    List.find?_some (p := fun k : Keyword => spells (headWord text) k.spelling) h
  refine ⟨hFound, fun h => ?_⟩
  cases hNone : headKeyword? text with
  | none => exact absurd h (List.find?_eq_none.mp hNone k k.mem_all)
  | some l => rw [spells_unique h (hFound hNone)]

theorem firstMatch_singleton (rule : Rule) (text : List Char) :
    firstMatch [rule] text =
      if (rule.pattern.matched text).isEmpty then none
      else some (rule, rule.pattern.matched text) := by
  simp only [firstMatch, List.findSome?_cons, List.findSome?_nil]
  split <;> simp_all

theorem firstMatch_append (rules others : List Rule) (text : List Char) :
    firstMatch (rules ++ others) text = (firstMatch rules text).or (firstMatch others text) :=
  List.findSome?_append

theorem firstMatch_map {α : Type} {items : List α} {rule : α → Rule} {test : α → Bool}
    {value : List Char} (hValue : ∀ a, test a = true → value ≠ [])
    (hMatched : ∀ a, (rule a).pattern.matched text = if test a then value else []) :
    firstMatch (items.map rule) text = (items.find? test).map fun a => (rule a, value) := by
  induction items with
  | nil => rfl
  | cons a items ih =>
    rw [List.map_cons, ← List.singleton_append, firstMatch_append, firstMatch_singleton, ih,
      hMatched, List.find?_cons]
    cases hTest : test a with
    | true => simp [hValue a hTest]
    | false => simp

theorem firstMatch_keywords (text : List Char) :
    firstMatch (Keyword.all.map (⟨.keyword ·, .reserved⟩)) text =
      (headKeyword? text).map fun k => (⟨.keyword k, .reserved⟩, headWord text) :=
  firstMatch_map (fun _ => spells_ne_nil) fun k => keyword_matched k text

theorem firstMatch_punctuation (c : Char) (cs : List Char) :
    firstMatch (punctuation.map (⟨.char ·, .reserved⟩)) (c :: cs) =
      if c ∈ punctuation then some (⟨.char c, .reserved⟩, [c]) else none := by
  have hMatched : ∀ m, (Pattern.char m).matched (c :: cs) = if c == m then [c] else [] := by
    intro m
    by_cases hm : c = m <;> simp [Pattern.matched, hm]
  rw [firstMatch_map (by simp) hMatched]
  by_cases hc : c ∈ punctuation
  · obtain ⟨m, hFound⟩ := Option.isSome_iff_exists.mp
      (List.find?_isSome.mpr ⟨c, hc, beq_self_eq_true c⟩)
    obtain rfl : c = m := by simpa using List.find?_some hFound
    rw [if_pos hc, hFound]
    rfl
  · have hNone : punctuation.find? (c == ·) = none := by
      simpa using fun m hm (hEq : c = m) => hc (hEq ▸ hm)
    rw [if_neg hc, hNone]
    rfl

/-- The rule that matches, told by the first character and the first word. -/
theorem firstMatch_lexicon (c : Char) (cs : List Char) :
    firstMatch lexicon (c :: cs) =
      if isWhiteSpace c then some (⟨.space, .discard⟩, (c :: cs).takeWhile isWhiteSpace)
      else match headKeyword? (c :: cs) with
        | some k => some (⟨.keyword k, .reserved⟩, headWord (c :: cs))
        | none =>
          if c ∈ punctuation then some (⟨.char c, .reserved⟩, [c])
          else if c = '*' then some (⟨.char '*', .id⟩, ['*'])
          else if c.isDigit then some (⟨.digits, .int⟩, (c :: cs).takeWhile Char.isDigit)
          else if Pattern.isNameChar c then
            some (⟨.name, .id⟩, (c :: cs).takeWhile Pattern.isNameChar)
          else none := by
  rw [lexicon, firstMatch_append, firstMatch_append, firstMatch_append, firstMatch_keywords,
    firstMatch_punctuation, firstMatch_singleton]
  by_cases hSpace : isWhiteSpace c = true
  · simp [Pattern.matched, hSpace]
  · rw [if_neg hSpace]
    cases headKeyword? (c :: cs) with
    | some k => simp [Pattern.matched, hSpace]
    | none =>
      rw [show [(⟨.char '*', .id⟩ : Rule), ⟨.digits, .int⟩, ⟨.name, .id⟩] =
        [⟨.char '*', .id⟩] ++ ([⟨.digits, .int⟩] ++ [⟨.name, .id⟩]) from rfl, firstMatch_append,
        firstMatch_append, firstMatch_singleton, firstMatch_singleton, firstMatch_singleton]
      by_cases hMark : c ∈ punctuation
      · simp [Pattern.matched, hSpace, hMark]
      · by_cases hStar : c = '*'
        · subst hStar
          simp [Pattern.matched, hSpace, hMark]
        · by_cases hDigit : c.isDigit = true
          · simp [Pattern.matched, hSpace, hMark, hStar, hDigit]
          · by_cases hName : Pattern.isNameChar c = true
            · simp [Pattern.matched, hSpace, hMark, hStar, hDigit, hName]
            · simp [Pattern.matched, hSpace, hMark, hStar, hDigit, hName]

theorem firstMatch_space (h : isWhiteSpace c = true) :
    firstMatch lexicon (c :: cs) =
      some (⟨.space, .discard⟩, (c :: cs).takeWhile isWhiteSpace) := by
  rw [firstMatch_lexicon, if_pos h]

/-- Everything but white space becomes a token. -/
theorem isEmitted_of_firstMatch {rule : Rule} {value : List Char}
    (hSpace : isWhiteSpace c = false) (h : firstMatch lexicon (c :: cs) = some (rule, value)) :
    rule.kind.isEmitted = true := by
  rw [firstMatch_lexicon, hSpace, if_neg (by simp)] at h
  split at h
  · cases h
    rfl
  · repeat' split at h
    all_goals cases h
    all_goals rfl

end SqlReader
