import SqlReader.Proofs.Text.Classes

/-! The words of a text, which are all of it but its layout: the white space before, between and
after them. -/

namespace SqlReader.Text

/-- The longest runs of characters that are not white space. -/
def words (text : List Char) : List (List Char) :=
  (text.splitOnP isWhiteSpace).filter (!·.isEmpty)

variable {text space word rest : List Char} {ws : List (List Char)}

theorem words_append_cons {c : Char} (hc : isWhiteSpace c = true) (text rest : List Char) :
    words (text ++ c :: rest) = words text ++ words rest := by
  rw [words, List.splitOnP_append_cons text rest hc, List.filter_append, words, words]

theorem words_space (hSpace : ∀ c ∈ space, isWhiteSpace c = true) (rest : List Char) :
    words (space ++ rest) = words rest := by
  induction space with
  | nil => rfl
  | cons c space ih =>
    obtain ⟨hc, hSpace⟩ := List.forall_mem_cons.mp hSpace
    exact (words_append_cons hc [] (space ++ rest)).trans (ih hSpace)

theorem words_of_white (h : ∀ c ∈ text, isWhiteSpace c = true) : words text = [] := by
  have hSpace := words_space h []
  rwa [List.append_nil] at hSpace

theorem words_word (hNe : word ≠ []) (hWord : ∀ c ∈ word, isWhiteSpace c = false)
    (hRest : ∀ c ∈ rest.head?, isWhiteSpace c = true) :
    words (word ++ rest) = word :: words rest := by
  have hOne : words word = [word] := by simp [words, List.splitOnP_eq_singleton hWord, hNe]
  cases rest with
  | nil => rw [List.append_nil, hOne]; rfl
  | cons c rest =>
    have hc := hRest c rfl
    have hMore : words (c :: rest) = words rest := words_append_cons hc [] rest
    rw [words_append_cons hc, hOne, hMore, List.singleton_append]

/-- The text is white space, then a word, and then white space again or nothing. -/
structure FirstWord (text space word rest : List Char) : Prop where
  split : text = space ++ (word ++ rest)
  white : ∀ c ∈ space, isWhiteSpace c = true
  word_ne : word ≠ []
  word_visible : ∀ c ∈ word, isWhiteSpace c = false
  ends : ∀ c ∈ rest.head?, isWhiteSpace c = true

theorem FirstWord.words_eq (h : FirstWord text space word rest) :
    words text = word :: words rest := by
  rw [h.split, words_space h.white, words_word h.word_ne h.word_visible h.ends]

theorem FirstWord.space_ne (h : FirstWord text space word rest)
    (hHead : ∀ c ∈ text.head?, isWhiteSpace c = true) : space ≠ [] := by
  rintro rfl
  obtain ⟨c, cs, rfl⟩ := List.exists_cons_of_ne_nil h.word_ne
  have hWhite := hHead c (by rw [h.split]; rfl)
  simp [h.word_visible c List.mem_cons_self] at hWhite

theorem white_or_firstWord (text : List Char) :
    (∀ c ∈ text, isWhiteSpace c = true) ∨ ∃ space word rest, FirstWord text space word rest := by
  have hSplit := List.takeWhile_append_dropWhile (p := isWhiteSpace) (l := text)
  have hFirst := List.head?_dropWhile_not isWhiteSpace text
  cases hMore : text.dropWhile isWhiteSpace with
  | nil =>
    rw [hMore, List.append_nil] at hSplit
    rw [← hSplit]
    exact .inl (List.all_eq_true.mp List.all_takeWhile)
  | cons c cs =>
    have hVisible : isWhiteSpace c = false := by rwa [hMore] at hFirst
    refine .inr ⟨text.takeWhile isWhiteSpace, (c :: cs).takeWhile (!isWhiteSpace ·),
      (c :: cs).dropWhile (!isWhiteSpace ·),
      ⟨?_, List.all_eq_true.mp List.all_takeWhile, by simp [hVisible], ?_, ?_⟩⟩
    · rw [List.takeWhile_append_dropWhile, ← hMore, hSplit]
    · intro d hd
      simpa using List.all_eq_true.mp List.all_takeWhile d hd
    · intro d hd
      have hHead := List.head?_dropWhile_not (!isWhiteSpace ·) (c :: cs)
      rw [Option.mem_def.mp hd] at hHead
      simpa using hHead

theorem words_eq_nil (h : words text = []) : ∀ c ∈ text, isWhiteSpace c = true := by
  refine (white_or_firstWord text).resolve_right ?_
  rintro ⟨space, word, rest, hFirst⟩
  simp [hFirst.words_eq] at h

theorem words_eq_cons (h : words text = word :: ws) :
    ∃ space rest, FirstWord text space word rest ∧ words rest = ws := by
  rcases white_or_firstWord text with hWhite | ⟨space, word', rest, hFirst⟩
  · rw [words_of_white hWhite] at h
    cases h
  · obtain ⟨rfl, rfl⟩ := List.cons.inj (hFirst.words_eq.symm.trans h)
    exact ⟨space, rest, hFirst, rfl⟩

theorem words_ne_nil {c : Char} (hMem : c ∈ text) (hc : isWhiteSpace c = false) :
    words text ≠ [] := fun hNil => by
  rw [words_eq_nil hNil c hMem] at hc
  cases hc

/-- The characters of a text that are not white space. -/
def visible (text : List Char) : List Char := text.filter (!isWhiteSpace ·)

theorem visible_append (a b : List Char) : visible (a ++ b) = visible a ++ visible b :=
  List.filter_append _ _

theorem visible_of_white (h : ∀ c ∈ text, isWhiteSpace c = true) : visible text = [] :=
  List.filter_eq_nil_iff.mpr fun c hc => by simp [h c hc]

theorem visible_of_visible (h : ∀ c ∈ text, isWhiteSpace c = false) : visible text = text :=
  List.filter_eq_self.mpr fun c hc => by simp [h c hc]

theorem flatten_words (text : List Char) : (words text).flatten = visible text := by
  generalize hWords : words text = ws
  induction ws generalizing text with
  | nil => rw [visible_of_white (words_eq_nil hWords), List.flatten_nil]
  | cons word ws ih =>
    obtain ⟨space, rest, hFirst, hRest⟩ := words_eq_cons hWords
    rw [hFirst.split, visible_append, visible_append, visible_of_white hFirst.white,
      visible_of_visible hFirst.word_visible, List.flatten_cons, ih rest hRest, List.nil_append]

/-! ### Words with one space between two -/

/-- The words of a text, with one space between two. -/
def joined (text : List Char) : String := " ".intercalate ((words text).map String.ofList)

theorem toList_joined (text : List Char) :
    (joined text).toList = [' '].intercalate (words text) := by
  simp [joined, Function.comp_def]

theorem intercalate_cons (h : ws ≠ []) (word : List Char) :
    [' '].intercalate (word :: ws) = word ++ ' ' :: [' '].intercalate ws := by
  obtain ⟨word', ws, rfl⟩ := List.exists_cons_of_ne_nil h
  rw [List.intercalate_cons_cons, List.append_assoc, List.singleton_append]

end SqlReader.Text
