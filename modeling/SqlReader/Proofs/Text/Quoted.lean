import SqlReader.Proofs.Text.Classes
import SqlReader.Proofs.Text.Runs
import SqlReader.Text.Quoted

/-! Quoted text is on one line, whatever the text contains, and the text can be read off it. -/

namespace SqlReader.Text

/-! ### Line breaks -/

/-- The characters that end a line: the line feed, the tabulation and the feed that go with it, the
carriage return, and those of Unicode. -/
def lineBreaks : List Char := ['\n', '\x0b', '\x0c', '\r', '\u0085', '\u2028', '\u2029']

/-- The text has no line break. -/
def OneLine (text : String) : Prop := ∀ c ∈ text.toList, c ∉ lineBreaks

instance (text : String) : Decidable (OneLine text) :=
  List.decidableBAll (· ∉ lineBreaks) text.toList

/-- A test that tells a character from all line breaks. -/
theorem not_mem_lineBreaks {test : Char → Bool} {value : Bool} {c : Char} (h : test c = value)
    (hBreaks : (lineBreaks.all fun m => test m != value) = true) : c ∉ lineBreaks := fun hMem =>
  bne_iff_ne.mp (List.all_eq_true.mp hBreaks c hMem) h

theorem OneLine.append {a b : String} (ha : OneLine a) (hb : OneLine b) : OneLine (a ++ b) := by
  rw [OneLine, String.toList_append]
  exact List.forall_mem_append.mpr ⟨ha, hb⟩

/-! ### Digits -/

theorem mem_toDigits {n : Nat} {c : Char} (h : c ∈ Nat.toDigits 16 n) :
    ∃ d < 16, c = d.digitChar := by
  induction n using Nat.strongRecOn with
  | ind n ih =>
    rw [Nat.toDigits_eq_if (by decide)] at h
    split at h
    · rename_i hLess
      exact ⟨n, hLess, List.mem_singleton.mp h⟩
    · rcases List.mem_append.mp h with h | h
      · exact ih (n / 16) (by omega) h
      · exact ⟨n % 16, by omega, List.mem_singleton.mp h⟩

theorem toDigits_injective {m n : Nat} (h : Nat.toDigits 16 m = Nat.toDigits 16 n) : m = n := by
  have hDigit : ∀ a < 16, ∀ b < 16, Nat.digitChar a = Nat.digitChar b → a = b := by decide
  induction m using Nat.strongRecOn generalizing n with
  | ind m ih =>
    rw [Nat.toDigits_eq_if (by decide), Nat.toDigits_eq_if (n := n) (by decide)] at h
    split at h <;> split at h
    · exact hDigit m ‹_› n ‹_› (List.singleton_inj.mp h)
    · have hNil := List.append_eq_singleton_iff.mp h.symm
      simp [Nat.toDigits_ne_nil] at hNil
    · have hNil := List.append_eq_singleton_iff.mp h
      simp [Nat.toDigits_ne_nil] at hNil
    · obtain ⟨hFront, hLast⟩ := List.append_inj' h rfl
      have hQuotient := ih (m / 16) (by omega) hFront
      have hRemainder :=
        hDigit (m % 16) (by omega) (n % 16) (by omega) (List.singleton_inj.mp hLast)
      omega

/-! ### Escapes -/

/-- The characters with a short escape, and the letters that stand for them. -/
def shortEscapes : List (Char × Char) :=
  [('\t', 't'), ('\r', 'r'), ('\n', 'n'), ('\x00', '0'), ('\\', '\\'), ('"', '"')]

/-- The three ways to escape a character. -/
inductive Escaped (c : Char) : List Char → Prop
  | short {letter : Char} (h : (c, letter) ∈ shortEscapes) : Escaped c ['\\', letter]
  | plain (hSlash : c ≠ '\\') (hQuote : c ≠ '"') (h : isPrintable c = true) : Escaped c [c]
  | long : Escaped c ('\\' :: 'u' :: '\x7b' :: Nat.toDigits 16 c.toNat ++ ['\x7d'])

theorem escape_escaped (c : Char) : Escaped c (escape c) := by
  unfold escape
  split_ifs with hTab hReturn hFeed hNull hSlash hQuote hPrintable
  · exact .short (by rw [hTab]; decide)
  · exact .short (by rw [hReturn]; decide)
  · exact .short (by rw [hFeed]; decide)
  · exact .short (by rw [hNull]; decide)
  · exact .short (by rw [hSlash]; decide)
  · exact .short (by rw [hQuote]; decide)
  · exact .plain hSlash hQuote hPrintable
  · exact .long

variable {c d : Char} {a b rest rest' : List Char}

/-- The digits of a long escape end at the brace. -/
theorem toDigits_append_injective {m n : Nat}
    (h : Nat.toDigits 16 m ++ '\x7d' :: rest = Nat.toDigits 16 n ++ '\x7d' :: rest') :
    m = n ∧ rest = rest' := by
  have hBrace (k : Nat) : ∀ x ∈ Nat.toDigits 16 k, (x != '\x7d') = true := by
    intro x hx
    obtain ⟨d, hd, rfl⟩ := mem_toDigits hx
    have hAll : ∀ d < 16, (Nat.digitChar d != '\x7d') = true := by decide
    exact hAll d hd
  obtain ⟨hDigits, hRest⟩ :=
    run_append_injective (hBrace m) (hBrace n) (by simp) (by simp) h
  exact ⟨toDigits_injective hDigits, (List.cons.inj hRest).2⟩

/-- A character can be read off its escape, whatever follows. -/
theorem Escaped.append_injective (h : Escaped c a) (h' : Escaped d b)
    (hSame : a ++ rest = b ++ rest') : c = d ∧ rest = rest' := by
  have hLetter : ∀ x ∈ shortEscapes, ∀ y ∈ shortEscapes, x.2 = y.2 → x.1 = y.1 := by decide
  have hLong : ∀ x ∈ shortEscapes, x.2 ≠ 'u' := by decide
  cases h with
  | @short letter hShort =>
    cases h' with
    | @short letter' hShort' =>
      simp at hSame
      exact ⟨hLetter _ hShort _ hShort' hSame.1, hSame.2⟩
    | plain hSlash => simp [hSlash.symm] at hSame
    | long =>
      simp at hSame
      exact absurd hSame.1 (hLong _ hShort)
  | plain hSlash =>
    cases h' with
    | short | long => simp [hSlash] at hSame
    | plain => simpa using hSame
  | long =>
    cases h' with
    | @short letter' hShort' =>
      simp at hSame
      exact absurd hSame.1.symm (hLong _ hShort')
    | plain hSlash => simp [hSlash.symm] at hSame
    | long =>
      obtain ⟨hCode, hRest⟩ : c.toNat = d.toNat ∧ rest = rest' :=
        toDigits_append_injective (by simpa using hSame)
      exact ⟨Char.toNat_inj.mp hCode, hRest⟩

/-- No escape begins with the mark that ends the text. -/
theorem Escaped.ne_mark (h : Escaped c a) : a ++ rest ≠ '"' :: rest' := by
  cases h with
  | short | long => simp
  | plain _ hQuote => simp [hQuote]

theorem flatMap_escape_injective
    (h : a.flatMap escape ++ '"' :: rest = b.flatMap escape ++ '"' :: rest') :
    a = b ∧ rest = rest' := by
  induction a generalizing b with
  | nil =>
    cases b with
    | nil => exact ⟨rfl, (List.cons.inj h).2⟩
    | cons d b =>
      rw [List.flatMap_cons, List.append_assoc] at h
      exact absurd h.symm (escape_escaped d).ne_mark
  | cons c a ih =>
    cases b with
    | nil =>
      rw [List.flatMap_cons, List.append_assoc] at h
      exact absurd h (escape_escaped c).ne_mark
    | cons d b =>
      rw [List.flatMap_cons, List.flatMap_cons, List.append_assoc, List.append_assoc] at h
      obtain ⟨rfl, hLater⟩ := (escape_escaped c).append_injective (escape_escaped d) h
      obtain ⟨hText, hRest⟩ := ih hLater
      exact ⟨by rw [hText], hRest⟩

/-- A text can be read off its quotation, whatever follows. -/
theorem quote_append_injective {a b rest rest' : String} (h : quote a ++ rest = quote b ++ rest') :
    a = b ∧ rest = rest' := by
  have hChars := congrArg String.toList h
  simp only [quote, String.toList_append, String.toList_ofList, List.cons_append, List.append_assoc,
    List.cons.injEq, true_and, List.nil_append] at hChars
  obtain ⟨hText, hRest⟩ := flatMap_escape_injective hChars
  exact ⟨String.toList_inj.mp hText, String.toList_inj.mp hRest⟩

theorem quote_injective {a b : String} (h : quote a = quote b) : a = b :=
  (quote_append_injective (congrArg (· ++ "") h)).1

theorem Escaped.oneLine (h : Escaped c a) : ∀ x ∈ a, x ∉ lineBreaks := by
  have hShort : ∀ x ∈ shortEscapes, x.2 ∉ lineBreaks := by decide
  have hDigit : ∀ d < 16, Nat.digitChar d ∉ lineBreaks := by decide
  have hSlash : '\\' ∉ lineBreaks := by decide
  have hU : 'u' ∉ lineBreaks := by decide
  have hOpen : '\x7b' ∉ lineBreaks := by decide
  have hClose : '\x7d' ∉ lineBreaks := by decide
  cases h with
  | short hMem => simpa using ⟨hSlash, hShort _ hMem⟩
  | plain _ _ hPrintable =>
    have hVisible : c ∉ lineBreaks := not_mem_lineBreaks hPrintable (by decide +kernel)
    simpa using hVisible
  | long =>
    have hDigits : ∀ x ∈ Nat.toDigits 16 c.toNat, x ∉ lineBreaks := by
      intro x hx
      obtain ⟨d, hd, rfl⟩ := mem_toDigits hx
      exact hDigit d hd
    simpa [List.forall_mem_append] using
      ⟨hSlash, hU, hOpen, fun x hx => hx.elim (hDigits x) (· ▸ hClose)⟩

theorem quote_oneLine (text : String) : OneLine (quote text) := by
  have hMark : '"' ∉ lineBreaks := by decide
  rw [OneLine, quote, String.toList_ofList, List.cons_append]
  refine List.forall_mem_cons.mpr ⟨hMark, List.forall_mem_append.mpr ⟨?_, by simpa using hMark⟩⟩
  intro x hx
  obtain ⟨c, -, hEscape⟩ := List.mem_flatMap.mp hx
  exact (escape_escaped c).oneLine x hEscape

end SqlReader.Text
