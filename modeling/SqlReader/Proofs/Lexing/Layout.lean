import SqlReader.Proofs.Cursor.Characters
import SqlReader.Proofs.Lexing.Concatenation
import SqlReader.Proofs.Text.Words

/-! The layout of a text is the white space before, between and after its words.  A text is cut
word by word, and the place of a token tells no more about the layout than whether there is white
space before it.  So texts of the same words are cut into the same tokens but for their places, or
the cutting fails at the same character of the same word. -/

namespace SqlReader

open Text Cursor

/-! ### Pieces -/

/-- What a token is without its place, and the space that stands for the white space before it. -/
structure Piece where
  gap : List Char
  kind : TokenKind
  value : String
  deriving DecidableEq, Repr

/-- The tokens without their places; `lastStop` is the end of the token before the first. -/
def pieces : (lastStop : Option Nat) → List Token → List Piece
  | _, [] => []
  | lastStop, t :: ts => ⟨gap lastStop t.start, t.kind, t.value⟩ :: pieces (some t.stop) ts

/-- The end of the last token, where `lastStop` is the end of the token before the first. -/
def stopAfter (lastStop : Option Nat) (ts : List Token) : Option Nat :=
  ts.foldl (fun _ t => some t.stop) lastStop

theorem stopAfter_isSome {lastStop : Option Nat} {ts : List Token} (h : lastStop.isSome ∨ ts ≠ []) :
    (stopAfter lastStop ts).isSome = true := by
  induction ts generalizing lastStop with
  | nil => simpa [stopAfter] using h
  | cons t ts ih => exact ih (.inl rfl)

variable {start n : Nat} {lastStop : Option Nat} {text : List Char} {t : Token} {ts us : List Token}

theorem pieces_append (lastStop : Option Nat) (ts us : List Token) :
    pieces lastStop (ts ++ us) = pieces lastStop ts ++ pieces (stopAfter lastStop ts) us := by
  induction ts generalizing lastStop with
  | nil => rfl
  | cons t ts ih =>
    rw [List.cons_append, pieces, ih, pieces, List.cons_append]
    rfl

/-- A change of the place of all tokens does not show. -/
theorem pieces_shift (n stop : Nat) (ts : List Token) :
    pieces (some (n + stop)) (ts.map (Token.shift n)) = pieces (some stop) ts := by
  induction ts generalizing stop with
  | nil => rfl
  | cons t ts ih =>
    have hGap : gap (some (n + stop)) (n + t.start) = gap (some stop) t.start := by simp [gap]
    simp [pieces, hGap, ih]

theorem spaced_eq_pieces (lastStop : Option Nat) (ts : List Token) :
    spaced lastStop ts = (pieces lastStop ts).flatMap fun p => p.gap ++ p.value.toList := by
  induction ts generalizing lastStop with
  | nil => rfl
  | cons t ts ih => rw [spaced, pieces, List.flatMap_cons, ih]

/-! ### Scans -/

theorem Laid.stopAfter_le (h : Laid start text ts) (hLast : ∀ stop ∈ lastStop, stop ≤ start) :
    ∀ stop ∈ stopAfter lastStop ts, stop ≤ start + byteSize text := by
  induction h generalizing lastStop with
  | space => exact fun stop hStop => Nat.le_add_right_of_le (hLast stop hStop)
  | @token start space rest t ts _ hStart _ _ _ ih =>
    intro stop hStop
    have hTail : ∀ stop ∈ some t.stop, stop ≤ t.stop := by simp
    have hLe := ih hTail stop hStop
    rw [Token.stop_eq, hStart] at hLe
    rw [byteSize_append, byteSize_append]
    omega

/-- What a scan gives, up to the layout of the text: the pieces, or the visible characters from the
error on. -/
def withoutLayout (lastStop : Option Nat) :
    Except LexError (List Token) → Except (List Char) (List Piece)
  | .ok ts => .ok (pieces lastStop ts)
  | .error e => .error (visible e.remaining.toList)

/-- Cuts words one by one; `gap` stands for the white space before the first. -/
def cutWords (gap : List Char) : List (List Char) → Except (List Char) (List Piece)
  | [] => .ok []
  | word :: ws =>
    match onePass ruleLexeme 0 word with
    | .ok ts =>
      (cutWords [' '] ws).map ((pieces none ts).modifyHead ({ · with gap := gap }) ++ ·)
    | .error e => .error (e.remaining.toList ++ ws.flatten)

theorem pieces_shift_after (hNe : ts ≠ []) (hLast : ∀ stop ∈ lastStop, stop < n) :
    pieces lastStop (ts.map (Token.shift n)) = (pieces none ts).modifyHead
      ({ · with gap := if lastStop.isSome then [' '] else [] }) := by
  obtain ⟨t, ts, rfl⟩ := List.exists_cons_of_ne_nil hNe
  have hGap : gap lastStop (n + t.start) = if lastStop.isSome then [' '] else [] := by
    cases lastStop with
    | none => rfl
    | some stop => exact gap_of_lt (Nat.lt_add_right t.start (hLast stop rfl))
  simp [pieces, hGap, pieces_shift]

theorem visible_error {space word rest : List Char} {e : LexError}
    (h : FirstWord text space word rest) (hCut : onePass ruleLexeme start word = .error e) :
    visible (e.remaining.toList ++ rest) = e.remaining.toList ++ (words rest).flatten := by
  obtain ⟨before, c, after, hWord, -, rfl⟩ := onePass_error_place hCut
  have hVisible : ∀ d ∈ c :: after, isWhiteSpace d = false := fun d hd =>
    h.word_visible d (hWord ▸ List.mem_append_right before hd)
  rw [visible_append, String.toList_ofList, visible_of_visible hVisible, flatten_words]

/-- A text is cut word by word; after a token, it has white space before its first word too. -/
theorem onePass_withoutLayout
    (hLast : ∀ stop ∈ lastStop, stop ≤ start ∧ ∀ c ∈ text.head?, isWhiteSpace c = true) :
    withoutLayout lastStop (onePass ruleLexeme start text) =
      cutWords (if lastStop.isSome then [' '] else []) (words text) := by
  -- By induction on the words.  Before each but the first there is white space, and the token
  -- before it has stopped where that begins: so its first token is apart from that token.
  generalize hWords : words text = ws
  induction ws generalizing text start lastStop with
  | nil =>
    rw [← List.append_nil text, onePass_space (words_eq_nil hWords), onePass_nil]
    rfl
  | cons word ws ih =>
    obtain ⟨space, rest, hFirst, hRest⟩ := words_eq_cons hWords
    have hBefore : ∀ stop ∈ lastStop, stop < start + byteSize space := fun stop hStop => by
      have hPos := byteSize_pos (hFirst.space_ne (hLast stop hStop).2)
      have hLe := (hLast stop hStop).1
      omega
    have hWord := onePass_shift (start + byteSize space) 0 word
    rw [Nat.add_zero] at hWord
    rw [hFirst.split, onePass_space hFirst.white, onePass_before (atWordEnd_of_head hFirst.ends),
      cutWords]
    cases hCut : onePass ruleLexeme 0 word with
    | error e =>
      rw [hCut] at hWord
      rw [hWord, ← hRest]
      have hVisible := visible_error hFirst hCut
      simpa [withoutLayout, LexError.shift] using hVisible
    | ok us =>
      rw [hCut] at hWord
      have hNe : us ≠ [] := by
        obtain ⟨c, cs, rfl⟩ := List.exists_cons_of_ne_nil hFirst.word_ne
        exact ne_nil_of_onePass (hFirst.word_visible c List.mem_cons_self) List.mem_cons_self hCut
      have hStop := (laid_of_onePass hWord).stopAfter_le fun stop hStop =>
        Nat.le_of_lt (hBefore stop hStop)
      have hLater := ih (fun stop h => ⟨hStop stop h, hFirst.ends⟩) hRest
      rw [if_pos (stopAfter_isSome (.inr (mt List.map_eq_nil_iff.mp hNe)))] at hLater
      rw [hWord, ← hLater]
      dsimp only
      rw [← pieces_shift_after hNe hBefore]
      cases onePass ruleLexeme (start + byteSize space + byteSize word) rest with
      | error e => rfl
      | ok more => exact congrArg Except.ok (pieces_append _ _ more)

/-! ### Texts of the same words -/

theorem lex_same_words {a b : String} (h : words a.toList = words b.toList) :
    withoutLayout none (lex a) = withoutLayout none (lex b) := by
  rw [lex_eq_onePass, lex_eq_onePass, onePass_withoutLayout (by simp),
    onePass_withoutLayout (by simp), h]

/-- The text cannot be cut at the character `c` that comes after `before`. -/
structure FailsAt (text : String) (e : LexError) (before : List Char) (c : Char)
    (after : List Char) : Prop where
  split : text.toList = before ++ c :: after
  visible : isWhiteSpace c = false
  error_eq : e = ⟨byteSize before, String.ofList (c :: after)⟩

theorem failsAt_of_lex {text : String} {e : LexError} (h : lex text = .error e) :
    ∃ before c after, FailsAt text e before c after := by
  rw [lex_eq_onePass] at h
  obtain ⟨before, c, after, hText, hVisible, he⟩ := onePass_error_place h
  exact ⟨before, c, after, hText, hVisible, by rw [he, Nat.zero_add]⟩

/-- Texts of the same words that cannot be cut fail at the same character, with the same visible
characters before it. -/
theorem fails_same_words {a b : String} {e e' : LexError} (h : words a.toList = words b.toList)
    (ha : lex a = .error e) (hb : lex b = .error e') : ∃ c before after before' after',
      FailsAt a e before c after ∧ FailsAt b e' before' c after' ∧
        visible before = visible before' := by
  obtain ⟨before, c, after, hFails⟩ := failsAt_of_lex ha
  obtain ⟨before', c', after', hFails'⟩ := failsAt_of_lex hb
  have hRest := lex_same_words h
  rw [ha, hb, hFails.error_eq, hFails'.error_eq] at hRest
  have hRest : visible (c :: after) = visible (c' :: after') := by
    simpa [withoutLayout] using hRest
  have hWhole : visible a.toList = visible b.toList := by
    rw [← flatten_words, ← flatten_words, h]
  rw [hFails.split, hFails'.split, visible_append, visible_append, hRest] at hWhole
  have hHead : c = c' := by
    simp only [Text.visible, List.filter_cons, hFails.visible, hFails'.visible, Bool.not_false,
      if_true, List.cons.injEq] at hRest
    exact hRest.1
  subst hHead
  exact ⟨c, before, after, before', after', hFails, hFails', List.append_cancel_right hWhole⟩

end SqlReader
