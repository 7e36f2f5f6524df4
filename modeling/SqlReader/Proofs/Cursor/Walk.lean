import SqlReader.Proofs.Cursor.Reached
import SqlReader.Proofs.Cursor.Tokens

/-! A walk over a token stream character by character.  It examines the characters that are left of
the current token and then those of the tokens after it, each once and in order, whatever the tests
answer; and it stops before a token that has no characters. -/

namespace SqlReader

/-- The characters of a text, each with whether it is the last. -/
def markLast : List Char → List (Char × Bool)
  | [] => []
  | [char] => [(char, true)]
  | char :: next :: rest => (char, false) :: markLast (next :: rest)

/-- The characters of texts up to an empty one, each with whether it is the last of its text. -/
def charsAhead : List (List Char) → List (Char × Bool)
  | [] => []
  | text :: texts => if text.isEmpty then [] else markLast text ++ charsAhead texts

/-- The place behind a character, which is the start of the next token if the character is the last
of its own. -/
def Place.behind (place : Place) (char : Char × Bool) : Place :=
  if char.2 then ⟨place.position + 1, 0⟩
  else ⟨place.position, place.offset + char.1.utf8Size⟩

/-- The token can be consumed character by character. -/
def Token.hasChars (token : Token) : Bool := !token.value.toList.isEmpty

/-- What the examination of a character answers. -/
def examine (test : Char → Bool) (char : Char × Bool) : CharMatch := ⟨test char.1, char.2⟩

namespace Cursor

open Text

/-- Consumes one character for each test, whatever the tests answer. -/
def walk (c : Cursor) : List (Char → Bool) → List CharMatch × Cursor
  | [] => ([], c)
  | test :: tests =>
    let step := c.consume test
    let later := step.2.walk tests
    (step.1 :: later.1, later.2)

/-- The characters ahead of a cursor that has `after` left of its token. -/
def ahead (c : Cursor) (after : List Char) : List (Char × Bool) :=
  charsAhead (after :: c.rest.tail.map (·.value.toList))

variable {c : Cursor} {before after : List Char} {char next : Char}

/-! ### One step -/

theorem rest_of_between (h : c.Between before (char :: after)) :
    ∃ ts, c.rest = c.current :: ts := by
  cases hRest : c.rest with
  | nil =>
    have hValue := h.value
    rw [current_of_rest_nil hRest] at hValue
    simp [Token.endOfInput] at hValue
  | cons t ts => exact ⟨ts, by rw [current_of_rest hRest]⟩

theorem place_advance (h : c.Between before (char :: after)) :
    c.advance.place = ⟨c.place.position + 1, 0⟩ := by
  obtain ⟨ts, hRest⟩ := rest_of_between h
  have hLength := congrArg List.length hRest
  rw [length_rest, tokensLeft, List.length_cons] at hLength
  rw [advance, if_pos (by omega)]

/-- Past the last token there are no characters, and in it those of the token. -/
theorem ahead_advance (c : Cursor) :
    c.advance.ahead c.advance.current.value.toList =
      charsAhead (c.rest.tail.map (·.value.toList)) := by
  rw [ahead, current_eq_headD, rest_advance]
  cases c.rest.tail <;> rfl

/-- A step examines the first of the characters ahead and leaves the others ahead. -/
theorem Between.consume_ahead (h : c.Between before after) (test : Char → Bool) :
    match c.ahead after with
    | [] => c.consume test = (⟨false, true⟩, c)
    | char :: others => ∃ d before' after', c.consume test = (examine test char, d) ∧
        d = { c with place := c.place.behind char } ∧ d.Between before' after' ∧
        d.ahead after' = others := by
  match after, h with
  | [], h => exact h.consume_nil
  | [char], h =>
    have hPlace : c.advance = { c with place := c.place.behind (char, true) } := by
      rw [Place.behind, if_pos rfl, ← place_advance h]
      rfl
    exact ⟨c.advance, [], _, h.consume_last, hPlace, between_start rfl, c.ahead_advance⟩
  | char :: next :: after, h =>
    exact ⟨_, _, _, h.consume_cons, rfl, h.step, rfl⟩

/-! ### The walk -/

/-- A walk answers for the characters ahead, and for none once these are used up. -/
theorem Between.walk_eq (h : c.Between before after) (tests : List (Char → Bool)) :
    c.walk tests =
      (List.zipWith examine tests (c.ahead after) ++
          List.replicate (tests.length - (c.ahead after).length) ⟨false, true⟩,
        { c with place := ((c.ahead after).take tests.length).foldl Place.behind c.place }) := by
  induction tests generalizing c before after with
  | nil => simp [walk]
  | cons test tests ih =>
    have hStep := h.consume_ahead test
    cases hAhead : c.ahead after with
    | nil =>
      rw [hAhead] at hStep
      have hLater := ih h
      rw [hAhead] at hLater
      rw [walk, hStep, hLater]
      simp [List.replicate_succ]
    | cons char others =>
      rw [hAhead] at hStep
      obtain ⟨d, before', after', hConsume, rfl, hBetween, hOthers⟩ := hStep
      have hLater := ih hBetween
      rw [hOthers] at hLater
      rw [walk, hConsume, hLater]
      simp

/-! ### The end of the walk -/

theorem behind_markLast {text : List Char} (hNe : text ≠ []) (place : Place) :
    (markLast text).foldl Place.behind place = ⟨place.position + 1, 0⟩ := by
  induction text generalizing place with
  | nil => exact absurd rfl hNe
  | cons char text ih =>
    cases text with
    | nil => rfl
    | cons next text =>
      rw [markLast, List.foldl_cons, ih (List.cons_ne_nil next text)]
      rfl

/-- Whole texts are consumed up to the first that is empty. -/
theorem behind_charsAhead (texts : List (List Char)) (position : Nat) :
    (charsAhead texts).foldl Place.behind ⟨position, 0⟩ =
      ⟨position + (texts.takeWhile (!·.isEmpty)).length, 0⟩ := by
  induction texts generalizing position with
  | nil => rfl
  | cons text texts ih =>
    by_cases hNil : text = []
    · simp [charsAhead, hNil]
    · rw [charsAhead, if_neg (by simpa using hNil), List.foldl_append, behind_markLast hNil, ih]
      simp [hNil, Nat.add_assoc, Nat.add_comm 1]

theorem fst_markLast (text : List Char) : (markLast text).map Prod.fst = text := by
  induction text with
  | nil => rfl
  | cons char text ih =>
    cases text with
    | nil => rfl
    | cons next text => rw [markLast, List.map_cons, ih]

theorem fst_charsAhead {texts : List (List Char)} (h : ∀ text ∈ texts, text ≠ []) :
    (charsAhead texts).map Prod.fst = texts.flatten := by
  induction texts with
  | nil => rfl
  | cons text texts ih =>
    obtain ⟨hText, hTexts⟩ := List.forall_mem_cons.mp h
    rw [charsAhead, if_neg (by simpa using hText), List.map_append, fst_markLast, ih hTexts,
      List.flatten_cons]

/-- All characters ahead end before the first token that has none. -/
theorem Between.behind_ahead (h : c.Between before after) (hEmpty : after = [] → before = []) :
    (c.ahead after).foldl Place.behind c.place =
      ⟨c.place.position + (c.rest.takeWhile Token.hasChars).length, 0⟩ := by
  cases after with
  | nil =>
    have hOffset := h.offset
    have hValue := h.value
    rw [hEmpty rfl] at hOffset hValue
    have hNone : c.rest.takeWhile Token.hasChars = [] := by
      cases hRest : c.rest with
      | nil => rfl
      | cons t ts =>
        rw [current_of_rest hRest] at hValue
        simp [Token.hasChars, hValue]
    rw [hNone]
    show c.place = ⟨c.place.position, 0⟩
    rw [← byteSize_nil, ← hOffset]
  | cons char after =>
    obtain ⟨ts, hRest⟩ := rest_of_between h
    have hCurrent : c.current.hasChars = true := by simp [Token.hasChars, h.value]
    have hLater : (ts.map (·.value.toList)).takeWhile (!·.isEmpty) =
        (ts.takeWhile Token.hasChars).map (·.value.toList) := List.takeWhile_map
    rw [ahead, charsAhead, if_neg (by simp), List.foldl_append,
      behind_markLast (List.cons_ne_nil char after), behind_charsAhead, hRest, List.tail_cons,
      hLater, List.length_map, List.takeWhile_cons_of_pos hCurrent, List.length_cons,
      Nat.add_assoc, Nat.add_comm 1]

/-- If every token left has characters, all of them are ahead. -/
theorem Between.fst_ahead (h : c.Between before after) (hEmpty : after = [] → before = [])
    (hChars : ∀ t ∈ c.rest, t.value ≠ "") :
    (c.ahead after).map Prod.fst = after ++ c.rest.tail.flatMap (·.value.toList) := by
  cases hRest : c.rest with
  | nil =>
    have hValue := h.value
    rw [current_of_rest_nil hRest] at hValue
    obtain ⟨-, rfl⟩ := List.append_eq_nil_iff.mp hValue.symm
    rfl
  | cons t ts =>
    obtain ⟨ht, hTs⟩ := List.forall_mem_cons.mp (hRest ▸ hChars)
    have hAfter : after ≠ [] := by
      rintro rfl
      have hValue := h.value
      rw [hEmpty rfl, current_of_rest hRest] at hValue
      exact ht (String.toList_eq_nil_iff.mp hValue)
    have hTexts : ∀ text ∈ after :: ts.map (·.value.toList), text ≠ [] := by
      refine List.forall_mem_cons.mpr ⟨hAfter, fun text hText => ?_⟩
      obtain ⟨u, hu, rfl⟩ := List.mem_map.mp hText
      exact mt String.toList_eq_nil_iff.mp (hTs u hu)
    rw [ahead, hRest, List.tail_cons, fst_charsAhead hTexts, List.flatten_cons, List.flatMap_def]

/-- Wherever steps have brought a cursor, a walk examines the characters left of its token and then
those of the tokens up to the first that has none, each once and in order: each call answers for its
own character, and the place moves behind that character whatever the answer is.  After the last
character further calls find none and move nothing.  The walk has then come to the first token that
has no characters, or past the last token if all have some. -/
theorem walks_examine_each_character_once {tokens : List Token} (h : Reached tokens c) :
    ∃ before after, c.Between before after ∧
      (∀ tests, c.walk tests =
        (List.zipWith examine tests (c.ahead after) ++
            List.replicate (tests.length - (c.ahead after).length) ⟨false, true⟩,
          { c with place := ((c.ahead after).take tests.length).foldl Place.behind c.place })) ∧
      (c.ahead after).foldl Place.behind c.place =
        ⟨c.place.position + (c.rest.takeWhile Token.hasChars).length, 0⟩ ∧
      ((∀ t ∈ c.rest, t.value ≠ "") →
        (c.ahead after).map Prod.fst = after ++ c.rest.tail.flatMap (·.value.toList) ∧
          (c.ahead after).foldl Place.behind c.place = ⟨tokens.length, 0⟩) := by
  obtain ⟨hInside, before, after, hBetween, hEmpty⟩ := h.settled
  have hEnd := hBetween.behind_ahead hEmpty
  refine ⟨before, after, hBetween, hBetween.walk_eq, hEnd, fun hChars => ⟨?_, ?_⟩⟩
  · exact hBetween.fst_ahead hEmpty hChars
  · have hAll : c.rest.takeWhile Token.hasChars = c.rest :=
      List.takeWhile_eq_self_iff.mpr fun t ht => by simp [Token.hasChars, hChars t ht]
    have hSize : c.tokens.size = tokens.length := by rw [h.tokens_eq, List.size_toArray]
    rw [hEnd, hAll, length_rest, tokensLeft, hSize, Nat.add_sub_cancel' (hSize ▸ hInside)]

/-- A walk that begins inside a token, fails a test at a character of two bytes, and stops before a
token without characters. -/
theorem walk_stops_before_empty_token :
    Reached [⟨"aéb", .id, 0⟩, ⟨"7", .int, 4⟩, ⟨"", .id, 5⟩, ⟨"c", .id, 5⟩]
        ⟨#[⟨"aéb", .id, 0⟩, ⟨"7", .int, 4⟩, ⟨"", .id, 5⟩, ⟨"c", .id, 5⟩], ⟨0, 1⟩⟩ ∧
      walk ⟨#[⟨"aéb", .id, 0⟩, ⟨"7", .int, 4⟩, ⟨"", .id, 5⟩, ⟨"c", .id, 5⟩], ⟨0, 1⟩⟩
          [Char.isDigit, isAlphabetic, Char.isDigit, isAlphabetic, isAlphanumeric] =
        ([⟨false, false⟩, ⟨true, true⟩, ⟨true, true⟩, ⟨false, true⟩, ⟨false, true⟩],
          ⟨#[⟨"aéb", .id, 0⟩, ⟨"7", .int, 4⟩, ⟨"", .id, 5⟩, ⟨"c", .id, 5⟩], ⟨2, 0⟩⟩) := by
  have hReached : Reached [⟨"aéb", .id, 0⟩, ⟨"7", .int, 4⟩, ⟨"", .id, 5⟩, ⟨"c", .id, 5⟩] _ :=
    Reached.start.consume isAlphabetic
  obtain ⟨before, after, ⟨hValue, hOffset⟩, hWalk, -⟩ := walks_examine_each_character_once hReached
  have hAfter : after = ['é', 'b'] := by
    have hText : ['a', 'é', 'b'] = before ++ after := hValue
    have hSize : 1 = byteSize before := hOffset
    match before with
    | [] => cases hSize
    | [char] => exact (List.cons.inj hText).2.symm
    | char :: next :: rest =>
      have hPos := char.utf8Size_pos
      have hPos' := next.utf8Size_pos
      rw [byteSize_cons, byteSize_cons] at hSize
      omega
  subst hAfter
  refine ⟨hReached, (hWalk _).trans ?_⟩
  decide +kernel

end Cursor

end SqlReader
