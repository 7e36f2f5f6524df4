import SqlReader.Cursor
import SqlReader.Proofs.Phrase

/-! A cursor among the characters of its current token: what one step consumes, when the rest of a
token passes a test, and which tokens make up the text before a closing quote. -/

namespace SqlReader

open Text

namespace Cursor

/-- The cursor has consumed the characters `before` of its current token, and `after` are left. -/
structure Between (c : Cursor) (before after : List Char) : Prop where
  value : c.current.value.toList = before ++ after
  offset : c.place.offset = byteSize before

variable {c : Cursor} {test : Char → Bool} {char next : Char} {before after : List Char}

theorem between_start (h : c.place.offset = 0) : c.Between [] c.current.value.toList :=
  ⟨rfl, h⟩

theorem Between.currentChar? (h : c.Between before after) : c.currentChar? = after.head? := by
  rw [Cursor.currentChar?, h.offset]
  exact charAt?_byteSize h.value

theorem Between.utf8ByteSize (h : c.Between before after) :
    c.current.value.utf8ByteSize = c.place.offset + byteSize after := by
  rw [utf8ByteSize_eq, h.value, byteSize_append, h.offset]

theorem Between.consume_nil (h : c.Between before []) : c.consume test = (⟨false, true⟩, c) := by
  rw [consume, h.currentChar?]
  rfl

theorem Between.consume_last (h : c.Between before [char]) :
    c.consume test = (⟨test char, true⟩, c.advance) := by
  rw [consume, h.currentChar?]
  simp [h.utf8ByteSize]

theorem Between.consume_cons (h : c.Between before (char :: next :: after)) :
    c.consume test = (⟨test char, false⟩,
      { c with place := ⟨c.place.position, c.place.offset + char.utf8Size⟩ }) := by
  have hPos := next.utf8Size_pos
  rw [consume, h.currentChar?]
  simp only [List.head?_cons]
  rw [if_pos (by simp [h.utf8ByteSize]; omega)]

theorem Between.step (h : c.Between before (char :: after)) :
    Between { c with place := ⟨c.place.position, c.place.offset + char.utf8Size⟩ }
      (before ++ [char]) after :=
  ⟨by rw [List.append_assoc, List.singleton_append, ← h.value]; rfl, by simp [h.offset]⟩

@[simp] theorem advance_inside (c : Cursor) (offset : Nat) :
    advance { c with place := ⟨c.place.position, offset⟩ } = c.advance := rfl

/-- The rest of a token is consumed if it is not empty and all of it passes the test. -/
theorem Between.consumeRest (h : c.Between before after) (test : Char → Bool) :
    (c.consumeRest test).1 = isRun test after ∧
      (isRun test after = true → (c.consumeRest test).2 = c.advance) := by
  induction after generalizing c before with
  | nil =>
    rw [Cursor.consumeRest]
    simp [h.consume_nil, isRun]
  | cons char after ih =>
    rw [Cursor.consumeRest]
    cases after with
    | nil => simp [h.consume_last, isRun]
    | cons next after =>
      obtain ⟨hAnswer, hCursor⟩ := ih h.step
      rw [advance_inside] at hCursor
      by_cases hTest : test char = true
      · have hRun : isRun test (char :: next :: after) = isRun test (next :: after) := by
          simp [isRun, hTest]
        rw [hRun]
        simpa [h.consume_cons, hTest] using ⟨hAnswer, hCursor⟩
      · simp [h.consume_cons, isRun, hTest]

theorem Between.consumeWord (h : c.Between [] after) :
    (c.consumeWord isAlphabetic isAlphanumeric).1 = isName after ∧
      (isName after = true → (c.consumeWord isAlphabetic isAlphanumeric).2 = c.advance) := by
  match after, h with
  | [], h => simp [Cursor.consumeWord, h.consume_nil, isName]
  | [char], h => simp [Cursor.consumeWord, h.consume_last, isName]
  | char :: next :: rest, h =>
    obtain ⟨hAnswer, hCursor⟩ := h.step.consumeRest isAlphanumeric
    rw [advance_inside] at hCursor
    by_cases hFirst : isAlphabetic char = true
    · have hName : isName (char :: next :: rest) = isRun isAlphanumeric (next :: rest) := by
        simp [isName, isRun, hFirst]
      rw [hName]
      simpa [Cursor.consumeWord, h.consume_cons, hFirst] using ⟨hAnswer, hCursor⟩
    · simp [Cursor.consumeWord, h.consume_cons, isName, hFirst]

/-! ### Quoted text -/

/-- The space before a token that starts after the end of the one before it. -/
def gap (lastStop : Option Nat) (start : Nat) : List Char :=
  if lastStop.any (· < start) then [' '] else []

@[simp] theorem gap_stop (start : Nat) : gap (some start) start = [] := by simp [gap]

theorem gap_of_lt {stop start : Nat} (h : stop < start) : gap (some stop) start = [' '] := by
  simp [gap, h]

theorem gap_cases (lastStop : Option Nat) (start : Nat) :
    gap lastStop start = [] ∨ gap lastStop start = [' '] := by
  unfold gap
  split
  · exact .inr rfl
  · exact .inl rfl

theorem gap_space {space : List Char} {stop : Nat} (h : space = [] ∨ space = [' ']) :
    gap (some stop) (stop + byteSize space) = space := by
  rcases h with rfl | rfl
  · exact gap_stop stop
  · exact gap_of_lt (Nat.lt_add_of_pos_right (byteSize_pos (List.cons_ne_nil ' ' [])))

/-- The values of tokens one after the other, with a space between two that do not touch;
`lastStop` is the end of the token before the first. -/
def spaced : (lastStop : Option Nat) → List Token → List Char
  | _, [] => []
  | lastStop, t :: ts =>
    gap lastStop t.start ++ t.value.toList ++ spaced (some t.stop) ts

/-- The mark at the two ends of a quoted text. -/
def quotationMark : TokenClass := .terminal "\""

theorem peek_eq (c : Cursor) (text : String) :
    c.peek text = (TokenClass.terminal text).has c.current := by
  simp [peek, peekAny, atEnd, TokenClass.has]

/-- A token of which a character has been consumed and another is left is longer than a mark. -/
theorem Between.peek_quotationMark (h : c.Between (char :: before) (next :: after)) :
    c.peek "\"" = false := by
  rw [peek_eq, TokenClass.has, Token.hasText, sameIgnoringCase, h.value]
  simp

theorem Between.atTokenStart (h : c.Between before after) :
    c.atTokenStart = before.isEmpty := by
  rw [Cursor.atTokenStart, h.offset]
  cases before with
  | nil => rfl
  | cons char before =>
    have := byteSize_pos (List.cons_ne_nil char before)
    simp only [List.isEmpty_cons, beq_eq_false_iff_ne]
    omega

theorem push_append_ofList (text : String) (char : Char) (chars : List Char) :
    text.push char ++ String.ofList chars = text ++ String.ofList (char :: chars) :=
  String.toList_inj.mp (by simp)

theorem quotedText_none (hPeek : c.peek "\"" = false) (hChar : c.currentChar? = none)
    (text : String) (lastStop : Option Nat) : c.quotedText text lastStop = (none, c) := by
  rw [quotedText, hPeek, if_neg (by simp)]
  dsimp only
  split
  · rfl
  · rename_i hSome
    rw [hChar] at hSome
    cases hSome

theorem quotedText_some (hPeek : c.peek "\"" = false) (hChar : c.currentChar? = some char)
    (text : String) (lastStop : Option Nat) :
    c.quotedText text lastStop =
      if (c.consume isAlphanumeric).1.matched then
        (c.consume isAlphanumeric).2.quotedText
          ((if c.atTokenStart && lastStop.any (· < c.current.start) then text.push ' '
            else text).push char)
          (if c.atTokenStart then some c.current.stop else lastStop)
      else (none, (c.consume isAlphanumeric).2) := by
  rw [quotedText, hPeek, if_neg (by simp)]
  dsimp only
  split
  · rename_i hNone
    rw [hChar] at hNone
    cases hNone
  · rename_i found hFound
    obtain rfl : found = char := Option.some.inj (hFound.symm.trans hChar)
    rfl

theorem Between.quotedText_cons (h : c.Between before (next :: after))
    (hPeek : c.peek "\"" = false) (text : String) (lastStop : Option Nat) :
    c.quotedText text lastStop =
      if isAlphanumeric next then
        (c.consume isAlphanumeric).2.quotedText
          ((if c.atTokenStart && lastStop.any (· < c.current.start) then text.push ' '
            else text).push next)
          (if c.atTokenStart then some c.current.stop else lastStop)
      else (none, (c.consume isAlphanumeric).2) := by
  have hMatched : (c.consume isAlphanumeric).1.matched = isAlphanumeric next := by
    cases after with
    | nil => rw [h.consume_last]
    | cons => rw [h.consume_cons]
  rw [quotedText_some hPeek h.currentChar?, hMatched]

/-- The rest of a token of which a character has been consumed is appended to the text if it is
letters and numbers. -/
theorem Between.quotedText_inside (h : c.Between (char :: before) (next :: after)) (text : String)
    (lastStop : Option Nat) :
    if isRun isAlphanumeric (next :: after) then
      c.quotedText text lastStop =
        c.advance.quotedText (text ++ String.ofList (next :: after)) lastStop
    else ∃ stop : Cursor, c.quotedText text lastStop = (none, stop) ∧ stop.tokens = c.tokens := by
  have hStart : c.atTokenStart = false := h.atTokenStart
  induction after generalizing c before next text with
  | nil =>
    rw [h.quotedText_cons h.peek_quotationMark, h.consume_last, hStart]
    by_cases hNext : isAlphanumeric next = true
    · rw [← push_append_ofList, if_pos hNext]
      simp [isRun, hNext]
    · simp [isRun, hNext, advance]
  | cons other after ih =>
    have hStep := ih h.step (text.push next) h.step.atTokenStart
    rw [h.quotedText_cons h.peek_quotationMark, h.consume_cons, hStart]
    by_cases hNext : isAlphanumeric next = true
    · have hRun : isRun isAlphanumeric (next :: other :: after) =
          isRun isAlphanumeric (other :: after) := by simp [isRun, hNext]
      rw [hRun, if_pos hNext, ← push_append_ofList]
      exact hStep
    · simp [isRun, hNext]

/-- A token between quotes is appended to the text, after a space if it does not touch the one
before it. -/
theorem quotedText_token (hStart : c.place.offset = 0) (hPeek : c.peek "\"" = false)
    (text : String) (lastStop : Option Nat) :
    if TokenClass.plain.has c.current then
      c.quotedText text lastStop = c.advance.quotedText
        (text ++ String.ofList (gap lastStop c.current.start ++ c.current.value.toList))
        (some c.current.stop)
    else ∃ stop : Cursor, c.quotedText text lastStop = (none, stop) ∧ stop.tokens = c.tokens := by
  have h := between_start hStart
  have hAtStart : c.atTokenStart = true := h.atTokenStart
  rw [TokenClass.has]
  have hText : (if c.atTokenStart && lastStop.any (· < c.current.start) then text.push ' '
      else text) = text ++ String.ofList (gap lastStop c.current.start) := by
    rw [hAtStart, gap, Bool.true_and]
    split <;> exact String.toList_inj.mp (by simp)
  match hValue : c.current.value.toList with
  | [] =>
    rw [hValue] at h
    exact ⟨c, quotedText_none hPeek h.currentChar? text lastStop, rfl⟩
  | [char] =>
    rw [hValue] at h
    rw [h.quotedText_cons hPeek, hText, h.consume_last, hAtStart]
    by_cases hChar : isAlphanumeric char = true
    · rw [if_pos hChar, String.ofList_append, ← String.append_assoc, ← push_append_ofList]
      simp [isRun, hChar]
    · simp [isRun, hChar, advance]
  | char :: next :: after =>
    rw [hValue] at h
    have hStep := h.step.quotedText_inside
      ((text ++ String.ofList (gap lastStop c.current.start)).push char) (some c.current.stop)
    rw [h.quotedText_cons hPeek, hText, h.consume_cons, hAtStart]
    by_cases hChar : isAlphanumeric char = true
    · have hRun : isRun isAlphanumeric (char :: next :: after) =
          isRun isAlphanumeric (next :: after) := by simp [isRun, hChar]
      rw [hRun, if_pos hChar, String.ofList_append, ← String.append_assoc, ← push_append_ofList]
      exact hStep
    · simp [isRun, hChar]

end Cursor

end SqlReader
