import SqlReader.Text.Number
import SqlReader.Token

/-! A movable place in a token stream.  Tokens are taken whole, by their text, or character by
character; taking the last character of a token moves on to the next one. -/

namespace SqlReader

/-- A place in a token stream: the index of a token, and how many bytes of its lexeme have been
consumed. -/
structure Place where
  position : Nat
  offset : Nat
  deriving DecidableEq, Repr

/-- What the examination of one character found. -/
structure CharMatch where
  /-- There was a character and it passed the test. -/
  matched : Bool
  /-- It was the last one of its token, or there was none. -/
  ended : Bool
  deriving DecidableEq, Repr

/-- A token stream with the place up to which it has been consumed. -/
structure Cursor where
  tokens : Array Token
  place : Place
  deriving DecidableEq, Repr

namespace Cursor

def ofTokens (tokens : List Token) : Cursor := ⟨tokens.toArray, ⟨0, 0⟩⟩

/-- The token at the cursor, which is `Token.endOfInput` past the last one. -/
def current (c : Cursor) : Token := c.tokens[c.place.position]?.getD .endOfInput

/-- The next character of the current token. -/
def currentChar? (c : Cursor) : Option Char := Text.charAt? c.current.value c.place.offset

def atEnd (c : Cursor) : Bool := c.current.isEnd

/-- No character of the current token has been consumed. -/
def atTokenStart (c : Cursor) : Bool := c.place.offset == 0

/-- The number of tokens from the current one on. -/
def tokensLeft (c : Cursor) : Nat := c.tokens.size - c.place.position

/-- The number of bytes of the current token that have not been consumed. -/
def bytesLeft (c : Cursor) : Nat := c.current.value.utf8ByteSize - c.place.offset

/-- The tokens from the current one on. -/
def rest (c : Cursor) : List Token := c.tokens.toList.drop c.place.position

theorem current_eq_headD (c : Cursor) : c.current = c.rest.headD .endOfInput := by
  rw [current, rest, List.headD_eq_head?_getD, List.head?_drop, Array.getElem?_toList]

theorem length_rest (c : Cursor) : c.rest.length = c.tokensLeft := by
  rw [rest, tokensLeft, List.length_drop, Array.length_toList]

/-- Moves on to the next token, if there is one, from wherever the cursor is in the current one. -/
def advance (c : Cursor) : Cursor :=
  { c with place :=
      ⟨if c.place.position < c.tokens.size then c.place.position + 1 else c.place.position, 0⟩ }

theorem rest_advance (c : Cursor) : c.advance.rest = c.rest.tail := by
  by_cases h : c.place.position < c.tokens.size
  · simp [rest, advance, h]
  · simp [rest, advance, h, List.drop_eq_nil_of_le (Nat.le_of_not_lt h)]

/-- The current token does not end the input and has one of the given texts. -/
def peekAny (c : Cursor) (texts : List String) : Bool :=
  !c.atEnd && texts.any c.current.hasText

def peek (c : Cursor) (text : String) : Bool := c.peekAny [text]

/-- Takes the current token if it has one of the given texts. -/
def terminalAny (c : Cursor) (texts : List String) : Bool × Cursor :=
  if c.peekAny texts then (true, c.advance) else (false, c)

def terminal (c : Cursor) (text : String) : Bool × Cursor := c.terminalAny [text]

/-- Consumes one character, whether or not it passes the test.  Where the current token has no
more characters nothing moves. -/
def consume (c : Cursor) (test : Char → Bool) : CharMatch × Cursor :=
  match c.currentChar? with
  | none => (⟨false, true⟩, c)
  | some char =>
    let next := c.place.offset + char.utf8Size
    if next < c.current.value.utf8ByteSize then
      (⟨test char, false⟩, { c with place := ⟨c.place.position, next⟩ })
    else (⟨test char, true⟩, c.advance)

/-- Only a character before the last one leaves the cursor in the same token. -/
theorem consume_of_not_ended {c : Cursor} {test : Char → Bool}
    (h : (c.consume test).1.ended = false) :
    (c.consume test).2.tokens = c.tokens ∧
      (c.consume test).2.place.position = c.place.position ∧
      c.place.offset < (c.consume test).2.place.offset ∧
      (c.consume test).2.place.offset < c.current.value.utf8ByteSize := by
  unfold consume at h ⊢
  split at h
  · cases h
  · simp only at h ⊢
    split at h
    · rename_i char _ hNext
      rw [if_pos hNext]
      exact ⟨rfl, rfl, by have := char.utf8Size_pos; simp; omega, hNext⟩
    · cases h

theorem bytesLeft_consume_lt {c : Cursor} {test : Char → Bool}
    (h : (c.consume test).1.ended = false) : (c.consume test).2.bytesLeft < c.bytesLeft := by
  obtain ⟨hTokens, hPosition, hLow, hHigh⟩ := consume_of_not_ended h
  have hCurrent : (c.consume test).2.current = c.current := by
    rw [current, current, hTokens, hPosition]
  rw [bytesLeft, bytesLeft, hCurrent]
  omega

/-- The last character of a token is consumed together with the token. -/
theorem tokensLeft_consume_lt {c : Cursor} {test : Char → Bool} {char : Char}
    (hChar : c.currentChar? = some char) (hEnded : (c.consume test).1.ended = true) :
    (c.consume test).2.tokensLeft < c.tokensLeft := by
  have hInside : c.place.position < c.tokens.size := by
    refine Nat.lt_of_not_le fun hOut => ?_
    have hCurrent : c.current = .endOfInput := by simp [current, hOut]
    rw [currentChar?, hCurrent] at hChar
    exact absurd hChar (by simp [Token.endOfInput, Text.charAt?_empty])
  unfold consume at hEnded ⊢
  rw [hChar] at hEnded ⊢
  simp only at hEnded ⊢
  split at hEnded
  · cases hEnded
  · rw [if_neg ‹_›]
    simp [tokensLeft, advance, hInside]
    omega

/-- Consumes the rest of the current token as long as its characters pass the test.  A character
that fails is consumed as well. -/
def consumeRest (c : Cursor) (test : Char → Bool) : Bool × Cursor :=
  let step := c.consume test
  if _ : step.1.ended = false then
    if step.1.matched then step.2.consumeRest test else (false, step.2)
  else (step.1.matched, step.2)
termination_by c.bytesLeft
decreasing_by exact bytesLeft_consume_lt ‹_›

/-- Consumes the rest of the current token, whose next character has to pass `first` and whose
others have to pass `others`. -/
def consumeWord (c : Cursor) (first others : Char → Bool) : Bool × Cursor :=
  let step := c.consume first
  if step.1.matched && !step.1.ended then step.2.consumeRest others else (step.1.matched, step.2)

/-- The text from the cursor up to a closing quote, where the cursor stops, appended to `text`.
Tokens that do not touch have one space between them; `lastStop` is the end of the token that was
begun last.  `none` if a character is neither a letter nor a number, or if the tokens end. -/
def quotedText (c : Cursor) (text : String) (lastStop : Option Nat) : Option String × Cursor :=
  if c.peek "\"" then (some text, c)
  else
    let gap := c.atTokenStart && lastStop.any (· < c.current.start)
    let text := if gap then text.push ' ' else text
    let lastStop := if c.atTokenStart then some c.current.stop else lastStop
    match _ : c.currentChar? with
    | none => (none, c)
    | some char =>
      let step := c.consume Text.isAlphanumeric
      if step.1.matched then step.2.quotedText (text.push char) lastStop else (none, step.2)
termination_by (c.tokensLeft, c.bytesLeft)
decreasing_by
  by_cases hEnded : (c.consume Text.isAlphanumeric).1.ended = false
  · have hLess := bytesLeft_consume_lt hEnded
    obtain ⟨hTokens, hPosition, -⟩ := consume_of_not_ended hEnded
    rw [tokensLeft, tokensLeft, hTokens, hPosition]
    exact Prod.Lex.right _ hLess
  · exact Prod.Lex.left _ _ (tokensLeft_consume_lt ‹_› (by simpa using hEnded))

end Cursor

end SqlReader
