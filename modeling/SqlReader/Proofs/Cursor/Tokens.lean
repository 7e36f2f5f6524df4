import SqlReader.Proofs.Cursor.Characters
import SqlReader.Proofs.Phrase.Classes

/-! A cursor between tokens: taking a token, and taking the tokens of a quoted text. -/

namespace SqlReader.Cursor

open Text

/-- `d` is `c` moved to the start of a token, with the tokens `rest` to come. -/
structure Reaches (c : Cursor) (rest : List Token) (d : Cursor) : Prop where
  tokens : d.tokens = c.tokens
  offset : d.place.offset = 0
  inside : d.place.position ≤ d.tokens.size
  rest : d.rest = rest

/-- The cursor is at the start of a token, or past the last one. -/
def BetweenTokens (c : Cursor) : Prop := c.Reaches c.rest c

variable {c d e : Cursor} {t : Token} {ts rest : List Token}

theorem ofTokens_betweenTokens (tokens : List Token) : (ofTokens tokens).BetweenTokens :=
  ⟨rfl, rfl, Nat.zero_le _, rfl⟩

theorem Reaches.betweenTokens (h : c.Reaches rest d) : d.BetweenTokens :=
  ⟨rfl, h.offset, h.inside, rfl⟩

theorem Reaches.trans (h : c.Reaches ts d) (h' : d.Reaches rest e) : c.Reaches rest e :=
  ⟨h'.tokens.trans h.tokens, h'.offset, h'.inside, h'.rest⟩

theorem Reaches.place (h : c.Reaches rest d) :
    d.place = ⟨c.tokens.size - rest.length, 0⟩ := by
  have hLength := congrArg List.length h.rest
  have hInside := h.inside
  rw [length_rest, tokensLeft] at hLength
  rw [← h.tokens]
  have hPosition : d.place.position = d.tokens.size - rest.length := by omega
  rw [← hPosition, ← h.offset]

theorem current_of_rest (h : c.rest = t :: ts) : c.current = t := by
  rw [current_eq_headD, h, List.headD_cons]

theorem current_of_rest_nil (h : c.rest = []) : c.current = .endOfInput := by
  rw [current_eq_headD, h, List.headD_nil]

theorem reaches_advance (h : c.rest = t :: ts) : c.Reaches ts c.advance := by
  have hLength := congrArg List.length h
  rw [length_rest, tokensLeft, List.length_cons] at hLength
  refine ⟨rfl, rfl, ?_, by rw [rest_advance, h, List.tail_cons]⟩
  simp only [advance]
  split <;> omega

theorem peekAny_nil (h : c.rest = []) (texts : List String) : c.peekAny texts = false := by
  rw [peekAny, atEnd, current_of_rest_nil h]
  rfl

theorem peekAny_cons (h : c.rest = t :: ts) (texts : List String) :
    c.peekAny texts = texts.any fun text => (TokenClass.terminal text).has t := by
  rw [peekAny, atEnd, current_of_rest h]
  cases hEnd : t.isEnd <;> simp [TokenClass.has, hEnd]

/-- The text before a closing quote is that of the tokens of letters and numbers before it. -/
theorem quotedText_eq (h : c.BetweenTokens) (text : String) (lastStop : Option Nat) :
    match c.rest.dropWhile TokenClass.plain.has with
    | [] => ∃ stop, c.quotedText text lastStop = (none, stop) ∧ stop.tokens = c.tokens
    | t :: rest =>
      if quotationMark.has t then
        ∃ stop, c.Reaches (t :: rest) stop ∧ c.quotedText text lastStop =
          (some (text ++ String.ofList (spaced lastStop (c.rest.takeWhile TokenClass.plain.has))),
            stop)
      else ∃ stop, c.quotedText text lastStop = (none, stop) ∧ stop.tokens = c.tokens := by
  induction hRest : c.rest generalizing c text lastStop with
  | nil =>
    have hCurrent := current_of_rest_nil hRest
    have hToken := quotedText_token h.offset (peekAny_nil hRest _) text lastStop
    rw [hCurrent] at hToken
    exact hToken
  | cons t ts ih =>
    have hCurrent := current_of_rest hRest
    by_cases hQuote : quotationMark.has t = true
    · have hPlain : TokenClass.plain.has t = false :=
        TokenClass.mark_apart_plain (m := '"') rfl (by decide) (by decide) t hQuote
      have hPeek : c.peek "\"" = true := by rw [peek_eq, hCurrent]; exact hQuote
      rw [List.dropWhile_cons_of_neg (by simp [hPlain]),
        List.takeWhile_cons_of_neg (by simp [hPlain])]
      simp only [hQuote, if_true]
      refine ⟨c, hRest ▸ h, ?_⟩
      rw [quotedText, if_pos hPeek]
      simp [spaced]
    · have hPeek : c.peek "\"" = false := by
        rw [peek_eq, hCurrent]
        exact Bool.eq_false_iff.mpr hQuote
      have hToken := quotedText_token h.offset hPeek text lastStop
      rw [hCurrent] at hToken
      by_cases hPlain : TokenClass.plain.has t = true
      · have hAdvance := reaches_advance hRest
        rw [if_pos hPlain] at hToken
        rw [List.dropWhile_cons_of_pos hPlain, List.takeWhile_cons_of_pos hPlain, hToken]
        have hLater := ih hAdvance.betweenTokens
          (text ++ String.ofList (gap lastStop t.start ++ t.value.toList)) (some t.stop)
          hAdvance.rest
        split at hLater
        · exact hLater
        · split at hLater
          · rename_i hLast
            obtain ⟨stop, hStop, hText⟩ := hLater
            rw [if_pos hLast]
            refine ⟨stop, hAdvance.trans hStop, ?_⟩
            rw [hText, String.append_assoc, ← String.ofList_append, spaced]
          · rename_i hLast
            rw [if_neg hLast]
            exact hLater
      · rw [if_neg hPlain] at hToken
        rw [List.dropWhile_cons_of_neg hPlain]
        dsimp only
        rw [if_neg hQuote]
        exact hToken

end SqlReader.Cursor
