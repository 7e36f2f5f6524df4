import SqlReader.Event
import SqlReader.Proofs.Lexing.Lossless

/-! A text as the row of its first matches: each lexeme is what the first rule that matches at its
place cuts off, up to where no rule matches. -/

namespace SqlReader

open Text

/-- From byte `start` on, the text is the lexemes and, where no rule matches, `unread`.  Each lexeme
is cut off by the first rule of the table that matches at its place. -/
inductive FirstMatches (rules : List Rule) :
    (start : Nat) → (text : List Char) → List Lexeme → (unread : List Char) → Prop
  | stop {start : Nat} {unread : List Char} (h : firstMatch rules unread = none) :
      FirstMatches rules start unread [] unread
  | next {start : Nat} {rest unread : List Char} {lexeme : Lexeme} {lexemes : List Lexeme}
      (hStart : lexeme.start = start)
      (hFirst : firstMatch rules (lexeme.value.toList ++ rest) =
        some (lexeme.rule, lexeme.value.toList))
      (h : FirstMatches rules (start + byteSize lexeme.value.toList) rest lexemes unread) :
      FirstMatches rules start (lexeme.value.toList ++ rest) (lexeme :: lexemes) unread

theorem scan_firstMatches (rules : List Rule) (start : Nat) (text : List Char) :
    FirstMatches rules start text (scan rules start text).lexemes
      (scan rules start text).unread := by
  fun_induction scan rules start text with
  | case1 start text hNone => exact .stop hNone
  | case2 start text rule value hMatch rest ih =>
    obtain ⟨after, rfl⟩ := firstMatch_isPrefix hMatch
    let lexeme : Lexeme := ⟨rule, String.ofList value, start⟩
    have hValue : lexeme.value.toList = value := String.toList_ofList
    show FirstMatches rules start (value ++ after) (lexeme :: rest.lexemes) rest.unread
    have hRest : rest = scan rules (start + byteSize value) after := by
      rw [show rest = scan rules _ _ from rfl, List.drop_left]
    rw [List.drop_left] at ih
    rw [hRest]
    rw [← hValue] at hMatch ih ⊢
    exact .next rfl hMatch ih

end SqlReader
