import Mathlib.Control.Monad.Basic
import SqlReader.Proofs.Grammar.Likeness
import SqlReader.Proofs.Lexing.LetterCase
import SqlReader.Proofs.Lexing.Lossless

/-! A parse ignores the case of the letters of ASCII: texts that differ in it only are cut at the
same places, and parsed as trees that differ in it only. -/

namespace SqlReader

open Text Phrase Cursor

/-- The trees have the same shape and the same kinds, and values that are the same ignoring case. -/
inductive Tree.SameIgnoringCase : Tree → Tree → Prop
  | node {kind : NodeKind} {value value' : String} {children children' : List Tree}
      (hValue : sameIgnoringCase value value' = true)
      (hChildren : List.Forall₂ SameIgnoringCase children children') :
      SameIgnoringCase ⟨kind, value, children⟩ ⟨kind, value', children'⟩

/-- The token in small letters. -/
def Token.lower (t : Token) : Token := t.image Char.toLower 0

variable {ts us : List Token}

/-! ### Tokens in small letters -/

theorem Token.lower_value (t : Token) : t.lower.value.toList = t.value.toList.map Char.toLower :=
  String.toList_map

theorem Token.lower_start (t : Token) : t.lower.start = t.start := Nat.zero_add t.start

theorem Token.lower_stop (t : Token) : t.lower.stop = t.stop := by
  rw [stop_eq, stop_eq, lower_start, lower_value, byteSize_map utf8Size_toLower]

theorem Token.same_of_lower (t u : Token) (h : t.lower = u.lower) :
    t.same u = true ∧ t.start = u.start ∧ t.stop = u.stop := by
  have hStop := congrArg Token.stop h
  rw [lower_stop, lower_stop] at hStop
  obtain ⟨hValue, hKind, hStart⟩ := Token.mk.inj h
  rw [Nat.zero_add, Nat.zero_add] at hStart
  refine ⟨?_, hStart, hStop⟩
  simp [same, hasText, hKind, sameIgnoringCase_iff_map.mpr hValue]

theorem TokenClass.has_lower (c : TokenClass) (t : Token) : c.has t.lower = c.has t := by
  cases c with
  | terminal text =>
    have hComp : Char.toLower ∘ Char.toLower = Char.toLower := funext toLower_toLower
    simp [has, Token.lower, Token.image, Token.isEnd, Token.hasText, sameIgnoringCase, hComp]
  | name => simp [has, Token.lower, Token.image, isName_toLower]
  | digits => simp [has, Token.lower, Token.image, isRun_toLower isDigit_toLower]
  | plain => simp [has, Token.lower, Token.image, isRun_toLower isAlphanumeric_toLower]

theorem TokenClass.has_of_lower (t u : Token) (h : t.lower = u.lower) (c : TokenClass) :
    c.has t = c.has u := by
  rw [← has_lower, h, has_lower]

theorem valueOf_lower (ts : List Token) :
    valueOf (ts.map Token.lower) = (valueOf ts).map Char.toLower := by
  apply String.toList_inj.mp
  rw [String.toList_map]
  induction ts with
  | nil => rfl
  | cons t ts ih =>
    have hCons (t : Token) (ts : List Token) :
        (valueOf (t :: ts)).toList = t.value.toList ++ (valueOf ts).toList := by
      rw [← List.singleton_append, valueOf_append, valueOf_singleton, String.toList_append]
    rw [List.map_cons, hCons, hCons, ih, Token.lower_value, List.map_append]

theorem spaced_lower (lastStop : Option Nat) (ts : List Token) :
    spaced lastStop (ts.map Token.lower) = (spaced lastStop ts).map Char.toLower := by
  induction ts generalizing lastStop with
  | nil => rfl
  | cons t ts ih =>
    have hGap : (gap lastStop t.start).map Char.toLower = gap lastStop t.start := by
      rcases gap_cases lastStop t.start with h | h <;> rw [h] <;> rfl
    rw [List.map_cons, spaced, spaced, Token.lower_stop, ih, Token.lower_start, Token.lower_value,
      List.map_append, List.map_append, hGap]

theorem quotedValue_lower (ts : List Token) :
    quotedValue (ts.map Token.lower) = (quotedValue ts).map Char.toLower := by
  rw [quotedValue, quotedValue, map_ofList, ← spaced_lower, List.map_dropLast, List.map_drop]

/-! ### The likeness -/

/-- Token lists are alike if they differ in letter case only, and then they are read as trees that
do. -/
def Likeness.letterCase : Likeness where
  tokens ts us := ts.map Token.lower = us.map Token.lower
  tree _ := Tree.SameIgnoringCase
  has h := forall₂_of_map TokenClass.has_of_lower h
  take h n := by rw [List.map_take, h, List.map_take]
  drop h n := by rw [List.map_drop, h, List.map_drop]
  node h _ := .node (sameIgnoringCase_refl "") h

theorem statement_respects_letterCase : statement.Respects .letterCase .root := by
  have hLeaf (kind : NodeKind) {value value' : String}
      (h : value.map Char.toLower = value'.map Char.toLower) :
      (Tree.leaf kind value).SameIgnoringCase (.leaf kind value') :=
    .node (sameIgnoringCase_iff_map.mpr h) .nil
  refine Likeness.statement_respects (fun above kind ts us h => hLeaf kind ?_) (hLeaf _ rfl)
    fun ts us h => hLeaf _ ?_
  · rw [← valueOf_lower, h, valueOf_lower]
  · rw [← quotedValue_lower, h, quotedValue_lower]

/-- Texts that differ in letter case only are both cut into tokens or both not.  If they are, their
tokens are the same ignoring case and stand at the same places, and both are parsed, with the same
answer, as many tokens taken, and trees that are the same ignoring case.  If they are not, the
cutting fails at the same place. -/
theorem parse_ignores_letter_case {a b : String} (h : sameIgnoringCase a b = true) :
    match lex a, lex b with
    | .ok ts, .ok us =>
      List.Forall₂ (fun t u => t.same u = true ∧ t.start = u.start ∧ t.stop = u.stop) ts us ∧
        ∃ o o', (parse ts = .ok o ∧ parse us = .ok o') ∧
          (parseText a = .ok o.answer ∧ parseText b = .ok o'.answer) ∧
          o.answer.accepted = o'.answer.accepted ∧
          o.parser.cursor.place = o'.parser.cursor.place ∧
          o.answer.tree.SameIgnoringCase o'.answer.tree
    | .error e, .error e' =>
      e.offset = e'.offset ∧ sameIgnoringCase e.remaining e'.remaining = true
    | _, _ => False := by
  have hLower : scanImage Char.toLower 0 (lex a) = scanImage Char.toLower 0 (lex b) := by
    rw [← lex_toLower, sameIgnoringCase_iff_map.mp h, lex_toLower]
  cases ha : lex a with
  | error e =>
    rw [ha] at hLower
    cases hb : lex b with
    | error e' =>
      rw [hb] at hLower
      obtain ⟨hOffset, hRemaining⟩ := LexError.mk.inj (Except.error.inj hLower)
      rw [Nat.zero_add, Nat.zero_add] at hOffset
      exact ⟨hOffset, sameIgnoringCase_iff_map.mpr hRemaining⟩
    | ok us =>
      rw [hb] at hLower
      cases hLower
  | ok ts =>
    rw [ha] at hLower
    cases hb : lex b with
    | error e' =>
      rw [hb] at hLower
      cases hLower
    | ok us =>
      rw [hb] at hLower
      have hTokens : ts.map Token.lower = us.map Token.lower := Except.ok.inj hLower
      obtain ⟨o, o', hParse, hParse', hAccepted, hPlace, hTree⟩ :=
        Likeness.parse_alike (L := .letterCase) statement_respects_letterCase hTokens
      exact ⟨Likeness.forall₂_of_map Token.same_of_lower hTokens, o, o', ⟨hParse, hParse'⟩,
        ⟨parseText_of_lex ha hParse, parseText_of_lex hb hParse'⟩, hAccepted, hPlace,
        hTree .root⟩

def selectionTokens (first column second table : String) : List Token :=
  [⟨first, .reserved, 0⟩, ⟨column, .reserved, 7⟩, ⟨second, .reserved, 12⟩, ⟨table, .id, 17⟩]

def selectionNodes (column table : String) : List Tree :=
  [⟨.select, "", [.leaf .string column]⟩, ⟨.tableName, "", [.leaf .string table]⟩]

/-- A selection of a column whose name spells a keyword with the long s, and a text that is cut up
to a letter that is none of ASCII. -/
theorem parse_ignores_letter_case_of_selection :
    sameIgnoringCase "Select \u017FEt From T" "sELECT \u017FeT fROM t" = true ∧
      parseText "Select \u017FEt From T" = .ok ⟨true, .root, "", selectionNodes "\u017FEt" "T"⟩ ∧
      parseText "sELECT \u017FeT fROM t" = .ok ⟨true, .root, "", selectionNodes "\u017FeT" "t"⟩ ∧
      Tree.SameIgnoringCase ⟨.root, "", selectionNodes "\u017FEt" "T"⟩
        ⟨.root, "", selectionNodes "\u017FeT" "t"⟩ ∧
      sameIgnoringCase "fromé X" "FROMé x" = true ∧ lex "fromé X" = .error ⟨4, "é X"⟩ ∧
      ∃ e, lex "FROMé x" = .error e ∧ 4 = e.offset ∧
        sameIgnoringCase "é X" e.remaining = true := by
  have hCase : sameIgnoringCase "Select \u017FEt From T" "sELECT \u017FeT fROM t" = true := by
    decide +kernel
  have hLex : lex "Select \u017FEt From T" =
      .ok (selectionTokens "Select" "\u017FEt" "From" "T") := by decide +kernel
  have hLex' : lex "sELECT \u017FeT fROM t" =
      .ok (selectionTokens "sELECT" "\u017FeT" "fROM" "t") := by decide +kernel
  have hRead : statement.read (selectionTokens "Select" "\u017FEt" "From" "T") =
      some ⟨selectionTokens "Select" "\u017FEt" "From" "T", selectionNodes "\u017FEt" "T", []⟩ := by
    decide +kernel
  have hRead' : statement.read (selectionTokens "sELECT" "\u017FeT" "fROM" "t") =
      some ⟨selectionTokens "sELECT" "\u017FeT" "fROM" "t", selectionNodes "\u017FeT" "t", []⟩ := by
    decide +kernel
  have hParse := parseText_of_read hLex hRead
  have hParse' := parseText_of_read hLex' hRead'
  have hSame := parse_ignores_letter_case hCase
  rw [hLex, hLex'] at hSame
  obtain ⟨-, o, o', -, ⟨hAnswer, hAnswer'⟩, -, -, hTree⟩ := hSame
  rw [hParse, Except.ok.injEq] at hAnswer
  rw [hParse', Except.ok.injEq] at hAnswer'
  rw [← hAnswer, ← hAnswer'] at hTree
  have hCaseError : sameIgnoringCase "fromé X" "FROMé x" = true := by decide +kernel
  have hError : lex "fromé X" = .error ⟨4, "é X"⟩ := by decide +kernel
  have hFails := parse_ignores_letter_case hCaseError
  rw [hError] at hFails
  refine ⟨hCase, hParse, hParse', hTree, hCaseError, hError, ?_⟩
  cases hOther : lex "FROMé x" with
  | error e =>
    rw [hOther] at hFails
    exact ⟨e, rfl, hFails⟩
  | ok us =>
    rw [hOther] at hFails
    exact hFails.elim

end SqlReader
