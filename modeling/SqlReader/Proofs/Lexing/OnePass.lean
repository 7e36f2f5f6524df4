import SqlReader.Proofs.Lexing.Rules

/-! Scanning a text in one pass: white space is skipped a character at a time, and from any other
character on a lexeme is cut off or the scan fails there.  Cutting by the rules of the lexicon is
such a scan. -/

namespace SqlReader

open Text

/-- Scans a text that starts at byte `start`; `lexeme` cuts a lexeme off the head of a text. -/
def onePass (lexeme : List Char → Option (TokenKind × List Char)) (start : Nat) :
    List Char → Except LexError (List Token)
  | [] => .ok []
  | c :: cs =>
    if isWhiteSpace c then onePass lexeme (start + c.utf8Size) cs
    else
      match lexeme (c :: cs) with
      | none => .error ⟨start, String.ofList (c :: cs)⟩
      | some (kind, value) =>
        (onePass lexeme (start + byteSize value) (cs.drop (value.length - 1))).map
          (⟨String.ofList value, kind, start⟩ :: ·)
termination_by text => text.length

/-- What the first matching rule cuts off, with its category. -/
def ruleLexeme (text : List Char) : Option (TokenKind × List Char) :=
  (firstMatch lexicon text).map fun found => (found.1.kind, found.2)

theorem ruleLexeme_split {kind : TokenKind} {text value : List Char}
    (h : ruleLexeme text = some (kind, value)) : value <+: text ∧ value ≠ [] := by
  obtain ⟨⟨rule, value'⟩, hMatch, hFound⟩ := Option.map_eq_some_iff.mp h
  cases hFound
  exact ⟨firstMatch_isPrefix hMatch, (firstMatch_some hMatch).2.2⟩

theorem ruleLexeme_cut {kind : TokenKind} {c : Char} {cs value : List Char}
    (h : ruleLexeme (c :: cs) = some (kind, value)) :
    ∃ vs after, value = c :: vs ∧ cs = vs ++ after := by
  obtain ⟨⟨after, hAfter⟩, hNe⟩ := ruleLexeme_split h
  obtain ⟨d, vs, rfl⟩ := List.exists_cons_of_ne_nil hNe
  obtain ⟨rfl, rfl⟩ := List.cons.inj hAfter
  exact ⟨vs, after, rfl, rfl⟩

section Steps

variable {lexeme : List Char → Option (TokenKind × List Char)} {start : Nat} {kind : TokenKind}
  {value rest text space : List Char} {c : Char} {cs : List Char}

@[simp] theorem onePass_nil : onePass lexeme start [] = .ok [] := by rw [onePass]

theorem onePass_space (h : ∀ c ∈ space, isWhiteSpace c = true) :
    onePass lexeme start (space ++ rest) = onePass lexeme (start + byteSize space) rest := by
  induction space generalizing start with
  | nil => rfl
  | cons c space ih =>
    obtain ⟨hHead, hTail⟩ := List.forall_mem_cons.mp h
    rw [List.cons_append, onePass, if_pos hHead, ih hTail, byteSize_cons, Nat.add_assoc]

theorem onePass_none (hSpace : isWhiteSpace c = false) (h : lexeme (c :: cs) = none) :
    onePass lexeme start (c :: cs) = .error ⟨start, String.ofList (c :: cs)⟩ := by
  rw [onePass, hSpace, if_neg (by simp), h]

theorem onePass_lexeme (hValue : value ≠ []) (hSpace : ∀ c ∈ value.head?, isWhiteSpace c = false)
    (h : lexeme (value ++ rest) = some (kind, value)) :
    onePass lexeme start (value ++ rest) =
      (onePass lexeme (start + byteSize value) rest).map
        (⟨String.ofList value, kind, start⟩ :: ·) := by
  cases value with
  | nil => exact absurd rfl hValue
  | cons c cs =>
    rw [List.cons_append] at h ⊢
    rw [onePass, hSpace c rfl, if_neg (by simp), h]
    simp

end Steps

/-! ### Parts of a text -/

/-- The text that starts at byte `start` is cut into the tokens `ts`, and the scan goes on at its
end. -/
def Cuts (start : Nat) (text rest : List Char) (ts : List Token) : Prop :=
  onePass ruleLexeme start (text ++ rest) =
    (onePass ruleLexeme (start + byteSize text) rest).map (ts ++ ·)

section Parts

variable {start : Nat} {kind : TokenKind} {u v value rest space : List Char}
  {ts us : List Token}

theorem cuts_space (h : ∀ c ∈ space, isWhiteSpace c = true) : Cuts start space rest [] := by
  rw [Cuts, onePass_space h]
  cases onePass ruleLexeme (start + byteSize space) rest <;> rfl

theorem cuts_nil : Cuts start [] rest [] := cuts_space (by simp)

theorem cuts_lexeme (hValue : value ≠ []) (hSpace : ∀ c ∈ value.head?, isWhiteSpace c = false)
    (h : ruleLexeme (value ++ rest) = some (kind, value)) (start : Nat) :
    Cuts start value rest [⟨String.ofList value, kind, start⟩] :=
  onePass_lexeme hValue hSpace h

theorem Cuts.append (hu : Cuts start u (v ++ rest) ts) (hv : Cuts (start + byteSize u) v rest us) :
    Cuts start (u ++ v) rest (ts ++ us) := by
  unfold Cuts at *
  rw [List.append_assoc, hu, hv, byteSize_append, Nat.add_assoc]
  cases onePass ruleLexeme (start + (byteSize u + byteSize v)) rest <;> simp [Except.map]

theorem Cuts.onePass_eq {text : List Char} (h : Cuts start text [] ts) :
    onePass ruleLexeme start text = .ok ts := by
  rw [← List.append_nil text, h, onePass_nil, Except.map, List.append_nil]

end Parts

/-! ### Texts that are moved or changed -/

/-- The token with each character of its lexeme replaced, `n` bytes further on. -/
def Token.image (f : Char → Char) (n : Nat) (t : Token) : Token :=
  ⟨t.value.map f, t.kind, n + t.start⟩

def LexError.image (f : Char → Char) (n : Nat) (e : LexError) : LexError :=
  ⟨n + e.offset, e.remaining.map f⟩

/-- What a scan gives, with each character replaced and everything `n` bytes further on. -/
def scanImage (f : Char → Char) (n : Nat) :
    Except LexError (List Token) → Except LexError (List Token)
  | .ok ts => .ok (ts.map (Token.image f n))
  | .error e => .error (e.image f n)

theorem map_ofList (f : Char → Char) (cs : List Char) :
    (String.ofList cs).map f = String.ofList (cs.map f) :=
  String.toList_inj.mp (by simp)

theorem scanImage_map_cons (f : Char → Char) (n : Nat) (t : Token)
    (result : Except LexError (List Token)) :
    scanImage f n (result.map (t :: ·)) = (scanImage f n result).map (t.image f n :: ·) := by
  cases result <;> rfl

theorem byteSize_map {f : Char → Char} (hSize : ∀ c, (f c).utf8Size = c.utf8Size)
    (cs : List Char) : byteSize (cs.map f) = byteSize cs := by
  induction cs with
  | nil => rfl
  | cons c cs ih => rw [List.map_cons, byteSize_cons, byteSize_cons, hSize, ih]

/-- A change of characters that keeps their sizes and white space, and that lexemes follow, is
followed by the scan; and so is a change of the place. -/
theorem onePass_image {lexeme : List Char → Option (TokenKind × List Char)} {f : Char → Char}
    (hSize : ∀ c, (f c).utf8Size = c.utf8Size) (hSpace : ∀ c, isWhiteSpace (f c) = isWhiteSpace c)
    (hLexeme : ∀ c cs, isWhiteSpace c = false → lexeme ((c :: cs).map f) =
      (lexeme (c :: cs)).map fun found => (found.1, found.2.map f))
    (n start : Nat) (text : List Char) :
    onePass lexeme (n + start) (text.map f) = scanImage f n (onePass lexeme start text) := by
  fun_induction onePass lexeme start text with
  | case1 => exact onePass_nil
  | case2 start c cs hWhite ih =>
    rw [List.map_cons, onePass, if_pos (by rw [hSpace, hWhite]), hSize, Nat.add_assoc, ih]
  | case3 start c cs hWhite hNone =>
    have hWhite := Bool.eq_false_iff.mpr hWhite
    have hImage := hLexeme c cs hWhite
    rw [hNone, List.map_cons] at hImage
    rw [List.map_cons, onePass_none (by rw [hSpace, hWhite]) hImage, scanImage, LexError.image,
      map_ofList, List.map_cons]
  | case4 start c cs hWhite kind value hSome ih =>
    have hImage := hLexeme c cs (Bool.eq_false_iff.mpr hWhite)
    rw [hSome, List.map_cons] at hImage
    rw [List.map_cons, onePass, if_neg (by rwa [hSpace]), hImage, scanImage_map_cons, ← ih]
    simp only [Option.map_some, List.length_map, byteSize_map hSize, List.map_drop, Nat.add_assoc,
      Token.image, map_ofList]

/-! ### The rules as a scan -/

theorem Scan.result_cons_discard {lexeme : Lexeme} (s : Scan) (h : lexeme.isEmitted = false) :
    Scan.result { s with lexemes := lexeme :: s.lexemes } = s.result := by
  simp [result, emitted, h]

theorem Scan.result_cons_emitted {lexeme : Lexeme} (s : Scan) (h : lexeme.isEmitted = true) :
    Scan.result { s with lexemes := lexeme :: s.lexemes } = s.result.map (lexeme.token :: ·) := by
  simp only [result, emitted, List.filter_cons, h, if_true]
  split <;> rfl

theorem scan_eq_onePass (start : Nat) (text : List Char) :
    (scan lexicon start text).result = onePass ruleLexeme start text := by
  fun_induction scan lexicon start text with
  | case1 start text hNone =>
    cases text with
    | nil => rw [onePass_nil]; rfl
    | cons c cs =>
      have hSpace : isWhiteSpace c = false := by
        refine Bool.eq_false_iff.mpr fun h => ?_
        rw [firstMatch_space h] at hNone
        cases hNone
      rw [onePass_none hSpace (by rw [ruleLexeme, hNone]; rfl)]
      rfl
  | case2 start text rule value hMatch rest ih =>
    obtain ⟨after, rfl⟩ := firstMatch_isPrefix hMatch
    obtain ⟨c, cs, rfl⟩ := List.exists_cons_of_ne_nil (firstMatch_some hMatch).2.2
    have hDrop : (c :: cs ++ after).drop (c :: cs).length = after := List.drop_left
    by_cases hSpace : isWhiteSpace c = true
    · have hRun := hMatch
      rw [List.cons_append, firstMatch_space hSpace] at hRun
      obtain ⟨rfl, hValue⟩ := Prod.mk.inj (Option.some.inj hRun)
      have hAll : ∀ d ∈ c :: cs, isWhiteSpace d = true := by
        rw [← hValue]
        exact List.all_eq_true.mp List.all_takeWhile
      rw [onePass_space hAll, ← hDrop, ← ih]
      exact Scan.result_cons_discard rest rfl
    · have hSpace' : isWhiteSpace c = false := Bool.eq_false_iff.mpr hSpace
      have hLexeme : ruleLexeme (c :: cs ++ after) = some (rule.kind, c :: cs) := by
        rw [ruleLexeme, hMatch]
        rfl
      rw [onePass_lexeme (List.cons_ne_nil c cs) (by simpa using hSpace') hLexeme, ← hDrop, ← ih]
      exact Scan.result_cons_emitted rest (isEmitted_of_firstMatch hSpace' hMatch)

theorem lex_eq_onePass (text : String) : lex text = onePass ruleLexeme 0 text.toList :=
  scan_eq_onePass 0 text.toList

end SqlReader
