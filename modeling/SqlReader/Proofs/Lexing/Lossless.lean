import SqlReader.Proofs.Lexing.Keywords

/-! Nothing of a text is lost when it is cut: the lexemes give back what has been read, and the
tokens with the white space around them do so too, each token at its place.  Where the cutting
fails, this is so of the text before the error, and no rule matches after it. -/

namespace SqlReader

open Text

/-- What has been cut off. -/
def Scan.read (s : Scan) : List Char := s.lexemes.flatMap fun lexeme => lexeme.value.toList

/-- From byte `start` on, the text is white space and the tokens, in order and each at its place. -/
inductive Laid : (start : Nat) → (text : List Char) → List Token → Prop
  | space {start : Nat} {space : List Char} (hSpace : ∀ c ∈ space, isWhiteSpace c = true) :
      Laid start space []
  | token {start : Nat} {space rest : List Char} {t : Token} {ts : List Token}
      (hSpace : ∀ c ∈ space, isWhiteSpace c = true) (hStart : t.start = start + byteSize space)
      (hValue : t.value ≠ "") (hKind : t.kind ∈ [.id, .int, .reserved])
      (h : Laid t.stop rest ts) : Laid start (space ++ t.value.toList ++ rest) (t :: ts)

/-- The tokens are words and marks of the text.  Each is the part of the text between its two ends,
which are ends of characters; they come one after the other; and around them is white space. -/
structure Lossless (text : List Char) (tokens : List Token) : Prop where
  kinds : ∀ t ∈ tokens, t.kind ∈ [.id, .int, .reserved]
  nonempty : ∀ t ∈ tokens, t.start < t.stop
  cut : ∀ t ∈ tokens, ∃ before after, text = before ++ t.value.toList ++ after ∧
    t.start = byteSize before ∧ t.stop = byteSize (before ++ t.value.toList)
  ordered : tokens.Pairwise fun t u => t.stop ≤ u.start
  laid : Laid 0 text tokens

variable {start : Nat} {text space : List Char} {rules : List Rule} {t : Token} {ts : List Token}
  {e : LexError}

/-! ### Tokens laid out -/

theorem Token.stop_eq (t : Token) : t.stop = t.start + byteSize t.value.toList := by
  rw [Token.stop, utf8ByteSize_eq]

theorem Laid.afterSpace (h : Laid (start + byteSize space) text ts)
    (hSpace : ∀ c ∈ space, isWhiteSpace c = true) : Laid start (space ++ text) ts := by
  cases h with
  | space hMore => exact .space (List.forall_mem_append.mpr ⟨hSpace, hMore⟩)
  | token hMore hStart hValue hKind h =>
    rw [← List.append_assoc, ← List.append_assoc]
    refine .token (List.forall_mem_append.mpr ⟨hSpace, hMore⟩) ?_ hValue hKind h
    rw [hStart, byteSize_append, Nat.add_assoc]

/-- Each token is a word or a mark and not empty, and stands in the text where it says. -/
theorem Laid.place (h : Laid start text ts) (ht : t ∈ ts) :
    t.kind ∈ [.id, .int, .reserved] ∧ t.value ≠ "" ∧ ∃ before after,
      text = before ++ t.value.toList ++ after ∧ t.start = start + byteSize before := by
  induction h with
  | space => cases ht
  | @token start space rest u us _ hStart hValue hKind _ ih =>
    rcases List.mem_cons.mp ht with rfl | ht
    · exact ⟨hKind, hValue, space, rest, rfl, hStart⟩
    · obtain ⟨hKind', hValue', before, after, hText, hPlace⟩ := ih ht
      refine ⟨hKind', hValue', space ++ u.value.toList ++ before, after, by rw [hText]; simp, ?_⟩
      rw [hPlace, Token.stop_eq, hStart, byteSize_append, byteSize_append]
      omega

theorem Laid.start_le (h : Laid start text ts) (ht : t ∈ ts) : start ≤ t.start := by
  obtain ⟨-, -, before, -, -, hStart⟩ := h.place ht
  omega

theorem Laid.ordered (h : Laid start text ts) : ts.Pairwise fun t u => t.stop ≤ u.start := by
  induction h with
  | space => exact .nil
  | token _ _ _ _ h ih => exact .cons (fun u hu => h.start_le hu) ih

theorem Laid.lossless (h : Laid 0 text ts) : Lossless text ts := by
  refine ⟨fun t ht => (h.place ht).1, fun t ht => ?_, fun t ht => ?_, h.ordered, h⟩
  · obtain ⟨-, hValue, -⟩ := h.place ht
    rw [Token.stop_eq]
    exact Nat.lt_add_of_pos_right (byteSize_pos fun hNil => hValue (String.toList_inj.mp hNil))
  · obtain ⟨-, -, before, after, hText, hStart⟩ := h.place ht
    rw [Nat.zero_add] at hStart
    exact ⟨before, after, hText, hStart, by rw [Token.stop_eq, hStart, byteSize_append]⟩

/-! ### The lexemes of a scan -/

theorem scan_read (rules : List Rule) (start : Nat) (text : List Char) :
    (scan rules start text).read ++ (scan rules start text).unread = text := by
  fun_induction scan rules start text with
  | case1 => rfl
  | case2 start text rule value hMatch rest ih =>
    obtain ⟨after, rfl⟩ := firstMatch_isPrefix hMatch
    rw [List.drop_left] at ih
    show (String.ofList value).toList ++ rest.read ++ rest.unread = value ++ after
    rw [String.toList_ofList, List.append_assoc, show rest = scan rules _ _ from rfl,
      List.drop_left, ih]

theorem scan_stop (rules : List Rule) (start : Nat) (text : List Char) :
    (scan rules start text).stop = start + byteSize (scan rules start text).read := by
  fun_induction scan rules start text with
  | case1 => rfl
  | case2 start text rule value hMatch rest ih =>
    show rest.stop = start + byteSize ((String.ofList value).toList ++ rest.read)
    rw [show rest.stop = _ from ih, String.toList_ofList, byteSize_append, Nat.add_assoc]

theorem firstMatch_unread (rules : List Rule) (start : Nat) (text : List Char) :
    firstMatch rules (scan rules start text).unread = none := by
  fun_induction scan rules start text with
  | case1 start text hNone => exact hNone
  | case2 start text rule value hMatch rest ih => exact ih

theorem matched_of_firstMatch_none (h : firstMatch rules text = none) :
    ∀ rule ∈ rules, rule.pattern.matched text = [] := by
  intro rule hRule
  have hNone := List.findSome?_eq_none_iff.mp h rule hRule
  by_cases hNil : (rule.pattern.matched text).isEmpty = true
  · exact List.isEmpty_iff.mp hNil
  · simp [hNil] at hNone

theorem lexicon_kinds : ∀ rule ∈ lexicon, rule = ⟨.space, .discard⟩ ∨
    rule.kind.isEmitted = true ∧ rule.kind ∈ [.id, .int, .reserved] := by
  decide

/-- What the first rule cuts off is white space, or it becomes a token. -/
theorem firstMatch_kinds {rule : Rule} {value : List Char}
    (h : firstMatch lexicon text = some (rule, value)) :
    rule.kind.isEmitted = false ∧ (∀ c ∈ value, isWhiteSpace c = true) ∨
      rule.kind.isEmitted = true ∧ rule.kind ∈ [.id, .int, .reserved] := by
  obtain ⟨hRule, hMatched, -⟩ := firstMatch_some h
  rcases lexicon_kinds rule hRule with rfl | hKind
  · refine .inl ⟨rfl, ?_⟩
    rw [hMatched]
    exact List.all_eq_true.mp List.all_takeWhile
  · exact .inr hKind

/-- What has been cut off is the tokens with white space around them. -/
theorem scan_laid (start : Nat) (text : List Char) : Laid start (scan lexicon start text).read
    ((scan lexicon start text).emitted.map Lexeme.token) := by
  fun_induction scan lexicon start text with
  | case1 => exact .space (by simp [Scan.read])
  | case2 start text rule value hMatch rest ih =>
    let lexeme : Lexeme := ⟨rule, String.ofList value, start⟩
    show Laid start ((String.ofList value).toList ++ rest.read)
      (((lexeme :: rest.lexemes).filter Lexeme.isEmitted).map Lexeme.token)
    rcases firstMatch_kinds hMatch with ⟨hKind, hSpace⟩ | ⟨hKind, hMem⟩
    · rw [List.filter_cons_of_neg (by simp [Lexeme.isEmitted, lexeme, hKind]),
        String.toList_ofList]
      exact ih.afterSpace hSpace
    · rw [List.filter_cons_of_pos (by simp [Lexeme.isEmitted, lexeme, hKind])]
      have hStop : lexeme.token.stop = start + byteSize value := by
        rw [Token.stop_eq]
        show start + byteSize (String.ofList value).toList = _
        rw [String.toList_ofList]
      have hValue : lexeme.token.value ≠ "" := fun hNil =>
        (firstMatch_some hMatch).2.2 (String.ofList_eq_empty_iff.mp hNil)
      have hRest : Laid lexeme.token.stop rest.read (rest.emitted.map Lexeme.token) := by
        rw [hStop]
        exact ih
      exact .token (t := lexeme.token) (List.forall_mem_nil _) rfl hValue hMem hRest

/-! ### In one pass -/

/-- A text that is scanned to its end is its tokens with white space around them. -/
theorem laid_of_onePass (h : onePass ruleLexeme start text = .ok ts) : Laid start text ts := by
  have hRead := scan_read lexicon start text
  have hLaid := scan_laid start text
  rw [← scan_eq_onePass, Scan.result] at h
  split at h
  · rename_i hUnread
    cases h
    rw [List.isEmpty_iff.mp hUnread, List.append_nil] at hRead
    rwa [hRead] at hLaid
  · cases h

theorem ne_nil_of_onePass {c : Char} (hc : isWhiteSpace c = false) (hMem : c ∈ text)
    (h : onePass ruleLexeme start text = .ok ts) : ts ≠ [] := by
  rintro rfl
  generalize hts : ([] : List Token) = ts at h
  cases laid_of_onePass h with
  | space hSpace => simp [hSpace c hMem] at hc
  | token => cases hts

/-- A scan fails before a character that is not white space. -/
theorem onePass_error_place (h : onePass ruleLexeme start text = .error e) :
    ∃ before c after, text = before ++ c :: after ∧ isWhiteSpace c = false ∧
      e = ⟨start + byteSize before, String.ofList (c :: after)⟩ := by
  have hRead := scan_read lexicon start text
  have hStop := scan_stop lexicon start text
  have hNone := firstMatch_unread lexicon start text
  rw [← scan_eq_onePass, Scan.result] at h
  split at h
  · cases h
  · rename_i hUnread
    obtain ⟨c, after, hRest⟩ := List.exists_cons_of_ne_nil (mt List.isEmpty_iff.mpr hUnread)
    cases h
    rw [hRest] at hRead hNone ⊢
    refine ⟨_, c, after, hRead.symm, Bool.eq_false_iff.mpr fun hSpace => ?_, by rw [hStop]⟩
    rw [firstMatch_space hSpace] at hNone
    cases hNone

/-- Cutting a text loses nothing of it.  What has been cut off and what is unread are the text, and
each lexeme stands where the first rule that matches has cut it off, from the end of a character to
the end of another.  Where the whole text has been cut, its tokens with white space around them are
the text.  Where it has not, the error stands at the end of a character inside the text, no rule
matches there, and the tokens before it with white space around them are the text before it. -/
theorem lexing_is_lossless (text : String) :
    (Scan.ofText lexicon text).read ++ (Scan.ofText lexicon text).unread = text.toList ∧
      (∀ lexeme ∈ (Scan.ofText lexicon text).lexemes, ∃ before after,
        CutOff lexicon (Scan.ofText lexicon text) 0 text.toList lexeme before after) ∧
      match lex text with
      | .ok tokens => Lossless text.toList tokens
      | .error error =>
        error.offset < text.utf8ByteSize ∧
          error.offset = byteSize (Scan.ofText lexicon text).read ∧
          text.toList = (Scan.ofText lexicon text).read ++ error.remaining.toList ∧
          (∀ rule ∈ lexicon, rule.pattern.matched error.remaining.toList = []) ∧
          Lossless (Scan.ofText lexicon text).read
            ((Scan.ofText lexicon text).emitted.map Lexeme.token) := by
  have hRead : (Scan.ofText lexicon text).read ++ (Scan.ofText lexicon text).unread =
      text.toList := scan_read lexicon 0 text.toList
  have hStop : (Scan.ofText lexicon text).stop = byteSize (Scan.ofText lexicon text).read :=
    (scan_stop lexicon 0 text.toList).trans (Nat.zero_add _)
  have hLossless := (scan_laid 0 text.toList).lossless
  have hNone := firstMatch_unread lexicon 0 text.toList
  rw [← Scan.ofText] at hLossless hNone
  refine ⟨hRead, fun lexeme hMem => scan_cutOff hMem, ?_⟩
  rw [lex, lexWith, Scan.result]
  by_cases hUnread : (Scan.ofText lexicon text).unread = []
  · rw [hUnread, List.append_nil] at hRead
    rw [hUnread, if_pos List.isEmpty_nil]
    show Lossless text.toList _
    rw [← hRead]
    exact hLossless
  · rw [if_neg (mt List.isEmpty_iff.mp hUnread)]
    show _ < _ ∧ _ ∧ text.toList = _ ++ (String.ofList _).toList ∧ _ ∧ _
    rw [String.toList_ofList]
    refine ⟨?_, hStop, hRead.symm, matched_of_firstMatch_none hNone, hLossless⟩
    have hPos := byteSize_pos hUnread
    rw [utf8ByteSize_eq, ← hRead, byteSize_append, ← hStop]
    exact Nat.lt_add_of_pos_right hPos

end SqlReader
