import SqlReader.Proofs.Grammar.Values
import SqlReader.Proofs.Lexing.Lines
import SqlReader.Proofs.Session.Additions

/-! Reports read back.  A report with everything shown is one line on an error, or a line for each
token and two for the parse; what it says of a text can be read off its bytes. -/

namespace SqlReader

open Text

/-! ### Lines -/

namespace Text

/-- The lines one after the other, each with a line feed. -/
def unlines (lines : List String) : String := String.join (lines.map (· ++ "\n"))

theorem unlines_cons (line : String) (lines : List String) :
    (unlines (line :: lines)).toList = line.toList ++ '\n' :: (unlines lines).toList := by
  simp [unlines]

theorem unlines_cons_ne (line : String) (lines : List String) :
    unlines (line :: lines) ≠ unlines [] := by
  intro h
  have hChars := congrArg String.toList h
  rw [unlines_cons] at hChars
  simp [unlines] at hChars

theorem unlines_append (a b : List String) : unlines (a ++ b) = unlines a ++ unlines b := by
  simp [unlines]

theorem intercalate_eq_unlines {lines : List String} (h : lines ≠ []) :
    "\n".intercalate lines ++ "\n" = unlines lines := by
  induction lines with
  | nil => exact absurd rfl h
  | cons line lines ih =>
    cases lines with
    | nil => simp [unlines]
    | cons next lines =>
      rw [String.intercalate_cons_cons, String.append_assoc, ih (List.cons_ne_nil _ _)]
      simp [unlines]

/-- A line ends at its line feed, as it has none in it. -/
theorem unlines_injective {a b : List String} (ha : ∀ line ∈ a, OneLine line)
    (hb : ∀ line ∈ b, OneLine line) (h : unlines a = unlines b) : a = b := by
  have hFeed {line : String} (hLine : OneLine line) : ∀ c ∈ line.toList, (c != '\n') = true := by
    intro c hc
    have hBreak := hLine c hc
    simp only [lineBreaks, List.mem_cons, not_or] at hBreak
    simpa using hBreak.1
  induction a generalizing b with
  | nil =>
    cases b with
    | nil => rfl
    | cons line b => exact absurd h.symm (unlines_cons_ne line b)
  | cons line a ih =>
    cases b with
    | nil => exact absurd h (unlines_cons_ne line a)
    | cons line' b =>
      obtain ⟨hLine, ha⟩ := List.forall_mem_cons.mp ha
      obtain ⟨hLine', hb⟩ := List.forall_mem_cons.mp hb
      have hChars := congrArg String.toList h
      rw [unlines_cons, unlines_cons] at hChars
      obtain ⟨hSame, hRest⟩ := run_append_injective (hFeed hLine) (hFeed hLine') (by simp)
        (by simp) hChars
      rw [String.toList_inj.mp hSame, ih ha hb (String.toList_inj.mp (List.cons.inj hRest).2)]

end Text

/-- In a tree that is built of a statement nothing breaks the line. -/
theorem render_oneLine {tree : Tree} (h : ∀ value ∈ tree.values, Written value) :
    OneLine tree.render := by
  have hMarks : (Tree.marks.all fun c => !lineBreaks.contains c) = true := by decide
  refine Tree.forall_mem_render (fun c hc => not_mem_lineBreaks hc (by decide)) (fun c hc => ?_)
    (by decide) fun value hValue c hc => ?_
  · simpa using List.all_eq_true.mp hMarks c hc
  · exact not_mem_lineBreaks (h value hValue c hc) (by decide +kernel)

/-- The settings with the tokens and the tree shown. -/
def Settings.showAll (settings : Settings) : Settings :=
  { settings with showTokens := true, showTree := true }

namespace Session

/-- The lines of a report with everything shown. -/
inductive Reports (text : String) : List String → Prop
  | error {error : LexError} (h : lex text = .error error) :
      Reports text ["Error: " ++ error.message]
  | statement {tokens : List Token} {outcome : Outcome Parsed} (hLex : lex text = .ok tokens)
      (hParse : parse tokens = .ok outcome) :
      Reports text (tokens.map Token.line ++
        ["Does parse? " ++ toString outcome.answer.accepted,
          "AST: " ++ outcome.answer.tree.render])

/-- The texts cannot be cut at the same byte and have the same rest there, or they have tokens of
the same categories with the same lexemes, and parses with the same verdict and the same tree. -/
inductive ReadAlike (text text' : String) : Prop
  | error {error : LexError} (h : lex text = .error error) (h' : lex text' = .error error)
  | statement {tokens tokens' : List Token} {outcome outcome' : Outcome Parsed}
      (hLex : lex text = .ok tokens) (hLex' : lex text' = .ok tokens')
      (hTokens : tokens.map (fun t => (t.kind, t.value)) = tokens'.map fun t => (t.kind, t.value))
      (hParse : parse tokens = .ok outcome) (hParse' : parse tokens' = .ok outcome')
      (hAnswer : outcome.answer = outcome'.answer)

variable {text text' : String} {lines : List String} {tokens tokens' : List Token}

theorem exists_reports (text : String) : ∃ lines, Reports text lines := by
  cases hLex : lex text with
  | error error => exact ⟨_, .error hLex⟩
  | ok tokens =>
    obtain ⟨outcome, hParse, -⟩ := parse_eq_read tokens
    exact ⟨_, .statement hLex hParse⟩

theorem Reports.oneLine (h : Reports text lines) : ∀ line ∈ lines, OneLine line := by
  cases h with
  | @error error _ =>
    have hBefore : OneLine "Error: " := by decide
    exact List.forall_mem_singleton.mpr (hBefore.append error.message_oneLine)
  | @statement tokens outcome hLex hParse =>
    have hVerdict (accepted : Bool) : OneLine ("Does parse? " ++ toString accepted) := by
      cases accepted <;> decide
    have hBefore : OneLine "AST: " := by decide
    have hTree := hBefore.append (render_oneLine (parse_writes hParse))
    refine List.forall_mem_append.mpr ⟨?_, by simpa using ⟨hVerdict _, hTree⟩⟩
    intro line hLine
    obtain ⟨t, ht, rfl⟩ := List.mem_map.mp hLine
    exact Token.line_oneLine (lex_visible hLex t ht)

/-! ### What is written -/

/-- The lines of tokens, if there are any. -/
def reportTokens : List Token → Session Unit
  | [] => pure ()
  | t :: ts => writeLine ("\n".intercalate ((t :: ts).map Token.line))

/-- What a report with everything shown says of a parse. -/
def reportParse (tokens : List Token) : Session Unit := do
  let parsed ← runParser ParserM.parse (.ofTokens tokens)
  writeLine ("Does parse? " ++ toString parsed.accepted)
  writeLine ("AST: " ++ parsed.tree.render)

theorem report_of_error {error : LexError} (settings : Settings) (h : lex text = .error error) :
    report settings.showAll text = (do
      note [.processing text]
      note (Scan.ofText lexicon text).events
      note [.unreadable error]
      writeLine ("Error: " ++ error.message)) := by
  have hCut : (Scan.ofText lexicon text).result = .error error := h
  simp only [report, hCut]

theorem report_of_tokens (settings : Settings) (h : lex text = .ok tokens) :
    report settings.showAll text = (do
      note [.processing text]
      note (Scan.ofText lexicon text).events
      reportTokens tokens
      reportParse tokens) := by
  have hCut : (Scan.ofText lexicon text).result = .ok tokens := h
  cases tokens <;> simp [report, hCut, Settings.showAll, reportTokens, reportParse]

theorem reportTokens_performs (tokens : List Token) : ∃ acts,
    (reportTokens tokens).Performs acts (.ok ()) ∧
      written acts = (unlines (tokens.map Token.line)).toUTF8 := by
  cases tokens with
  | nil => exact ⟨[], performs_pure (), rfl⟩
  | cons t tokens =>
    refine ⟨_, performs_write ("\n".intercalate ((t :: tokens).map Token.line) ++ "\n"), ?_⟩
    simp [written, Act.written, ← intercalate_eq_unlines]

theorem reportParse_performs {outcome : Outcome Parsed} (hParse : parse tokens = .ok outcome) :
    (reportParse tokens).Performs
      [.parse tokens, .write ("Does parse? " ++ toString outcome.answer.accepted ++ "\n"),
        .write ("AST: " ++ outcome.answer.tree.render ++ "\n")] (.ok ()) :=
  (performs_parse hParse).bind ((performs_write _).bind (performs_write _))

theorem Reports.performs (h : Reports text lines) (settings : Settings) : ∃ acts,
    (report settings.showAll text).Performs acts (.ok ()) ∧
      written acts = (unlines lines).toUTF8 := by
  cases h with
  | error hLex =>
    refine ⟨_, report_of_error settings hLex ▸ (performs_note _).bind ((performs_note _).bind
      ((performs_note _).bind (performs_write _))), ?_⟩
    simp [written, Act.written, unlines]
  | @statement tokens outcome hLex hParse =>
    obtain ⟨acts, hActs, hWritten⟩ := reportTokens_performs tokens
    refine ⟨_, report_of_tokens settings hLex ▸ (performs_note _).bind ((performs_note _).bind
      (hActs.bind (reportParse_performs hParse))), ?_⟩
    rw [unlines_append]
    simp [written_append, written, Act.written, hWritten, unlines, ByteArray.append_assoc]

theorem Reports.run (h : Reports text lines) (settings : Settings) : ∃ events,
    (report settings.showAll text).run (.empty none) =
      (.ok (), ⟨(unlines lines).toUTF8, none, events⟩) := by
  obtain ⟨acts, hActs, hWritten⟩ := h.performs settings
  refine ⟨(noted acts).toArray, (hActs.adds (.empty none) rfl).trans ?_⟩
  rw [Console.empty_add, hWritten]

theorem Reports.output (h : Reports text lines) (settings : Settings) :
    (report settings.showAll text).alone.output = (unlines lines).toUTF8 := by
  obtain ⟨events, hRun⟩ := h.run settings
  rw [alone, hRun]

/-! ### What can be read off -/

theorem tokens_of_lines (h : tokens.map Token.line = tokens'.map Token.line) :
    tokens.map (fun t => (t.kind, t.value)) = tokens'.map fun t => (t.kind, t.value) := by
  induction tokens generalizing tokens' with
  | nil => rw [List.map_eq_nil_iff.mp h.symm]
  | cons t tokens ih =>
    obtain ⟨u, tokens', rfl, hLine, hLater⟩ := List.map_eq_cons_iff.mp h.symm
    obtain ⟨hKind, hValue⟩ := Token.line_injective hLine
    rw [List.map_cons, List.map_cons, hKind, hValue, ih hLater.symm]

theorem parsed_of_lines {parsed parsed' : Parsed}
    (h : ∀ value ∈ parsed.tree.values, Written value)
    (h' : ∀ value ∈ parsed'.tree.values, Written value)
    (hVerdict : "Does parse? " ++ toString parsed.accepted =
      "Does parse? " ++ toString parsed'.accepted)
    (hTree : "AST: " ++ parsed.tree.render = "AST: " ++ parsed'.tree.render) :
    parsed = parsed' := by
  obtain ⟨accepted, tree⟩ := parsed
  obtain ⟨accepted', tree'⟩ := parsed'
  have hBool : ∀ a b : Bool, toString a = toString b → a = b := by decide
  obtain rfl := hBool _ _ ((String.append_right_inj _).mp hVerdict)
  obtain rfl := Tree.render_injective (fun value hMem => (h value hMem).unmarked)
    (fun value hMem => (h' value hMem).unmarked) ((String.append_right_inj _).mp hTree)
  rfl

theorem Reports.readAlike (h : Reports text lines) (h' : Reports text' lines) :
    ReadAlike text text' := by
  generalize hLines : lines = lines' at h'
  cases h with
  | error hError =>
    cases h' with
    | error hError' =>
      have hMessage := (String.append_right_inj _).mp (List.singleton_inj.mp hLines)
      rw [← LexError.message_injective hMessage] at hError'
      exact .error hError hError'
    | statement =>
      have hLength := congrArg List.length hLines
      simp at hLength
  | statement hLex hParse =>
    cases h' with
    | error =>
      have hLength := congrArg List.length hLines
      simp at hLength
    | statement hLex' hParse' =>
      obtain ⟨hTokens, hTail⟩ := List.append_inj' hLines rfl
      obtain ⟨hVerdict, hTree⟩ := List.cons.inj hTail
      exact .statement hLex hLex' (tokens_of_lines hTokens) hParse hParse'
        (parsed_of_lines (parse_writes hParse) (parse_writes hParse') hVerdict
          (List.cons.inj hTree).1)

theorem ReadAlike.reports (h : ReadAlike text text') :
    ∃ lines, Reports text lines ∧ Reports text' lines := by
  cases h with
  | error h h' => exact ⟨_, .error h, .error h'⟩
  | @statement tokens tokens' outcome outcome' hLex hLex' hTokens hParse hParse' hAnswer =>
    have hLine : Token.line = (fun read : TokenKind × String => read.1.name ++ ": " ++ read.2) ∘
        fun t => (t.kind, t.value) := rfl
    have hLines : tokens.map Token.line = tokens'.map Token.line := by
      rw [hLine, ← List.map_map, hTokens, List.map_map]
    have hReports := Reports.statement hLex' hParse'
    rw [← hLines, ← hAnswer] at hReports
    exact ⟨_, .statement hLex hParse, hReports⟩

/-- What a report says of a text can be read off its bytes.  With everything shown it is one line
about the error, or one line for each token and the two lines of the parse, and no line has a line
break in it, whatever the text.  Two texts have the same report if and only if they fail at the
same byte with the same rest, or their tokens, verdicts and trees are the same. -/
theorem reports_can_be_read_back :
    (∀ (settings : Settings) (text : String), ∃ lines events,
      Reports text lines ∧ (∀ line ∈ lines, OneLine line) ∧
      (report settings.showAll text).run (.empty none) =
        (.ok (), ⟨(unlines lines).toUTF8, none, events⟩)) ∧
    ∀ (settings settings' : Settings) (text text' : String),
      (report settings.showAll text).alone.output =
          (report settings'.showAll text').alone.output ↔
        ReadAlike text text' := by
  refine ⟨fun settings text => ?_,
    fun settings settings' text text' => ⟨fun hSame => ?_, fun h => ?_⟩⟩
  · obtain ⟨lines, hLines⟩ := exists_reports text
    obtain ⟨events, hRun⟩ := hLines.run settings
    exact ⟨lines, events, hLines, hLines.oneLine, hRun⟩
  · obtain ⟨lines, hLines⟩ := exists_reports text
    obtain ⟨lines', hLines'⟩ := exists_reports text'
    rw [hLines.output, hLines'.output] at hSame
    have hText : unlines lines = unlines lines' := String.toByteArray_inj.mp hSame
    obtain rfl := unlines_injective hLines.oneLine hLines'.oneLine hText
    exact hLines.readAlike hLines'
  · obtain ⟨lines, hLines, hLines'⟩ := h.reports
    rw [hLines.output, hLines'.output]

end Session

end SqlReader
