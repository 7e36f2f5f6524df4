import SqlReader.Proofs.Event
import SqlReader.Proofs.Grammar.Composition
import SqlReader.Proofs.Grammar.Verdict
import SqlReader.Proofs.Lexing.FirstMatches
import SqlReader.Proofs.Parser.Narration

/-! What the log of a reading says: how the text has been cut, which alternatives have been tried
where, and how the parse has ended.  The entries of the log say what its events do. -/

namespace SqlReader

open ParserM Text

variable {tokens : List Token} {m : Phrase.Match} {answer : Bool} {q : Parser}
  {choices : List Event}

/-! ### The choice of a statement -/

section Statement

variable {n : Production} {events : List Event} {last : Event}

theorem tells_found (h : n.phrase.read tokens = some m) :
    ∃ q events, n.action.Tells (.ofTokens tokens) true q events := by
  obtain ⟨q, hRun, -⟩ :=
    n.action_parses.found (p := .ofTokens tokens) (Cursor.ofTokens_betweenTokens tokens) h
  obtain ⟨events, hTells⟩ := n.action_composed.narrated _ rfl _ _ hRun
  exact ⟨q, events, hTells⟩

theorem tells_missed (h : n.phrase.read tokens = none) :
    ∃ q events, (Parser.ofTokens tokens).Keeps q ∧
      n.action.Tells (.ofTokens tokens) false q events := by
  obtain ⟨q, hRun, hKeeps⟩ :=
    n.action_parses.missed (p := .ofTokens tokens) (Cursor.ofTokens_betweenTokens tokens) h
  obtain ⟨events, hTells⟩ := n.action_composed.narrated _ rfl _ _ hRun
  exact ⟨q, events, hKeeps, hTells⟩

theorem statement_tells_insertion (h : Phrase.insertStatement.read tokens = some m) :
    ∃ q earlier t, Grammar.statement.Tells (.ofTokens tokens) true q
      (earlier ++ [.matched 0 t]) := by
  obtain ⟨q, events, hTells⟩ := tells_found (n := .insertStatement) h
  exact ⟨q, events, _, .choice (.matched rfl hTells)⟩

/-- Where no insertion is found, the events of a selection come after those of the insertion. -/
theorem statement_tells_later (hNone : Phrase.insertStatement.read tokens = none)
    (h : (eitherFrom (start (.ofTokens tokens)) 1 [Grammar.selectStatement]).Tells
      (.ofTokens tokens) answer q (events ++ [last])) :
    ∃ earlier, Grammar.statement.Tells (.ofTokens tokens) answer q (earlier ++ [last]) := by
  obtain ⟨r, before, hKeeps, hTells⟩ := tells_missed (n := .insertStatement) hNone
  have hChoice : Grammar.statement.Tells _ _ _ _ := .choice (.failed rfl hTells hKeeps h)
  rw [← List.cons_append, ← List.append_assoc] at hChoice
  exact ⟨_, hChoice⟩

theorem statement_tells_selection (hNone : Phrase.insertStatement.read tokens = none)
    (h : Phrase.selectStatement.read tokens = some m) :
    ∃ q earlier t, Grammar.statement.Tells (.ofTokens tokens) true q
      (earlier ++ [.matched 1 t]) := by
  obtain ⟨q, events, hTells⟩ := tells_found (n := .selectStatement) h
  obtain ⟨earlier, hAll⟩ := statement_tells_later hNone (.matched rfl hTells)
  exact ⟨q, earlier, _, hAll⟩

theorem statement_tells_rejection (hNone : Phrase.insertStatement.read tokens = none)
    (hNone' : Phrase.selectStatement.read tokens = none) :
    ∃ q earlier t, Grammar.statement.Tells (.ofTokens tokens) false q
      (earlier ++ [.failed 1 t ⟨0, 0⟩]) := by
  obtain ⟨q, events, hKeeps, hTells⟩ := tells_missed (n := .selectStatement) hNone'
  obtain ⟨earlier, hAll⟩ :=
    statement_tells_later hNone (.failed rfl hTells hKeeps (tells_pure false _))
  exact ⟨_, earlier, _, hAll⟩

end Statement

/-! ### The log of a parse -/

theorem parse_of_tells (h : Grammar.statement.Tells (.ofTokens tokens) answer q choices) :
    parse tokens = .ok ⟨⟨answer, q.tree⟩, q,
      choices ++ [.parsed answer q.cursor.place.position tokens.length]⟩ := by
  have hTokens : q.cursor.tokens = tokens.toArray :=
    (Grammar.statement_composed.framed.keeps ⟨_, h.ok⟩).tokens
  have hSize : tokens.length = q.cursor.tokens.size := by rw [hTokens, List.size_toArray]
  rw [hSize]
  exact bind_ok h.ok (bind_ok (x := look id) rfl (bind_ok (x := note _) rfl rfl))

/-- What is logged of an alternative that has matched, and of one that has failed, after which the
parser goes back to the start of a token. -/
inductive AlternativeEntry : Event → String × String → Prop
  | matched (index : Nat) (t : Token) : AlternativeEntry (.matched index t)
      ("TRACE", "Alternative " ++ toString index ++ " matched, now at " ++ t.describe)
  | failed (index : Nat) (t : Token) (position : Nat) :
      AlternativeEntry (.failed index t ⟨position, 0⟩)
        ("TRACE", "Alternative " ++ toString index ++ " failed at " ++ t.describe ++
          (", rewinding to " ++ toString position ++ ":0"))

/-- The events of a parse are those of its alternatives and one for its end, and each of them leaves
an entry. -/
structure ParseLog (tokens : List Token) (outcome : Outcome Parsed) (choices : List Event) : Prop
    where
  events : outcome.events = choices ++ [.parsed outcome.answer.accepted
    outcome.parser.cursor.place.position tokens.length]
  tells : Grammar.statement.Tells (.ofTokens tokens) outcome.answer.accepted outcome.parser choices
  entries : outcome.events.map Event.entry = choices.map Event.entry ++
    [("DEBUG", "Parse " ++ (if outcome.answer.accepted then "accepted" else "rejected") ++
      " after " ++ toString outcome.parser.cursor.place.position ++ " of " ++
      toString tokens.length ++ " tokens")]
  alternatives : ∀ event ∈ choices, AlternativeEntry event event.entry
  accepted : outcome.answer.accepted = true → ∃ m, Phrase.BeginsWithStatement tokens m ∧
    outcome.parser.cursor.place.position = m.taken.length ∧ 4 ≤ m.taken.length
  rejected : outcome.answer.accepted = false → outcome.parser.cursor.place.position = 0
  insertion : (∃ t : Token, (choices.map Event.entry).getLast? =
      some ("TRACE", "Alternative 0 matched, now at " ++ t.describe)) ↔
    ∃ m, Phrase.BeginsWithStatement tokens m ∧ Phrase.insertStatement.Derives m.taken m.nodes
  selection : (∃ t : Token, (choices.map Event.entry).getLast? =
      some ("TRACE", "Alternative 1 matched, now at " ++ t.describe)) ↔
    ∃ m, Phrase.BeginsWithStatement tokens m ∧ Phrase.selectStatement.Derives m.taken m.nodes
  rejection : (∃ t : Token, (choices.map Event.entry).getLast? =
      some ("TRACE", "Alternative 1 failed at " ++ t.describe ++ ", rewinding to 0:0")) ↔
    outcome.answer.accepted = false

theorem alternativeEntry_of_tells {event : Event} (h : TellsOfAlternative event) :
    AlternativeEntry event event.entry := by
  cases event with
  | matched index t => exact .matched index t
  | failed index t start =>
    obtain ⟨position, offset⟩ := start
    obtain rfl : offset = 0 := h
    have hPlace : ", rewinding to " ++ toString position ++ ":" ++ toString 0 =
        ", rewinding to " ++ toString position ++ ":0" := by
      rw [String.append_assoc, show ":" ++ toString 0 = ":0" by decide]
    rw [Event.failed_entry index t ⟨position, 0⟩ rfl hPlace]
    exact .failed index t position
  | lexed | parsed | processing | unreadable => exact h.elim

theorem legible_of_tells {event : Event} (h : TellsOfAlternative event) : event.Legible := by
  cases event with
  | lexed => exact h.elim
  | matched | failed | parsed | processing | unreadable => trivial

/-- An entry is that of the last event. -/
theorem getLast?_entry_iff {earlier : List Event} {last event : Event} (h : last.Legible)
    (h' : event.Legible) :
    ((earlier ++ [last]).map Event.entry).getLast? = some event.entry ↔ last = event := by
  rw [List.map_append, List.map_singleton, List.getLast?_concat, Option.some_inj]
  exact ⟨Event.eq_of_entry h h', congrArg Event.entry⟩

/-- The position in the log is the number of tokens taken. -/
theorem position_of_parse {outcome : Outcome Parsed} (h : parse tokens = .ok outcome) :
    (outcome.answer.accepted = true → ∃ m, Phrase.BeginsWithStatement tokens m ∧
      outcome.parser.cursor.place.position = m.taken.length ∧ 4 ≤ m.taken.length) ∧
    (outcome.answer.accepted = false → outcome.parser.cursor.place.position = 0) := by
  obtain ⟨outcome', hParse, hDecides, hTaken, hRejected⟩ := parse_decides_statements tokens
  obtain rfl : outcome = outcome' := Except.ok.inj (h.symm.trans hParse)
  refine ⟨fun hTrue => ?_, fun hFalse => by rw [(hRejected hFalse).1]⟩
  obtain ⟨m, hBegins⟩ := hDecides.mp hTrue
  exact ⟨m, hBegins, by rw [(hTaken m hBegins).1], hBegins.four_le⟩

theorem parseLog_of_tells {earlier : List Event} {last : Event}
    (h : Grammar.statement.Tells (.ofTokens tokens) answer q (earlier ++ [last]))
    (hInsertion : (∃ t, last = .matched 0 t) ↔ ∃ m, Phrase.insertStatement.read tokens = some m)
    (hSelection : (∃ t, last = .matched 1 t) ↔
      Phrase.insertStatement.read tokens = none ∧ ∃ m, Phrase.selectStatement.read tokens = some m)
    (hRejection : (∃ t, last = .failed 1 t ⟨0, 0⟩) ↔ answer = false) :
    ∃ outcome choices, parse tokens = .ok outcome ∧ ParseLog tokens outcome choices := by
  have hParse := parse_of_tells h
  obtain ⟨hAccepted, hRejected⟩ := position_of_parse hParse
  have hLast : last.Legible := legible_of_tells (h.of_alternatives last (by simp))
  have hEntry (event : Token → Event) {entry : Token → String × String}
      (hLegible : ∀ t, (event t).Legible) (hShown : ∀ t, (event t).entry = entry t) :
      (∃ t, ((earlier ++ [last]).map Event.entry).getLast? = some (entry t)) ↔
        ∃ t, last = event t :=
    exists_congr fun t => hShown t ▸ getLast?_entry_iff hLast (hLegible t)
  have hAlternatives : ∀ event ∈ earlier ++ [last], AlternativeEntry event event.entry :=
    fun event hEvent => alternativeEntry_of_tells (h.of_alternatives event hEvent)
  refine ⟨_, earlier ++ [last], hParse, rfl, h, List.map_append, hAlternatives, hAccepted,
    hRejected, ?_, ?_, ?_⟩
  · refine (hEntry (.matched 0) (fun _ => trivial) fun t =>
      Event.matched_entry _ t (by decide)).trans ?_
    simp only [← Phrase.insertStatement_read_iff]
    exact hInsertion
  · refine (hEntry (.matched 1) (fun _ => trivial) fun t =>
      Event.matched_entry _ t (by decide)).trans ?_
    simp only [← Phrase.selectStatement_read_iff, exists_and_left]
    exact hSelection
  · exact (hEntry (.failed 1 · ⟨0, 0⟩) (fun _ => trivial) fun t =>
      Event.failed_entry _ t _ (by decide) (by decide)).trans hRejection

theorem exists_parseLog (tokens : List Token) :
    ∃ outcome choices, parse tokens = .ok outcome ∧ ParseLog tokens outcome choices := by
  cases hInsert : Phrase.insertStatement.read tokens with
  | some m =>
    obtain ⟨q, earlier, t, hTells⟩ := statement_tells_insertion hInsert
    exact parseLog_of_tells hTells (by simp [hInsert]) (by simp [hInsert]) (by simp)
  | none =>
    cases hSelect : Phrase.selectStatement.read tokens with
    | some m =>
      obtain ⟨q, earlier, t, hTells⟩ := statement_tells_selection hInsert hSelect
      exact parseLog_of_tells hTells (by simp [hInsert]) (by simp [hInsert, hSelect]) (by simp)
    | none =>
      obtain ⟨q, earlier, t, hTells⟩ := statement_tells_rejection hInsert hSelect
      exact parseLog_of_tells hTells (by simp [hInsert]) (by simp [hSelect]) (by simp)

/-! ### The log of a reading -/

section Reading

variable {text : String} {error : LexError} {outcome : Outcome Parsed}

theorem read_of_error (h : lex text = .error error) :
    read text = ⟨(Scan.ofText lexicon text).events, .error (.unreadable error)⟩ := by
  have hCut : (Scan.ofText lexicon text).result = .error error := h
  simp only [read, hCut]

theorem read_of_parse (hLex : lex text = .ok tokens) (hParse : parse tokens = .ok outcome) :
    read text = ⟨(Scan.ofText lexicon text).events ++ outcome.events, .ok outcome.answer⟩ := by
  have hCut : (Scan.ofText lexicon text).result = .ok tokens := hLex
  simp only [read, hCut, hParse]

end Reading

/-- The entry of a lexeme that has become a token: its category, its text and its span, and the
regular expression of the rule that has cut it off. -/
def tokenEntry (lexeme : Lexeme) : String × String :=
  ("TRACE", "Lexed " ++ lexeme.rule.kind.name ++ ": " ++ lexeme.value ++ " at (" ++
    toString lexeme.start ++ ", " ++ toString (lexeme.start + lexeme.value.utf8ByteSize) ++
    ") by ^(?:" ++ lexeme.rule.pattern.source ++ ")")

theorem lexed_entry (lexeme : Lexeme) : (Event.lexed lexeme).entry = tokenEntry lexeme := by
  unfold Event.entry Event.message Token.line tokenEntry Rule.source
  have hSource : ") by " ++ "^(?:" = ") by ^(?:" := by decide
  simp only [← hSource, String.append_assoc]
  rfl

theorem map_lexed_entry (lexemes : List Lexeme) :
    (lexemes.map .lexed).map Event.entry = lexemes.map tokenEntry := by
  rw [List.map_map]
  exact List.map_congr_left fun lexeme _ => lexed_entry lexeme

theorem ParseLog.legible {outcome : Outcome Parsed} (h : ParseLog tokens outcome choices) :
    ∀ event ∈ outcome.events, event.Legible := by
  rw [h.events]
  exact List.forall_mem_append.mpr
    ⟨fun event hEvent => legible_of_tells (h.tells.of_alternatives event hEvent),
      List.forall_mem_singleton.mpr trivial⟩

theorem legible_of_read (text : String) : ∀ event ∈ (read text).events, event.Legible := by
  have hLexed : ∀ event ∈ (Scan.ofText lexicon text).events, event.Legible := by
    intro event hEvent
    obtain ⟨lexeme, hMem, rfl⟩ := List.mem_map.mp hEvent
    exact emitted_visible hMem
  cases hLex : lex text with
  | error error =>
    rw [read_of_error hLex]
    exact hLexed
  | ok tokens =>
    obtain ⟨outcome, choices, hParse, hLog⟩ := exists_parseLog tokens
    rw [read_of_parse hLex hParse]
    exact List.forall_mem_append.mpr ⟨hLexed, hLog.legible⟩

/-- The log tells how a text has been read.  It begins with one event for each token, which holds
the token and the first rule that matches at its place; where the text cannot be cut, these are the
tokens before the error, and there is no other event.  The events of the parse come next: those of
the alternatives, each of which tells where its choice began, and one for the verdict with the
number of tokens taken.  The last alternative tells which statement has been accepted, if any.  A
parse of tokens gives the same events.  All this is said by the levels and the messages of the
entries, off which the events can be read. -/
theorem log_tells_the_reading :
    (∀ tokens, ∃ outcome choices, parse tokens = .ok outcome ∧ ParseLog tokens outcome choices) ∧
    (∀ text : String, ∃ lexemes unread, FirstMatches lexicon 0 text.toList lexemes unread ∧
      match lex text with
      | .error error =>
        unread ≠ [] ∧ error = ⟨byteSize (lexemes.flatMap (·.value.toList)), String.ofList unread⟩ ∧
          read text = ⟨(lexemes.filter Lexeme.isEmitted).map .lexed, .error (.unreadable error)⟩ ∧
          (read text).events.map Event.entry = (lexemes.filter Lexeme.isEmitted).map tokenEntry
      | .ok tokens =>
        unread = [] ∧ tokens = (lexemes.filter Lexeme.isEmitted).map Lexeme.token ∧
          ∃ outcome choices, parse tokens = .ok outcome ∧ ParseLog tokens outcome choices ∧
            read text = ⟨(lexemes.filter Lexeme.isEmitted).map .lexed ++ outcome.events,
              .ok outcome.answer⟩ ∧
            (read text).events.map Event.entry =
              (lexemes.filter Lexeme.isEmitted).map tokenEntry ++
                outcome.events.map Event.entry) ∧
    (∀ tokens tokens',
      (parse tokens).map (·.events.map Event.entry) =
          (parse tokens').map (·.events.map Event.entry) ↔
        (parse tokens).map Outcome.events = (parse tokens').map Outcome.events) ∧
    ∀ text text',
      (read text).events.map Event.entry = (read text').events.map Event.entry ↔
        (read text).events = (read text').events := by
  refine ⟨exists_parseLog, fun text => ?_, fun tokens tokens' => ?_, fun text text' => ⟨?_, ?_⟩⟩
  · let cut := Scan.ofText lexicon text
    refine ⟨cut.lexemes, cut.unread, scan_firstMatches lexicon 0 text.toList, ?_⟩
    by_cases hUnread : cut.unread = []
    · have hLex : lex text = .ok (cut.emitted.map Lexeme.token) :=
        if_pos (List.isEmpty_iff.mpr hUnread)
      obtain ⟨outcome, choices, hParse, hLog⟩ := exists_parseLog (cut.emitted.map Lexeme.token)
      have hRead := read_of_parse hLex hParse
      rw [hLex]
      refine ⟨hUnread, rfl, outcome, choices, hParse, hLog, hRead, ?_⟩
      rw [hRead, List.map_append]
      exact congrArg (· ++ _) (map_lexed_entry cut.emitted)
    · have hLex : lex text = .error ⟨cut.stop, String.ofList cut.unread⟩ :=
        if_neg (mt List.isEmpty_iff.mp hUnread)
      have hStop : cut.stop = byteSize (cut.lexemes.flatMap (·.value.toList)) :=
        (scan_stop lexicon 0 text.toList).trans (Nat.zero_add _)
      have hRead := read_of_error hLex
      rw [hLex]
      refine ⟨hUnread, by rw [hStop], hRead, ?_⟩
      rw [hRead]
      exact map_lexed_entry cut.emitted
  · obtain ⟨outcome, choices, hParse, hLog⟩ := exists_parseLog tokens
    obtain ⟨outcome', choices', hParse', hLog'⟩ := exists_parseLog tokens'
    rw [hParse, hParse']
    refine ⟨fun hSame => ?_, fun hSame => ?_⟩
    · exact congrArg Except.ok
        (Event.eq_of_entries hLog.legible hLog'.legible (Except.ok.inj hSame))
    · exact congrArg (fun events => Except.ok (events.map Event.entry)) (Except.ok.inj hSame)
  · exact Event.eq_of_entries (legible_of_read text) (legible_of_read text')
  · exact congrArg (List.map Event.entry)

end SqlReader
