import Mathlib.Data.List.Forall2
import SqlReader.Proofs.Session.Additions
import SqlReader.Proofs.Text.Lines

/-! A dialogue answers the lines of its input up to the first that is blank or no text, each with
the report that its text has alone. -/

namespace SqlReader

namespace Session

/-- The line encodes the text, which is not blank. -/
def Answerable (line : List UInt8) (text : String) : Prop :=
  Text.decode? line = some text ∧ Text.isBlank text = false

/-- No line is left, or the next one is blank. -/
def Over (lines : List (List UInt8)) : Prop :=
  ∀ line ∈ lines.head?, ∃ text, Text.decode? line = some text ∧ Text.isBlank text = true

/-- There is a next line, and it encodes no text. -/
def Unreadable (lines : List (List UInt8)) : Prop :=
  ∃ line ∈ lines.head?, Text.decode? line = none

/-- The console after the answer to a text: a line feed, what the report on the text alone comes to,
and the prompt have been added. -/
def exchange (settings : Settings) (console : Console) (text : String) : Console :=
  let answer := (report settings text).alone
  console.add ("\n".toUTF8 ++ answer.output ++ settings.prompt.toUTF8) answer.events

/-- The console of a dialogue that has been opened and has answered the texts. -/
def afterAnswers (settings : Settings) (texts : List String) : Console :=
  texts.foldl (exchange settings)
    ⟨"SQL Parser Test Program\n".toUTF8 ++ settings.prompt.toUTF8, none, #[]⟩

variable {settings : Settings} {line : List UInt8} {lines answered rest : List (List UInt8)}
  {text : String} {texts : List String} {console : Console}

/-! ### The lines to answer -/

/-- The lines fall into those to answer and a stop. -/
theorem exists_answered (lines : List (List UInt8)) : ∃ answered texts rest,
    lines = answered ++ rest ∧ List.Forall₂ Answerable answered texts ∧
      (Over rest ∨ Unreadable rest) := by
  induction lines with
  | nil => exact ⟨[], [], [], rfl, .nil, .inl (by simp [Over])⟩
  | cons line lines ih =>
    cases hText : Text.decode? line with
    | none => exact ⟨[], [], line :: lines, rfl, .nil, .inr ⟨line, rfl, hText⟩⟩
    | some text =>
      cases hBlank : Text.isBlank text with
      | true =>
        refine ⟨[], [], line :: lines, rfl, .nil, .inl ?_⟩
        rintro _ ⟨⟩
        exact ⟨text, hText, hBlank⟩
      | false =>
        obtain ⟨answered, texts, rest, rfl, hAnswered, hStop⟩ := ih
        exact ⟨line :: answered, text :: texts, rest, rfl, .cons ⟨hText, hBlank⟩ hAnswered, hStop⟩

/-! ### One line -/

/-- The answer to a text adds the same to every console without an end. -/
theorem answerLine_adds (h : Answerable line text) : (answerLine settings line).Adds true
    ("\n".toUTF8 ++ (report settings text).alone.output ++ settings.prompt.toUTF8)
    (report settings text).alone.events := by
  have hAdds : (do
      writeLine ""
      report settings text
      write settings.prompt
      return true : Session Bool).Adds true _ _ :=
    (adds_writeLine "").bind <| (report_ends settings text).adds_alone.bind <|
      (adds_write settings.prompt).bind (adds_pure true)
  simp only [ByteArray.append_empty, Array.append_empty, Array.empty_append,
    ← ByteArray.append_assoc] at hAdds
  simp only [answerLine, h.1, h.2]
  exact hAdds

theorem run_answerLine (h : Answerable line text) (hRoom : console.room = none) :
    (answerLine settings line).run console = (.ok true, exchange settings console text) :=
  answerLine_adds h console hRoom

theorem run_answerLine_blank (hText : Text.decode? line = some text)
    (hBlank : Text.isBlank text = true) :
    (answerLine settings line).run console = (.ok false, console) := by
  simp only [answerLine, hText, hBlank]
  rfl

theorem run_answerLine_notText (h : Text.decode? line = none) :
    (answerLine settings line).run console = (.error .notText, console) := by
  simp only [answerLine, h]
  rfl

/-! ### All lines -/

theorem run_answerLines_cons (h : Answerable line text) (hRoom : console.room = none) :
    (answerLines settings (line :: lines)).run console =
      (answerLines settings lines).run (exchange settings console text) := by
  rw [answerLines, run_bind_ok (run_answerLine h hRoom), if_pos rfl]

/-- The lines to answer are answered one after the other, and the rest comes then. -/
theorem run_answerLines_append (h : List.Forall₂ Answerable answered texts)
    (hRoom : console.room = none) :
    (answerLines settings (answered ++ rest)).run console =
      (answerLines settings rest).run (texts.foldl (exchange settings) console) := by
  induction h generalizing console with
  | nil => rfl
  | cons hLine _ ih =>
    rw [List.cons_append, run_answerLines_cons hLine hRoom]
    exact ih hRoom

theorem run_answerLines_over (h : Over rest) :
    (answerLines settings rest).run console = (.ok (), console) := by
  cases rest with
  | nil => rfl
  | cons line rest =>
    obtain ⟨text, hText, hBlank⟩ := h line rfl
    rw [answerLines, run_bind_ok (run_answerLine_blank hText hBlank)]
    rfl

theorem run_answerLines_unreadable (h : Unreadable rest) :
    (answerLines settings rest).run console = (.error .notText, console) := by
  cases rest with
  | nil => simp [Unreadable] at h
  | cons line rest =>
    obtain ⟨_, ⟨⟩, hText⟩ := h
    rw [answerLines, run_bind, run_answerLine_notText hText]

/-! ### The dialogue -/

variable {input : ByteArray}

/-- After the greeting and the lines to answer the dialogue runs as it does on the rest. -/
theorem run_dialogue (h : List.Forall₂ Answerable answered texts)
    (hLines : Text.lines input.data.toList = answered ++ rest) :
    (dialogue settings input).run (.empty none) =
      (answerLines settings rest >>= fun _ => takeLeave).run (afterAnswers settings texts) := by
  have hGreet : (greet settings).Adds () _ _ :=
    (adds_writeLine "SQL Parser Test Program").bind (adds_write settings.prompt)
  rw [dialogue, hLines, run_bind_ok (hGreet _ rfl), run_bind, Console.empty_add,
    run_answerLines_append h rfl, ← run_bind]
  rfl

theorem afterAnswers_room (settings : Settings) (texts : List String) :
    (afterAnswers settings texts).room = none :=
  List.foldlRecOn (motive := fun console : Console => console.room = none) texts (exchange settings)
    rfl fun _ hRoom _ _ => hRoom

theorem run_dialogue_over (h : List.Forall₂ Answerable answered texts) (hRest : Over rest)
    (hLines : Text.lines input.data.toList = answered ++ rest) :
    (dialogue settings input).run (.empty none) =
      (.ok (), (afterAnswers settings texts).add "\n".toUTF8 #[]) := by
  rw [run_dialogue h hLines, run_bind_ok (run_answerLines_over hRest)]
  exact adds_writeLine "" _ (afterAnswers_room settings texts)

theorem run_dialogue_unreadable (h : List.Forall₂ Answerable answered texts)
    (hRest : Unreadable rest) (hLines : Text.lines input.data.toList = answered ++ rest) :
    (dialogue settings input).run (.empty none) =
      (.error .notText, afterAnswers settings texts) := by
  rw [run_dialogue h hLines, run_bind, run_answerLines_unreadable hRest]

/-- A dialogue on an empty console without an end answers the lines of its input that encode a text
which is not blank, up to the first that is blank or encodes none.  It opens with the banner and the
prompt; each answer is a line feed, what the report on the text alone comes to, and the prompt.
Where no line is left or the next one is blank, a line feed ends the dialogue; where the next line
encodes no text, the dialogue fails and writes nothing more.  What follows that line does not
matter. -/
theorem dialogue_folds_reports (settings : Settings) (input : ByteArray) :
    ∃ answered texts rest,
      (∀ lines, Text.Lined input.data.toList lines ↔ lines = answered ++ rest) ∧
      List.Forall₂ Answerable answered texts ∧
      (Over rest ∧ (dialogue settings input).run (.empty none) =
          (.ok (), (afterAnswers settings texts).add "\n".toUTF8 #[]) ∨
        Unreadable rest ∧ (dialogue settings input).run (.empty none) =
          (.error .notText, afterAnswers settings texts)) ∧
      ∀ line ∈ rest.head?, ∀ (other : ByteArray) (later : List (List UInt8)),
        Text.Lined other.data.toList (answered ++ line :: later) →
        (dialogue settings other).run (.empty none) =
          (dialogue settings input).run (.empty none) := by
  obtain ⟨answered, texts, rest, hLines, hAnswered, hStop⟩ :=
    exists_answered (Text.lines input.data.toList)
  refine ⟨answered, texts, rest, fun lines => hLines ▸ Text.lined_iff, hAnswered, ?_, ?_⟩
  · obtain hOver | hUnreadable := hStop
    · exact .inl ⟨hOver, run_dialogue_over hAnswered hOver hLines⟩
    · exact .inr ⟨hUnreadable, run_dialogue_unreadable hAnswered hUnreadable hLines⟩
  · intro line hLine other later hOther
    have hHead : rest.head? = (line :: later).head? := hLine
    obtain hOver | hUnreadable := hStop
    · have hOver' : Over (line :: later) := by rwa [Over, ← hHead]
      rw [run_dialogue_over hAnswered hOver hLines,
        run_dialogue_over hAnswered hOver' hOther.eq_lines.symm]
    · have hUnreadable' : Unreadable (line :: later) := by rwa [Unreadable, ← hHead]
      rw [run_dialogue_unreadable hAnswered hUnreadable hLines,
        run_dialogue_unreadable hAnswered hUnreadable' hOther.eq_lines.symm]

end Session

end SqlReader
