import SqlReader.CommandLine
import SqlReader.Proofs.Session.Dialogue
import SqlReader.Proofs.Settings

/-! The exit code and the output of the program.  They depend on the environment through the
settings that a session uses and through which variables are faulty, and on what the program is not
asked to read they do not depend.  A command line that is not text breaks the program off. -/

namespace SqlReader.CommandLine

open Session

/-- The line encodes a text of white space only. -/
def isBlankLine (line : List UInt8) : Bool := (Text.decode? line).any Text.isBlank

/-- A line before the first blank one encodes no text. -/
def Garbled (input : ByteArray) : Prop :=
  ∃ line ∈ (Text.lines input.data.toList).takeWhile (!isBlankLine ·), Text.decode? line = none

/-- The environments have the same variables but for the log, of which both can read their own or
neither can. -/
structure SameButForLog (environment other : Environment) : Prop where
  shared : ∀ setting : Setting, setting ≠ .log → environment setting.key = other setting.key
  log : (∃ value, Setting.log.Means (environment Setting.log.key) value) ↔
    ∃ value, Setting.log.Means (other Setting.log.key) value

variable {environment other : Environment} {settings settings' : Settings} {setting : Setting}
  {error : SettingsError} {words : List ByteArray} {texts : List String} {input : ByteArray}

/-! ### The words of a command line -/

theorem texts?_cons (word : ByteArray) (words : List ByteArray) :
    texts? (word :: words) = (Text.decode? word.data.toList).bind fun text =>
      (texts? words).map (text :: ·) := by
  rw [texts?, List.mapM_cons, Option.bind_eq_bind]
  refine congrArg _ (funext fun text => ?_)
  show (texts? words >>= fun later => pure (text :: later)) = _
  cases texts? words <;> rfl

theorem texts?_eq_some_iff : texts? words = some texts ↔ words = texts.map String.toUTF8 := by
  induction words generalizing texts with
  | nil => simp [texts?, eq_comm]
  | cons word words ih =>
    simp only [texts?_cons, Option.bind_eq_some_iff, Option.map_eq_some_iff,
      Text.decode?_eq_some_iff, ih]
    constructor
    · rintro ⟨text, rfl, texts, rfl, rfl⟩
      rfl
    · intro h
      obtain ⟨text, texts, rfl, rfl, rfl⟩ := List.map_eq_cons_iff.mp h.symm
      exact ⟨text, rfl, texts, rfl, rfl⟩

theorem texts?_eq_none {word : ByteArray} (hMem : word ∈ words)
    (hNot : ∀ text : String, text.toUTF8 ≠ word) : texts? words = none := by
  refine Option.eq_none_iff_forall_ne_some.mpr fun texts hTexts => ?_
  rw [texts?_eq_some_iff.mp hTexts] at hMem
  obtain ⟨text, -, hText⟩ := List.mem_map.mp hMem
  exact hNot text hText

/-! ### With the settings of an environment -/

/-- The exit code of a session that has ended so. -/
def exitCode : Except Failure Unit → UInt32
  | .ok () => 0
  | .error _ => 1

theorem run_of_error (h : Settings.ofEnvironment environment = .error error)
    (words : List ByteArray) (input : ByteArray) : run words input environment = ⟨1, .empty⟩ := by
  rw [run, h]

/-- A word that is no text breaks the program off before it does anything. -/
theorem run_of_notText (h : Settings.ofEnvironment environment = .ok settings) {word : ByteArray}
    (hMem : word ∈ words) (hNot : ∀ text : String, text.toUTF8 ≠ word) (input : ByteArray) :
    run words input environment = ⟨101, .empty⟩ := by
  rw [run, h]
  dsimp only
  rw [texts?_eq_none hMem hNot]

theorem run_of_texts (h : Settings.ofEnvironment environment = .ok settings) (texts : List String)
    (input : ByteArray) : run (texts.map String.toUTF8) input environment =
      ⟨exitCode ((session settings (texts.drop 1) input).run (.empty none)).1,
        (session settings (texts.drop 1) input).alone.output⟩ := by
  rw [run, h, alone]
  dsimp only
  rw [texts?_eq_some_iff.mpr rfl]
  dsimp only
  rcases (session settings (texts.drop 1) input).run (.empty none) with ⟨_ | _, console⟩
  · rfl
  · rfl

/-- A report does not fail, so the program does not either. -/
theorem run_arguments (h : Settings.ofEnvironment environment = .ok settings) (texts : List String)
    (hSome : texts.drop 1 ≠ []) (input : ByteArray) :
    run (texts.map String.toUTF8) input environment =
      ⟨0, (report settings (" ".intercalate (texts.drop 1))).alone.output⟩ := by
  obtain ⟨⟨⟩, output, events, hAdds⟩ := report_ends settings (" ".intercalate (texts.drop 1))
  have hSession : session settings (texts.drop 1) input =
      report settings (" ".intercalate (texts.drop 1)) :=
    if_neg (mt List.isEmpty_iff.mp hSome)
  rw [run_of_texts h, hSession, hAdds (.empty none) rfl]
  rfl

/-! ### Without arguments -/

section Lines

variable {answered rest : List (List UInt8)} {texts : List String}

/-- The lines to answer come before the first blank one, and the rest is up to it. -/
theorem takeWhile_answered (h : List.Forall₂ Answerable answered texts) :
    (answered ++ rest).takeWhile (!isBlankLine ·) =
      answered ++ rest.takeWhile (!isBlankLine ·) := by
  induction h with
  | nil => rfl
  | @cons line text answered texts hLine _ ih =>
    have hVisible : isBlankLine line = false := by
      rw [isBlankLine, hLine.1]
      exact hLine.2
    rw [List.cons_append, List.takeWhile_cons_of_pos (by simp [hVisible]), ih, List.cons_append]

theorem decode?_of_answered (h : List.Forall₂ Answerable answered texts) :
    ∀ line ∈ answered, Text.decode? line ≠ none := by
  induction h with
  | nil => exact List.forall_mem_nil _
  | cons hLine _ ih => exact List.forall_mem_cons.mpr ⟨by simp [hLine.1], ih⟩

theorem garbled_of_unreadable (h : List.Forall₂ Answerable answered texts)
    (hLines : Text.lines input.data.toList = answered ++ rest) (hRest : Unreadable rest) :
    Garbled input := by
  obtain ⟨line, hLine, hDecode⟩ := hRest
  obtain ⟨later, rfl⟩ := List.head?_eq_some_iff.mp hLine
  refine ⟨line, ?_, hDecode⟩
  rw [hLines, takeWhile_answered h]
  simp [isBlankLine, hDecode]

theorem not_garbled_of_over (h : List.Forall₂ Answerable answered texts)
    (hLines : Text.lines input.data.toList = answered ++ rest) (hRest : Over rest) :
    ¬Garbled input := by
  have hNone : rest.takeWhile (!isBlankLine ·) = [] := by
    cases rest with
    | nil => rfl
    | cons line later =>
      obtain ⟨text, hDecode, hBlank⟩ := hRest line rfl
      exact List.takeWhile_cons_of_neg (by simp [isBlankLine, hDecode, hBlank])
  rintro ⟨line, hLine, hDecode⟩
  rw [hLines, takeWhile_answered h, hNone, List.append_nil] at hLine
  exact decode?_of_answered h line hLine hDecode

end Lines

/-- Without arguments the program writes what a dialogue does, and fails exactly if a line before
the first blank one encodes no text. -/
theorem run_noArguments (h : Settings.ofEnvironment environment = .ok settings)
    (texts : List String) (hNone : texts.drop 1 = []) (input : ByteArray) :
    ∃ code ∈ [0, 1], run (texts.map String.toUTF8) input environment =
        ⟨code, (dialogue settings input).alone.output⟩ ∧
      (code = 1 ↔ Garbled input) := by
  obtain ⟨answered, answers, rest, hLines, hAnswered, hStop⟩ :=
    exists_answered (Text.lines input.data.toList)
  have hSession : session settings (texts.drop 1) input = dialogue settings input := by
    rw [hNone]
    rfl
  rw [run_of_texts h, hSession]
  obtain hOver | hUnreadable := hStop
  · have hNot := not_garbled_of_over hAnswered hLines hOver
    rw [run_dialogue_over hAnswered hOver hLines]
    exact ⟨0, by simp, rfl, by simpa using hNot⟩
  · have hGarbled := garbled_of_unreadable hAnswered hLines hUnreadable
    rw [run_dialogue_unreadable hAnswered hUnreadable hLines]
    exact ⟨1, by simp, rfl, by simpa using hGarbled⟩

/-! ### The log -/

theorem answerLines_log (settings : Settings) (log : String) (lines : List (List UInt8)) :
    answerLines { settings with log } lines = answerLines settings lines := by
  induction lines with
  | nil => rfl
  | cons line lines ih =>
    rw [answerLines, answerLines, ih]
    rfl

/-- What is logged to standard error does not show in a session. -/
theorem session_log (settings : Settings) (log : String) (arguments : List String)
    (input : ByteArray) :
    session { settings with log } arguments input = session settings arguments input := by
  have hDialogue : dialogue { settings with log } input = dialogue settings input := by
    rw [dialogue, dialogue, answerLines_log]
    rfl
  rw [session, session, hDialogue]
  rfl

/-! ### Environments that are the same but for the log -/

theorem SameButForLog.symm (h : SameButForLog environment other) :
    SameButForLog other environment :=
  ⟨fun setting hNe => (h.shared setting hNe).symm, h.log.symm⟩

theorem SameButForLog.means (h : SameButForLog environment other)
    (hMeans : ∀ setting : Setting, ∃ value, setting.Means (environment setting.key) value) :
    ∀ setting : Setting, ∃ value, setting.Means (other setting.key) value := by
  intro setting
  by_cases hLog : setting = .log
  · rw [hLog]
    exact h.log.mp (hMeans .log)
  · rw [← h.shared setting hLog]
    exact hMeans setting

/-- The settings are the same but for the log. -/
theorem SameButForLog.settings_eq (h : SameButForLog environment other)
    (hSettings : Settings.ofEnvironment environment = .ok settings)
    (hSettings' : Settings.ofEnvironment other = .ok settings') :
    settings' = { settings with log := settings'.log } := by
  have hSame (setting : Setting) (hNe : setting ≠ .log) :
      settings'.value setting = settings.value setting := by
    have hMeans := means_of_ofEnvironment hSettings' setting
    rw [← h.shared setting hNe] at hMeans
    exact hMeans.unique (means_of_ofEnvironment hSettings setting)
  obtain ⟨prompt, showTokens, showTree, log⟩ := settings
  obtain ⟨prompt', showTokens', showTree', log'⟩ := settings'
  cases hSame .prompt (by decide)
  cases hSame .showTokens (by decide)
  cases hSame .showTree (by decide)
  rfl

theorem SameButForLog.run_eq (h : SameButForLog environment other) (words : List ByteArray)
    (input : ByteArray) : run words input other = run words input environment := by
  rcases exists_firstFaulty_or_means environment with ⟨setting, error, hFirst⟩ | hMeans
  · rcases exists_firstFaulty_or_means other with ⟨setting', error', hFirst'⟩ | hMeans'
    · rw [run_of_error (ofEnvironment_of_faulty hFirst),
        run_of_error (ofEnvironment_of_faulty hFirst')]
    · obtain ⟨value, hMeans⟩ := h.symm.means hMeans' setting
      exact absurd hFirst.faulty hMeans.not_faulty
  · obtain ⟨settings, hSettings, -⟩ := ofEnvironment_of_means hMeans
    obtain ⟨settings', hSettings', -⟩ := ofEnvironment_of_means (h.means hMeans)
    rw [run, run, hSettings, hSettings']
    dsimp only
    cases texts? words with
    | none => rfl
    | some texts =>
      dsimp only
      rw [h.settings_eq hSettings hSettings', session_log]

/-! ### The program -/

/-- The environment, the command line and the input determine the exit code and the output.  Where a
variable is faulty, the first such setting is reported, and nothing is written whatever the words
and the input are.  Otherwise each setting is what its own variable means.  A word that is no text
then breaks the program off, which writes nothing either.  If all of them are text, the first is the
name of the program; with others the program reports on them as one statement and succeeds, whatever
the input is; and without, it holds a dialogue over the input, which fails exactly if a line before
the first blank one encodes no text.  No other variable counts, and of the log only whether it can
be read. -/
theorem run_is_determined (environment : Environment) :
    ((∃ setting error, FirstFaulty environment setting error ∧
        Settings.ofEnvironment environment = .error error ∧
        (∃ before after, error.message =
          before ++ "` from environment variable `" ++ setting.key ++ after) ∧
        ∀ words input, run words input environment = ⟨1, .empty⟩) ∨
      ∃ settings, Settings.ofEnvironment environment = .ok settings ∧
        (∀ setting : Setting,
          (∀ value, setting.Means (environment setting.key) value ↔
            value = settings.value setting) ∧
          ∀ error, ¬setting.Faulty (environment setting.key) error) ∧
        (∀ words, (∃ word ∈ words, ∀ text : String, text.toUTF8 ≠ word) →
          ∀ input, run words input environment = ⟨101, .empty⟩) ∧
        (∀ texts : List String, texts.drop 1 ≠ [] →
          ∀ input, run (texts.map String.toUTF8) input environment =
            ⟨0, (report settings (" ".intercalate (texts.drop 1))).alone.output⟩) ∧
        ∀ texts : List String, texts.drop 1 = [] →
          ∀ input, ∃ code ∈ [0, 1], run (texts.map String.toUTF8) input environment =
              ⟨code, (dialogue settings input).alone.output⟩ ∧
            (code = 1 ↔ Garbled input)) ∧
      ∀ other, SameButForLog environment other →
        ∀ words input, run words input other = run words input environment := by
  refine ⟨?_, fun other h => h.run_eq⟩
  rcases exists_firstFaulty_or_means environment with ⟨setting, error, hFirst⟩ | hMeans
  · have hError := ofEnvironment_of_faulty hFirst
    exact .inl ⟨setting, error, hFirst, hError, hFirst.faulty.message, run_of_error hError⟩
  · obtain ⟨settings, hSettings, hAll⟩ := ofEnvironment_of_means hMeans
    refine .inr ⟨settings, hSettings, fun setting => ⟨fun value => ⟨?_, ?_⟩, fun error => ?_⟩, ?_,
      run_arguments hSettings, run_noArguments hSettings⟩
    · exact fun h => h.unique (hAll setting)
    · rintro rfl
      exact hAll setting
    · exact (hAll setting).not_faulty
    · rintro words ⟨word, hMem, hNot⟩
      exact run_of_notText hSettings hMem hNot

/-- One flag is set, in mixed case and with white space around it. -/
def tokensHidden : Environment := fun key =>
  if key = "MINSQL_SHOW_TOKENS" then some "\tnO ".toUTF8 else none

/-- The flag is set, and a log is asked for; another variable encodes no text. -/
def tokensHiddenLogged : Environment := fun key =>
  if key = "MINSQL_LOG" then some "debug".toUTF8
  else if key = "RUST_LOG" then some ⟨#[0xC3]⟩ else tokensHidden key

theorem sameButForLog_tokensHidden : SameButForLog tokensHidden tokensHiddenLogged := by
  have hDecode : Text.decode? "debug".toUTF8.data.toList = some "debug" := by decide +kernel
  have hUnset : tokensHidden Setting.log.key = none := by simp [tokensHidden, Setting.key]
  have hLog : tokensHiddenLogged Setting.log.key = some "debug".toUTF8 := by
    simp [tokensHiddenLogged, Setting.key]
  refine ⟨fun setting hNe => ?_, ?_⟩
  · cases setting with
    | log => exact absurd rfl hNe
    | prompt | showTokens | showTree => simp [tokensHidden, tokensHiddenLogged, Setting.key]
  · rw [hUnset, hLog]
    exact ⟨fun _ => ⟨_, .text rfl hDecode⟩, fun _ => ⟨_, .unset⟩⟩

/-- Bytes that start a character and do not end it. -/
theorem toUTF8_ne (text : String) : text.toUTF8 ≠ ⟨#[0xC3]⟩ := fun h => by
  have hDecode := Text.decode?_eq_some_iff.mpr h
  rw [show Text.decode? [0xC3] = none by decide +kernel] at hDecode
  cases hDecode

/-- A statement that cannot be cut, over an input that is no text; that input by itself; and the
same bytes as an argument. -/
theorem run_is_determined_logged :
    SameButForLog tokensHidden tokensHiddenLogged ∧
      run (["reader", "SELECT", ";"].map String.toUTF8) ⟨#[0xC3]⟩ tokensHiddenLogged =
        ⟨0, "Error: Could not parse query text at offset 7: \";\"\n".toUTF8⟩ ∧
      (run (["reader"].map String.toUTF8) ⟨#[0xC3]⟩ tokensHiddenLogged).code = 1 ∧
      run ["reader".toUTF8, ⟨#[0xC3]⟩] .empty tokensHiddenLogged = ⟨101, .empty⟩ := by
  have hRead : Settings.ofEnvironment tokensHidden = .ok { showTokens := false } := by
    decide +kernel
  have hReport : (report { showTokens := false } (" ".intercalate ["SELECT", ";"])).alone.output =
      "Error: Could not parse query text at offset 7: \";\"\n".toUTF8 := by decide +kernel
  have hGarbled : Garbled ⟨#[0xC3]⟩ := ⟨[0xC3], by decide +kernel, by decide +kernel⟩
  obtain ⟨hCases, hOther⟩ := run_is_determined tokensHidden
  have hSame := hOther tokensHiddenLogged sameButForLog_tokensHidden
  rcases hCases with ⟨setting, error, -, hError, -⟩ |
    ⟨settings, hSettings, -, hNotText, hArguments, hInput⟩
  · cases hRead.symm.trans hError
  · obtain rfl : { showTokens := false } = settings := Except.ok.inj (hRead.symm.trans hSettings)
    obtain ⟨code, -, hRun, hCode⟩ := hInput ["reader"] rfl ⟨#[0xC3]⟩
    refine ⟨sameButForLog_tokensHidden, ?_, ?_, ?_⟩
    · rw [hSame, hArguments _ (by simp)]
      exact congrArg _ hReport
    · rw [hSame, hRun]
      exact hCode.mpr hGarbled
    · rw [hSame]
      exact hNotText _ ⟨⟨#[0xC3]⟩, by simp, toUTF8_ne⟩ .empty

/-- Nothing is set but a variable that holds no setting, and that is no text. -/
def otherVariable : Environment := fun key =>
  if key = "MINSQL_OTHER" then some ⟨#[0xC3]⟩ else none

/-- With nothing set an argument that is no text breaks the program off; and a variable that holds
no setting does not count, though its name begins as theirs do and it is no text. -/
theorem argument_breaks_off :
    run ["reader".toUTF8, ⟨#[0xC3]⟩] .empty (fun _ => none) = ⟨101, .empty⟩ ∧
      (run ["reader".toUTF8] .empty otherVariable).code = 0 := by
  have hUnset : Settings.ofEnvironment (fun _ => none) = .ok {} := rfl
  have hOther : Settings.ofEnvironment otherVariable = .ok {} := by decide +kernel
  refine ⟨run_of_notText hUnset (by simp) toUTF8_ne .empty, ?_⟩
  decide +kernel

end SqlReader.CommandLine
