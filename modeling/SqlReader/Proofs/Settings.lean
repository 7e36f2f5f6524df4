import SqlReader.Settings

/-! The settings of an environment, told variable by variable.  What a variable means depends on the
setting and on the variable alone; the settings are what their variables mean, and where some
variable means nothing the first such is reported. -/

namespace SqlReader

/-- The words that stand for a flag. -/
def flagWords : Bool → List String
  | true => ["1", "true", "yes"]
  | false => ["0", "false", "no"]

/-- The text is a word for the flag, in any case and with white space around it. -/
def IsFlag (text : String) (flag : Bool) : Prop :=
  ∃ word ∈ flagWords flag, Text.sameIgnoringCase (Text.trim text) word = true

/-- The value of a setting, which is a text or a flag. -/
def Settings.value (settings : Settings) : Setting → String ⊕ Bool
  | .prompt => .inl settings.prompt
  | .showTokens => .inr settings.showTokens
  | .showTree => .inr settings.showTree
  | .log => .inl settings.log

namespace Setting

def isFlag : Setting → Bool
  | showTokens | showTree => true
  | prompt | log => false

/-- The value of the setting where nothing is said of it. -/
def default (setting : Setting) : String ⊕ Bool := ({} : Settings).value setting

/-- What a variable says of its setting.  An empty one says nothing of a flag. -/
inductive Means (setting : Setting) : Option ByteArray → String ⊕ Bool → Prop
  | unset : setting.Means none setting.default
  | text {bytes : ByteArray} {text : String} (hText : setting.isFlag = false)
      (hDecode : Text.decode? bytes.data.toList = some text) :
      setting.Means (some bytes) (.inl text)
  | flag {bytes : ByteArray} {text : String} {flag : Bool} (hFlag : setting.isFlag = true)
      (hDecode : Text.decode? bytes.data.toList = some text) (h : IsFlag text flag) :
      setting.Means (some bytes) (.inr flag)
  | empty {bytes : ByteArray} (hFlag : setting.isFlag = true)
      (hDecode : Text.decode? bytes.data.toList = some "") :
      setting.Means (some bytes) setting.default

/-- Why a variable says nothing that its setting can be. -/
inductive Faulty (setting : Setting) : Option ByteArray → SettingsError → Prop
  | notText {bytes : ByteArray} (hDecode : Text.decode? bytes.data.toList = none) :
      setting.Faulty (some bytes) (.notText setting)
  | notFlag {bytes : ByteArray} {text : String} (hFlag : setting.isFlag = true)
      (hDecode : Text.decode? bytes.data.toList = some text) (hSome : text ≠ "")
      (h : ∀ flag, ¬IsFlag text flag) :
      setting.Faulty (some bytes) (.notFlag setting (Text.trim text))

end Setting

/-- The settings that are read before this one mean something, and its own variable is faulty. -/
structure FirstFaulty (environment : Environment) (setting : Setting) (error : SettingsError) :
    Prop where
  before : ∀ earlier ∈ Setting.all.takeWhile (· ≠ setting),
    ∃ value, earlier.Means (environment earlier.key) value
  faulty : setting.Faulty (environment setting.key) error

variable {environment : Environment} {setting : Setting} {bytes : Option ByteArray}
  {text : String} {value value' : String ⊕ Bool} {error : SettingsError}

/-! ### Flags -/

theorem IsFlag.unique {flag flag' : Bool} (h : IsFlag text flag) (h' : IsFlag text flag') :
    flag = flag' := by
  have hApart : ∀ a b, ∀ word ∈ flagWords a, ∀ word' ∈ flagWords b,
      Text.sameIgnoringCase word word' = true → a = b := by decide
  obtain ⟨word, hWord, hSame⟩ := h
  obtain ⟨word', hWord', hSame'⟩ := h'
  rw [Text.sameIgnoringCase_iff] at hSame hSame'
  exact hApart _ _ word hWord word' hWord'
    (Text.sameIgnoringCase_iff.mpr (hSame.symm.trans hSame'))

theorem flag?_eq_some {flag : Bool} :
    Settings.flag? (Text.trim text) = some flag ↔ IsFlag text flag := by
  have hTrue : (["1", "true", "yes"].any (Text.sameIgnoringCase (Text.trim text))) = true ↔
      IsFlag text true := List.any_eq_true
  have hFalse : (["0", "false", "no"].any (Text.sameIgnoringCase (Text.trim text))) = true ↔
      IsFlag text false := List.any_eq_true
  unfold Settings.flag?
  split
  · rename_i h
    have hOne := hTrue.mp h
    exact ⟨fun hSome => Option.some.inj hSome ▸ hOne, fun hFlag => by rw [hOne.unique hFlag]⟩
  · rename_i hNotTrue
    split
    · rename_i h
      have hOne := hFalse.mp h
      exact ⟨fun hSome => Option.some.inj hSome ▸ hOne, fun hFlag => by rw [hOne.unique hFlag]⟩
    · rename_i hNotFalse
      refine ⟨nofun, fun hFlag => ?_⟩
      cases flag
      · exact absurd (hFalse.mpr hFlag) hNotFalse
      · exact absurd (hTrue.mpr hFlag) hNotTrue

/-! ### One variable -/

namespace Setting

/-- A variable means something or is faulty. -/
theorem means_or_faulty (setting : Setting) (bytes : Option ByteArray) :
    (∃ value, setting.Means bytes value) ∨ ∃ error, setting.Faulty bytes error := by
  cases bytes with
  | none => exact .inl ⟨_, .unset⟩
  | some bytes =>
    cases hDecode : Text.decode? bytes.data.toList with
    | none => exact .inr ⟨_, .notText hDecode⟩
    | some text =>
      cases hFlag : setting.isFlag with
      | false => exact .inl ⟨_, .text hFlag hDecode⟩
      | true =>
        by_cases hWord : ∃ flag, IsFlag text flag
        · obtain ⟨flag, hWord⟩ := hWord
          exact .inl ⟨_, .flag hFlag hDecode hWord⟩
        · by_cases hEmpty : text = ""
          · exact .inl ⟨_, .empty hFlag (hEmpty ▸ hDecode)⟩
          · exact .inr ⟨_, .notFlag hFlag hDecode hEmpty (not_exists.mp hWord)⟩

theorem readFlag_eq (environment : Environment) (setting : Setting) :
    Settings.readFlag environment setting =
      match Settings.readText environment setting with
      | .error error => .error error
      | .ok none => .ok none
      | .ok (some text) =>
        match Settings.flag? (Text.trim text) with
        | some flag => .ok (some flag)
        | none =>
          if text.isEmpty then .ok none else .error (.notFlag setting (Text.trim text)) := by
  unfold Settings.readFlag
  rcases Settings.readText environment setting with error | _ | text
  · rfl
  · rfl
  · simp only [bind, Except.bind]
    cases Settings.flag? (Text.trim text) with
    | some flag => rfl
    | none =>
      dsimp only
      split <;> rfl

theorem Means.readText (h : setting.Means bytes value) (hBytes : environment setting.key = bytes)
    (hText : setting.isFlag = false) :
    ∃ given, Settings.readText environment setting = .ok given ∧
      value = given.elim setting.default .inl := by
  cases h with
  | unset => exact ⟨none, by simp only [Settings.readText, hBytes], rfl⟩
  | text _ hDecode => exact ⟨some _, by simp only [Settings.readText, hBytes, hDecode], rfl⟩
  | flag hFlag _ _ => cases hText.symm.trans hFlag
  | empty hFlag _ => cases hText.symm.trans hFlag

theorem Means.readFlag (h : setting.Means bytes value) (hBytes : environment setting.key = bytes)
    (hFlag : setting.isFlag = true) :
    ∃ given, Settings.readFlag environment setting = .ok given ∧
      value = given.elim setting.default .inr := by
  cases h with
  | unset => exact ⟨none, by simp only [readFlag_eq, Settings.readText, hBytes], rfl⟩
  | text hText _ => cases hText.symm.trans hFlag
  | flag _ hDecode hWord =>
    refine ⟨some _, ?_, rfl⟩
    simp only [readFlag_eq, Settings.readText, hBytes, hDecode, flag?_eq_some.mpr hWord]
  | empty _ hDecode =>
    have hNone : Settings.flag? (Text.trim "") = none := by decide +kernel
    refine ⟨none, ?_, rfl⟩
    simp [readFlag_eq, Settings.readText, hBytes, hDecode, hNone]

theorem Faulty.readText (h : setting.Faulty bytes error) (hBytes : environment setting.key = bytes)
    (hText : setting.isFlag = false) : Settings.readText environment setting = .error error := by
  cases h with
  | notText hDecode => simp only [Settings.readText, hBytes, hDecode]
  | notFlag hFlag _ _ _ => cases hText.symm.trans hFlag

theorem Faulty.readFlag (h : setting.Faulty bytes error)
    (hBytes : environment setting.key = bytes) :
    Settings.readFlag environment setting = .error error := by
  cases h with
  | notText hDecode => simp only [readFlag_eq, Settings.readText, hBytes, hDecode]
  | @notFlag _ text _ hDecode hSome hWord =>
    have hNone : Settings.flag? (Text.trim text) = none :=
      Option.eq_none_iff_forall_ne_some.mpr fun flag hFlag => hWord flag (flag?_eq_some.mp hFlag)
    simp [readFlag_eq, Settings.readText, hBytes, hDecode, hNone, hSome]

/-- A variable means one thing. -/
theorem Means.unique (h : setting.Means bytes value) (h' : setting.Means bytes value') :
    value = value' := by
  obtain ⟨environment, hBytes⟩ : ∃ environment : Environment, environment setting.key = bytes :=
    ⟨fun _ => bytes, rfl⟩
  cases hFlag : setting.isFlag with
  | false =>
    obtain ⟨given, hRead, rfl⟩ := h.readText hBytes hFlag
    obtain ⟨given', hRead', rfl⟩ := h'.readText hBytes hFlag
    rw [Except.ok.inj (hRead.symm.trans hRead')]
  | true =>
    obtain ⟨given, hRead, rfl⟩ := h.readFlag hBytes hFlag
    obtain ⟨given', hRead', rfl⟩ := h'.readFlag hBytes hFlag
    rw [Except.ok.inj (hRead.symm.trans hRead')]

/-- A variable that means something is not faulty. -/
theorem Means.not_faulty (h : setting.Means bytes value) : ¬setting.Faulty bytes error := by
  intro h'
  obtain ⟨environment, hBytes⟩ : ∃ environment : Environment, environment setting.key = bytes :=
    ⟨fun _ => bytes, rfl⟩
  cases hFlag : setting.isFlag with
  | false =>
    obtain ⟨given, hRead, -⟩ := h.readText hBytes hFlag
    cases hRead.symm.trans (h'.readText hBytes hFlag)
  | true =>
    obtain ⟨given, hRead, -⟩ := h.readFlag hBytes hFlag
    cases hRead.symm.trans (h'.readFlag hBytes)

/-- The message of a fault names the variable. -/
theorem Faulty.message (h : setting.Faulty bytes error) : ∃ before after,
    error.message = before ++ "` from environment variable `" ++ setting.key ++ after := by
  cases h with
  | notText _ => exact ⟨_, _, rfl⟩
  | @notFlag _ text _ _ _ _ =>
    refine ⟨"Configuration error: failed to deserialize value `" ++ setting.label,
      "`: invalid value for bool: '" ++ (Text.trim text ++ "'"), ?_⟩
    unfold SettingsError.message
    rw [← String.append_assoc, ← String.append_assoc]

end Setting

/-! ### All settings -/

theorem ofEnvironment_of_means
    (h : ∀ setting : Setting, ∃ value, setting.Means (environment setting.key) value) :
    ∃ settings, Settings.ofEnvironment environment = .ok settings ∧
      ∀ setting : Setting, setting.Means (environment setting.key) (settings.value setting) := by
  obtain ⟨_, hPrompt⟩ := h .prompt
  obtain ⟨_, hTokens⟩ := h .showTokens
  obtain ⟨_, hTree⟩ := h .showTree
  obtain ⟨_, hLog⟩ := h .log
  obtain ⟨prompt, hReadPrompt, rfl⟩ := hPrompt.readText rfl rfl
  obtain ⟨showTokens, hReadTokens, rfl⟩ := hTokens.readFlag rfl rfl
  obtain ⟨showTree, hReadTree, rfl⟩ := hTree.readFlag rfl rfl
  obtain ⟨log, hReadLog, rfl⟩ := hLog.readText rfl rfl
  refine ⟨_, by rw [Settings.ofEnvironment, hReadPrompt, hReadTokens, hReadTree, hReadLog]; rfl,
    fun setting => ?_⟩
  cases setting with
  | prompt => cases prompt <;> exact hPrompt
  | showTokens => cases showTokens <;> exact hTokens
  | showTree => cases showTree <;> exact hTree
  | log => cases log <;> exact hLog

theorem ofEnvironment_of_faulty (h : FirstFaulty environment setting error) :
    Settings.ofEnvironment environment = .error error := by
  obtain ⟨hBefore, hFaulty⟩ := h
  have hText (earlier : Setting) (hMem : earlier ∈ Setting.all.takeWhile (· ≠ setting))
      (hKind : earlier.isFlag = false) :
      ∃ given, Settings.readText environment earlier = .ok given := by
    obtain ⟨value, hMeans⟩ := hBefore earlier hMem
    obtain ⟨given, hRead, -⟩ := hMeans.readText rfl hKind
    exact ⟨given, hRead⟩
  have hFlag (earlier : Setting) (hMem : earlier ∈ Setting.all.takeWhile (· ≠ setting))
      (hKind : earlier.isFlag = true) :
      ∃ given, Settings.readFlag environment earlier = .ok given := by
    obtain ⟨value, hMeans⟩ := hBefore earlier hMem
    obtain ⟨given, hRead, -⟩ := hMeans.readFlag rfl hKind
    exact ⟨given, hRead⟩
  cases setting with
  | prompt =>
    rw [Settings.ofEnvironment, hFaulty.readText rfl rfl]
    rfl
  | showTokens =>
    obtain ⟨_, hPrompt⟩ := hText .prompt (by decide) rfl
    rw [Settings.ofEnvironment, hPrompt, hFaulty.readFlag rfl]
    rfl
  | showTree =>
    obtain ⟨_, hPrompt⟩ := hText .prompt (by decide) rfl
    obtain ⟨_, hTokens⟩ := hFlag .showTokens (by decide) rfl
    rw [Settings.ofEnvironment, hPrompt, hTokens, hFaulty.readFlag rfl]
    rfl
  | log =>
    obtain ⟨_, hPrompt⟩ := hText .prompt (by decide) rfl
    obtain ⟨_, hTokens⟩ := hFlag .showTokens (by decide) rfl
    obtain ⟨_, hTree⟩ := hFlag .showTree (by decide) rfl
    rw [Settings.ofEnvironment, hPrompt, hTokens, hTree, hFaulty.readText rfl rfl]
    rfl

/-- Some variable is the first that is faulty, or all mean something. -/
theorem exists_firstFaulty_or_means (environment : Environment) :
    (∃ setting error, FirstFaulty environment setting error) ∨
      ∀ setting : Setting, ∃ value, setting.Means (environment setting.key) value := by
  have hCases (setting : Setting) := (setting.means_or_faulty (environment setting.key)).symm
  rcases hCases .prompt with ⟨error, hFaulty⟩ | hPrompt
  · exact .inl ⟨.prompt, error, List.forall_mem_nil _, hFaulty⟩
  rcases hCases .showTokens with ⟨error, hFaulty⟩ | hTokens
  · exact .inl ⟨.showTokens, error, List.forall_mem_singleton.mpr hPrompt, hFaulty⟩
  rcases hCases .showTree with ⟨error, hFaulty⟩ | hTree
  · exact .inl ⟨.showTree, error,
      List.forall_mem_cons.mpr ⟨hPrompt, List.forall_mem_singleton.mpr hTokens⟩, hFaulty⟩
  rcases hCases .log with ⟨error, hFaulty⟩ | hLog
  · exact .inl ⟨.log, error, List.forall_mem_cons.mpr ⟨hPrompt,
      List.forall_mem_cons.mpr ⟨hTokens, List.forall_mem_singleton.mpr hTree⟩⟩, hFaulty⟩
  refine .inr fun setting => ?_
  cases setting with
  | prompt => exact hPrompt
  | showTokens => exact hTokens
  | showTree => exact hTree
  | log => exact hLog

/-- The settings that an environment gives are what its variables mean. -/
theorem means_of_ofEnvironment {settings : Settings}
    (h : Settings.ofEnvironment environment = .ok settings) (setting : Setting) :
    setting.Means (environment setting.key) (settings.value setting) := by
  rcases exists_firstFaulty_or_means environment with ⟨first, error, hFirst⟩ | hMeans
  · cases h.symm.trans (ofEnvironment_of_faulty hFirst)
  · obtain ⟨found, hFound, hAll⟩ := ofEnvironment_of_means hMeans
    obtain rfl : found = settings := Except.ok.inj (hFound.symm.trans h)
    exact hAll setting

end SqlReader
