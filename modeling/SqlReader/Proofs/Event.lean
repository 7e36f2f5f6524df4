import SqlReader.Event
import SqlReader.Proofs.Lexing.Lines

/-! Events as they are logged.  The level tells reading a token, trying an alternative, ending a
parse and reporting apart, and the event can be read off its message; so a log says of a run what
its events do. -/

namespace SqlReader

open Text

variable {t u : Token} {rest rest' : String}

/-! ### Parts of a message -/

theorem Level.name_injective {k l : Level} (h : k.name = l.name) : k = l := by
  cases k <;> cases l <;> first | rfl | exact absurd h (by decide)

/-- A token can be read off its description, whatever follows. -/
theorem Token.describe_append_injective (h : t.describe ++ rest = u.describe ++ rest') :
    t = u ∧ rest = rest' := by
  obtain ⟨value, kind, start⟩ := t
  obtain ⟨value', kind', start'⟩ := u
  unfold describe at h
  simp only [String.append_assoc, String.append_right_inj] at h
  obtain ⟨rfl, hKind⟩ := quote_append_injective h
  rw [String.append_right_inj] at hKind
  obtain ⟨hName, hStart⟩ := text_append_injective kind.isAlpha_of_mem_name
    kind'.isAlpha_of_mem_name (by simp) (by simp) hKind
  obtain rfl := TokenKind.name_injective hName
  obtain ⟨rfl, hStop⟩ := toString_between_injective (by simp) (by simp) hStart
  simp only [String.append_right_inj] at hStop
  exact ⟨rfl, hStop⟩

theorem Token.describe_injective (h : t.describe = u.describe) : t = u :=
  (Token.describe_append_injective (congrArg (· ++ "") h)).1

/-- The rules of the lexicon have different regular expressions. -/
theorem source_injective : ∀ rule ∈ lexicon, ∀ other ∈ lexicon,
    rule.source = other.source → rule = other := by
  decide +kernel

namespace Event

variable {e e' : Event} {lexeme lexeme' : Lexeme} {i j : Nat} {start start' : Place}

theorem matched_entry (i : Nat) (t : Token) {before : String}
    (h : "Alternative " ++ toString i ++ " matched, now at " = before) :
    (matched i t).entry = ("TRACE", before ++ t.describe) := by
  subst h
  rfl

theorem failed_entry (i : Nat) (t : Token) (start : Place) {before after : String}
    (h : "Alternative " ++ toString i ++ " failed at " = before)
    (h' : ", rewinding to " ++ toString start.position ++ ":" ++ toString start.offset = after) :
    (failed i t start).entry = ("TRACE", before ++ t.describe ++ after) := by
  subst h h'
  unfold entry message
  simp only [String.append_assoc]
  rfl

/-! ### Events read back -/

/-- The lexeme of the event is one that becomes a token. -/
def Legible : Event → Prop
  | lexed lexeme => lexeme.Visible
  | _ => True

theorem eq_of_lexed_message (h : lexeme.Visible) (h' : lexeme'.Visible)
    (hSame : (lexed lexeme).message = (lexed lexeme').message) : lexeme = lexeme' := by
  obtain ⟨rule, value, start⟩ := lexeme
  obtain ⟨rule', value', start'⟩ := lexeme'
  have hBlank : isWhiteSpace ' ' = true := by decide
  have hRun {value : String} (hValue : ∀ c ∈ value.toList, isWhiteSpace c = false) :
      ∀ c ∈ value.toList, (!isWhiteSpace c) = true := by simpa using hValue
  unfold message at hSame
  simp only [String.append_assoc, String.append_right_inj] at hSame
  obtain ⟨-, hValue, hSpan⟩ := Token.line_append_injective (hRun h.2) (hRun h'.2)
    (by simp [hBlank]) (by simp [hBlank]) hSame
  obtain rfl : value = value' := hValue
  obtain ⟨rfl, hStop⟩ := toString_between_injective (by simp) (by simp) hSpan
  obtain ⟨-, hSource⟩ := toString_between_injective (by simp) (by simp) hStop
  rw [String.append_right_inj] at hSource
  rw [source_injective rule h.1 rule' h'.1 hSource]

theorem eq_of_matched_message (h : (matched i t).message = (matched j u).message) :
    matched i t = matched j u := by
  unfold message at h
  simp only [String.append_assoc, String.append_right_inj] at h
  obtain ⟨rfl, hToken⟩ := toString_append_injective (by simp) (by simp) h
  rw [Token.describe_injective ((String.append_right_inj _).mp hToken)]

theorem eq_of_failed_message (h : (failed i t start).message = (failed j u start').message) :
    failed i t start = failed j u start' := by
  obtain ⟨position, offset⟩ := start
  obtain ⟨position', offset'⟩ := start'
  unfold message at h
  simp only [String.append_assoc, String.append_right_inj] at h
  obtain ⟨rfl, hToken⟩ := toString_append_injective (by simp) (by simp) h
  obtain ⟨rfl, hPlace⟩ := Token.describe_append_injective ((String.append_right_inj _).mp hToken)
  obtain ⟨rfl, hOffset⟩ := toString_between_injective (by simp) (by simp) hPlace
  rw [toString_injective ((String.append_right_inj _).mp hOffset)]

theorem eq_of_parsed_message {accepted accepted' : Bool} {position position' tokens tokens' : Nat}
    (h : (parsed accepted position tokens).message =
      (parsed accepted' position' tokens').message) :
    parsed accepted position tokens = parsed accepted' position' tokens' := by
  have hVerdict : accepted = accepted' ∧
      " after " ++ (toString position ++ (" of " ++ (toString tokens ++ " tokens"))) =
        " after " ++ (toString position' ++ (" of " ++ (toString tokens' ++ " tokens"))) := by
    unfold message at h
    simp only [String.append_assoc, String.append_right_inj] at h
    have hLetter (accepted : Bool) : ∀ c ∈ (if accepted then "accepted" else "rejected").toList,
        c.isAlpha = true := List.all_eq_true.mp (by cases accepted <;> decide)
    obtain ⟨hWord, hRest⟩ := text_append_injective (hLetter accepted) (hLetter accepted')
      (by simp) (by simp) h
    refine ⟨?_, hRest⟩
    revert hWord
    cases accepted <;> cases accepted' <;> decide
  obtain ⟨rfl, hCounts⟩ := hVerdict
  obtain ⟨rfl, hTokens⟩ := toString_between_injective (by simp) (by simp) hCounts
  obtain ⟨rfl, -⟩ := toString_between_injective (by simp) (by simp) hTokens
  rfl

theorem lexed_message_ne_matched : (lexed lexeme).message ≠ (matched i t).message := by
  intro h
  unfold message at h
  have hChars := congrArg (·.toList.head?) h
  simp at hChars

theorem lexed_message_ne_failed : (lexed lexeme).message ≠ (failed i t start).message := by
  intro h
  unfold message at h
  have hChars := congrArg (·.toList.head?) h
  simp at hChars

/-- The word after the number tells how an alternative has ended. -/
theorem matched_message_ne_failed : (matched i t).message ≠ (failed j u start).message := by
  intro h
  unfold message at h
  simp only [String.append_assoc, String.append_right_inj] at h
  obtain ⟨-, hWord⟩ := toString_append_injective (by simp) (by simp) h
  have hChars := congrArg String.toList hWord
  simp at hChars

/-- An event can be read off what is logged of it. -/
theorem eq_of_entry (h : e.Legible) (h' : e'.Legible) (hSame : e.entry = e'.entry) : e = e' := by
  obtain ⟨hName, hMessage⟩ := Prod.mk.inj hSame
  have hLevel := Level.name_injective hName
  cases e with
  | lexed lexeme =>
    cases e' with
    | lexed lexeme' => rw [eq_of_lexed_message h h' hMessage]
    | matched => exact absurd hMessage lexed_message_ne_matched
    | failed => exact absurd hMessage lexed_message_ne_failed
    | parsed | processing | unreadable => cases hLevel
  | matched i t =>
    cases e' with
    | lexed => exact absurd hMessage.symm lexed_message_ne_matched
    | matched => exact eq_of_matched_message hMessage
    | failed => exact absurd hMessage matched_message_ne_failed
    | parsed | processing | unreadable => cases hLevel
  | failed i t start =>
    cases e' with
    | lexed => exact absurd hMessage.symm lexed_message_ne_failed
    | matched => exact absurd hMessage.symm matched_message_ne_failed
    | failed => exact eq_of_failed_message hMessage
    | parsed | processing | unreadable => cases hLevel
  | parsed accepted position tokens =>
    cases e' with
    | parsed => exact eq_of_parsed_message hMessage
    | lexed | matched | failed | processing | unreadable => cases hLevel
  | processing text =>
    cases e' with
    | processing text' => rw [quote_injective ((String.append_right_inj _).mp hMessage)]
    | lexed | matched | failed | parsed | unreadable => cases hLevel
  | unreadable error =>
    cases e' with
    | unreadable error' => rw [LexError.message_injective hMessage]
    | lexed | matched | failed | parsed | processing => cases hLevel

/-- A log tells the events that it is of. -/
theorem eq_of_entries {events events' : List Event} (h : ∀ e ∈ events, e.Legible)
    (h' : ∀ e ∈ events', e.Legible) (hSame : events.map entry = events'.map entry) :
    events = events' := by
  induction events generalizing events' with
  | nil => rw [List.map_eq_nil_iff.mp hSame.symm]
  | cons e events ih =>
    obtain ⟨e', events', rfl, hEntry, hLater⟩ := List.map_eq_cons_iff.mp hSame.symm
    obtain ⟨hFirst, h⟩ := List.forall_mem_cons.mp h
    obtain ⟨hFirst', h'⟩ := List.forall_mem_cons.mp h'
    rw [eq_of_entry hFirst hFirst' hEntry.symm, ih h h' hLater.symm]

end Event

end SqlReader
