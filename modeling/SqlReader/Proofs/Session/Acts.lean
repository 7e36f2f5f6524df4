import SqlReader.Report
import SqlReader.Proofs.Grammar.Decision

/-! What a session does to its console, act by act.  A session writes, notes events and parses in an
order that does not depend on the console; an output that has an end stops it at the first write
that does not fit. -/

namespace SqlReader

namespace Console

/-- The console after bytes for which there is room, and after events. -/
def accept (console : Console) (output : ByteArray) (events : List Event) : Console :=
  ⟨console.output ++ output, console.room.map (· - output.size), console.events ++ events.toArray⟩

theorem accept_nothing (console : Console) : console.accept .empty [] = console := by
  obtain ⟨output, room, events⟩ := console
  cases room <;> simp [accept]

theorem accept_accept (console : Console) (output output' : ByteArray)
    (events events' : List Event) : (console.accept output events).accept output' events' =
    console.accept (output ++ output') (events ++ events') := by
  obtain ⟨_, room, _⟩ := console
  cases room <;> simp [accept, ByteArray.append_assoc, ByteArray.size_append, Nat.sub_sub]

end Console

namespace Session

variable {α β : Type} {x : Session α} {f : α → Session β} {a : α}

theorem run_bind (x : Session α) (f : α → Session β) (console : Console) :
    (x >>= f).run console =
      match x.run console with
      | (.ok a, next) => (f a).run next
      | (.error failure, next) => (.error failure, next) := by
  cases h : x.run console with
  | mk answer next =>
    have hRun : x console = (answer, next) := h
    show (x >>= f) console = _
    cases answer <;>
      · simp [bind, ExceptT.bind, ExceptT.mk, StateT.bind, hRun, ExceptT.bindCont]
        rfl

theorem run_bind_ok {console next : Console} (h : x.run console = (.ok a, next)) :
    (x >>= f).run console = (f a).run next := by
  rw [run_bind, h]

/-! ### Acts -/

/-- One thing that a session does. -/
inductive Act where
  | write (text : String)
  | note (events : List Event)
  /-- Parses the tokens and notes what the parse has met. -/
  | parse (tokens : List Token)

namespace Act

def perform : Act → Session Unit
  | write text => Session.write text
  | note events => Session.note events
  | parse tokens => do
    let _ ← runParser ParserM.parse (.ofTokens tokens)

/-- The bytes of the act, if there is room for them. -/
def written : Act → ByteArray
  | write text => text.toUTF8
  | note _ | parse _ => .empty

def noted : Act → List Event
  | write _ => []
  | note events => events
  | parse tokens =>
    match SqlReader.parse tokens with
    | .ok outcome => outcome.events
    | .error _ => []

end Act

/-- Performs acts one after the other.  The first write that does not fit ends the session. -/
def performAll : List Act → Session Unit
  | [] => pure ()
  | act :: acts => do
    act.perform
    performAll acts

def written : List Act → ByteArray
  | [] => .empty
  | act :: acts => act.written ++ written acts

def noted (acts : List Act) : List Event := acts.flatMap Act.noted

/-- Ends as told, and leaves the console alone. -/
def conclude (result : Except Failure α) : Session α := fun console => (result, console)

/-- The session performs the acts and ends with the result, whatever the console holds. -/
def Performs (x : Session α) (acts : List Act) (result : Except Failure α) : Prop :=
  x = performAll acts >>= fun _ => conclude result

theorem written_append (acts acts' : List Act) :
    written (acts ++ acts') = written acts ++ written acts' := by
  induction acts with
  | nil => rw [List.nil_append, written, ByteArray.empty_append]
  | cons act acts ih => rw [List.cons_append, written, written, ih, ByteArray.append_assoc]

theorem noted_append (acts acts' : List Act) : noted (acts ++ acts') = noted acts ++ noted acts' :=
  List.flatMap_append

theorem performAll_append (acts acts' : List Act) :
    performAll (acts ++ acts') = performAll acts >>= fun _ => performAll acts' := by
  induction acts with
  | nil => rw [List.nil_append, performAll, pure_bind]
  | cons act acts ih => rw [List.cons_append, performAll, performAll, ih, bind_assoc]

theorem runParser_parse {tokens : List Token} {outcome : Outcome Parsed}
    (h : parse tokens = .ok outcome) : runParser ParserM.parse (.ofTokens tokens) = (do
      note (Act.parse tokens).noted
      return outcome.answer) := by
  have hAction : ParserM.parse (.ofTokens tokens) = .ok outcome := h
  rw [runParser, hAction, Act.noted, h]

/-- A parse does not fail. -/
theorem perform_parse (tokens : List Token) :
    (Act.parse tokens).perform = note (Act.parse tokens).noted := by
  obtain ⟨outcome, hParse, -⟩ := parse_eq_read tokens
  rw [Act.perform, runParser_parse hParse, bind_assoc]
  exact bind_pure _

/-! ### Room for the acts -/

variable {act : Act} {acts : List Act} {output : ByteArray} {console : Console}

/-- There is room for the bytes. -/
def Fits (output : ByteArray) (console : Console) : Prop :=
  ∀ room ∈ console.room, output.size ≤ room

theorem run_note (events : List Event) (console : Console) :
    (note events).run console = (.ok (), console.accept .empty events) := by
  obtain ⟨output, room, noted⟩ := console
  have hAccept : Console.accept ⟨output, room, noted⟩ .empty events =
      ⟨output, room, noted ++ events.toArray⟩ := by
    cases room <;> simp [Console.accept]
  rw [hAccept]
  rfl

theorem run_act (h : Fits act.written console) :
    act.perform.run console = (.ok (), console.accept act.written act.noted) := by
  cases act with
  | write text =>
    obtain ⟨output, room, events⟩ := console
    show write text ⟨output, room, events⟩ = _
    cases room with
    | none => simp [write, Console.accept, Act.written, Act.noted]
    | some room =>
      have hLe : text.toUTF8.size ≤ room := h room rfl
      simp only [write, if_pos hLe]
      simp [Console.accept, Act.written, Act.noted]
  | note events => exact run_note events console
  | parse tokens =>
    rw [perform_parse]
    exact run_note _ console

theorem fits_append {output' : ByteArray} {events : List Event}
    (h : Fits (output ++ output') console) :
    Fits output console ∧ Fits output' (console.accept output events) := by
  constructor
  · intro room hRoom
    have hSize := h room hRoom
    rw [ByteArray.size_append] at hSize
    omega
  · intro left hLeft
    obtain ⟨room, hRoom, rfl⟩ := Option.map_eq_some_iff.mp hLeft
    have hSize := h room hRoom
    rw [ByteArray.size_append] at hSize
    omega

theorem run_performAll (h : Fits (written acts) console) :
    (performAll acts).run console = (.ok (), console.accept (written acts) (noted acts)) := by
  induction acts generalizing console with
  | nil =>
    show _ = (Except.ok (), console.accept .empty [])
    rw [console.accept_nothing]
    rfl
  | cons act acts ih =>
    obtain ⟨hAct, hRest⟩ := fits_append h
    rw [performAll, run_bind_ok (run_act hAct), ih hRest, Console.accept_accept]
    rfl

/-! ### The acts of a session -/

theorem performs_conclude (result : Except Failure α) : (conclude result).Performs [] result :=
  (pure_bind () fun _ => conclude result).symm

theorem performs_pure (a : α) : (pure a : Session α).Performs [] (.ok a) := performs_conclude _

theorem performs_act (act : Act) : act.perform.Performs [act] (.ok ()) := by
  show act.perform = (do act.perform; pure ()) >>= pure
  rw [bind_pure, bind_pure]

theorem performs_write (text : String) : (write text).Performs [.write text] (.ok ()) :=
  performs_act (.write text)

theorem performs_note (events : List Event) : (note events).Performs [.note events] (.ok ()) :=
  performs_act (.note events)

theorem performs_parse {tokens : List Token} {outcome : Outcome Parsed}
    (h : parse tokens = .ok outcome) : (runParser ParserM.parse (.ofTokens tokens)).Performs
      [.parse tokens] (.ok outcome.answer) := by
  rw [Performs, performAll, performAll, perform_parse, bind_assoc, runParser_parse h]
  rfl

theorem Performs.bind {acts' : List Act} {result : Except Failure β}
    (hx : x.Performs acts (.ok a)) (hf : (f a).Performs acts' result) :
    (x >>= f).Performs (acts ++ acts') result := by
  rw [Performs, performAll_append, hx, bind_assoc, bind_assoc]
  congr 1
  funext _
  exact hf

/-- After a failure nothing more is done. -/
theorem Performs.bind_error {failure : Failure}
    (hx : x.Performs acts (.error failure)) : (x >>= f).Performs acts (.error failure) := by
  rw [Performs, hx, bind_assoc]
  rfl

/-- The session has acts of its own, and ends with one of the failures if it fails. -/
def Straight (x : Session α) (failures : List Failure) : Prop :=
  ∃ acts result, x.Performs acts result ∧ ∀ failure, result = .error failure → failure ∈ failures

variable {failures : List Failure}

theorem Performs.straight (h : x.Performs acts (.ok a)) : x.Straight failures :=
  ⟨acts, .ok a, h, nofun⟩

theorem Straight.bind (hx : x.Straight failures) (hf : ∀ a, (f a).Straight failures) :
    (x >>= f).Straight failures := by
  obtain ⟨acts, result, hx, hFailure⟩ := hx
  cases result with
  | error failure =>
    refine ⟨acts, .error failure, hx.bind_error, ?_⟩
    rintro _ ⟨⟩
    exact hFailure failure rfl
  | ok a =>
    obtain ⟨acts', result', hf, hFailure'⟩ := hf a
    exact ⟨acts ++ acts', result', hx.bind hf, hFailure'⟩

theorem Straight.ite {x y : Session α} {condition : Prop} [Decidable condition]
    (hx : x.Straight failures) (hy : y.Straight failures) :
    (if condition then x else y).Straight failures := by
  split
  · exact hx
  · exact hy

theorem straight_writeLine (text : String) : (writeLine text).Straight failures :=
  (performs_write _).straight

/-- A report performs its acts and does not fail: the parser never runs into a violation. -/
theorem report_performs (settings : Settings) (text : String) :
    ∃ acts, (report settings text).Performs acts (.ok ()) := by
  have hStraight : (report settings text).Straight [] := by
    unfold report
    refine (performs_note _).straight.bind fun _ => (performs_note _).straight.bind fun _ => ?_
    split
    · exact (performs_note _).straight.bind fun _ => straight_writeLine _
    · rename_i tokens _
      obtain ⟨outcome, hParse, -⟩ := parse_eq_read tokens
      have hVerdict : (do
          let parsed ← runParser ParserM.parse (.ofTokens tokens)
          writeLine ("Does parse? " ++ toString parsed.accepted)
          if settings.showTree then
            writeLine ("AST: " ++ parsed.tree.render)).Straight [] :=
        (performs_parse hParse).straight.bind fun _ => (straight_writeLine _).bind fun _ =>
          (straight_writeLine _).ite (performs_pure ()).straight
      exact ((straight_writeLine _).bind fun _ => hVerdict).ite hVerdict
  obtain ⟨acts, result, hActs, hFailure⟩ := hStraight
  cases result with
  | ok answer => exact ⟨acts, hActs⟩
  | error failure => exact absurd (hFailure failure rfl) List.not_mem_nil

theorem answerLine_straight (settings : Settings) (line : List UInt8) :
    (answerLine settings line).Straight [.notText] := by
  unfold answerLine
  split
  · obtain ⟨acts, hReport⟩ := report_performs settings ‹String›
    exact (performs_pure false).straight.ite <| (straight_writeLine _).bind fun _ =>
      hReport.straight.bind fun _ => (performs_write _).straight.bind fun _ =>
        (performs_pure true).straight
  · refine ⟨[], .error .notText, performs_conclude _, ?_⟩
    rintro _ ⟨⟩
    exact List.mem_singleton_self _

theorem answerLines_straight (settings : Settings) (lines : List (List UInt8)) :
    (answerLines settings lines).Straight [.notText] := by
  induction lines with
  | nil => exact (performs_pure ()).straight
  | cons line lines ih =>
    exact (answerLine_straight settings line).bind fun _ => ih.ite (performs_pure ()).straight

/-- A dialogue performs its acts; the only failure of its own is a line that encodes no text. -/
theorem dialogue_straight (settings : Settings) (input : ByteArray) :
    (dialogue settings input).Straight [.notText] :=
  ((straight_writeLine _).bind fun _ => (performs_write _).straight).bind fun _ =>
    (answerLines_straight settings _).bind fun _ => straight_writeLine _

end Session

end SqlReader
