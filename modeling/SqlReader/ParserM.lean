import SqlReader.EditLog
import SqlReader.Event

/-! A backtracking parser: a cursor over tokens and a log of edits that build a tree.  Parsing is
written as actions, which move the cursor and extend the log; `either` tries actions in order and
takes back what a failing one has done. -/

namespace SqlReader

structure Parser where
  cursor : Cursor
  log : EditLog
  deriving DecidableEq, Repr

/-- Where a parser stands in its tokens and in its log. -/
structure Checkpoint where
  place : Place
  mark : EditLog.Mark
  deriving DecidableEq, Repr

/-- What an action answers, the parser that it leaves, and the events on the way. -/
structure Outcome (α : Type) where
  answer : α
  parser : Parser
  events : List Event

/-- A step of a parser.  It fails only if it uses the log against its rules; that the tokens do
not match is an answer. -/
def ParserM (α : Type) : Type := Parser → Except Violation (Outcome α)

namespace ParserM

instance : Monad ParserM where
  pure a := fun p => .ok ⟨a, p, []⟩
  bind x f := fun p =>
    match x p with
    | .error violation => .error violation
    | .ok first =>
      match f first.answer first.parser with
      | .error violation => .error violation
      | .ok second => .ok { second with events := first.events ++ second.events }

theorem pure_apply {α : Type} (a : α) (p : Parser) : (pure a : ParserM α) p = .ok ⟨a, p, []⟩ := rfl

theorem bind_apply {α β : Type} (x : ParserM α) (f : α → ParserM β) (p : Parser) :
    (x >>= f) p =
      match x p with
      | .error violation => .error violation
      | .ok first =>
        match f first.answer first.parser with
        | .error violation => .error violation
        | .ok second => .ok { second with events := first.events ++ second.events } := rfl

theorem pure_bind_eq {α β : Type} (a : α) (f : α → ParserM β) : pure a >>= f = f a := by
  funext p
  show (match f a p with
    | .error violation => .error violation
    | .ok second => .ok { second with events := [] ++ second.events }) = f a p
  cases f a p <;> rfl

theorem bind_pure_eq {α : Type} (x : ParserM α) : x >>= pure = x := by
  funext p
  rw [bind_apply]
  cases x p <;> simp [pure_apply]

theorem bind_assoc_eq {α β γ : Type} (x : ParserM α) (f : α → ParserM β) (g : β → ParserM γ) :
    x >>= f >>= g = x >>= fun a => f a >>= g := by
  funext p
  simp only [bind_apply]
  cases x p with
  | error violation => rfl
  | ok first =>
    simp only
    cases f first.answer first.parser with
    | error violation => rfl
    | ok second =>
      simp only
      cases g second.answer second.parser <;> simp [List.append_assoc]

instance : LawfulMonad ParserM := LawfulMonad.mk' ParserM bind_pure_eq pure_bind_eq bind_assoc_eq

/-- Looks at the parser without changing it. -/
def look {α : Type} (f : Parser → α) : ParserM α := fun p => .ok ⟨f p, p, []⟩

/-- Moves the cursor. -/
def onCursor {α : Type} (f : Cursor → α × Cursor) : ParserM α := fun p =>
  let moved := f p.cursor
  .ok ⟨moved.1, { p with cursor := moved.2 }, []⟩

/-- Changes the log, as far as its rules allow. -/
def onLog (f : EditLog → Except Violation EditLog) : ParserM Unit := fun p =>
  match f p.log with
  | .error violation => .error violation
  | .ok log => .ok ⟨(), { p with log }, []⟩

/-- Records an event. -/
def note (event : Event) : ParserM Unit := fun p => .ok ⟨(), p, [event]⟩

def current : ParserM Token := look (·.cursor.current)

def atTokenStart : ParserM Bool := look (·.cursor.atTokenStart)

def peekAny (texts : List String) : ParserM Bool := look (·.cursor.peekAny texts)

def peek (text : String) : ParserM Bool := look (·.cursor.peek text)

def terminalAny (texts : List String) : ParserM Bool := onCursor (·.terminalAny texts)

def terminal (text : String) : ParserM Bool := onCursor (·.terminal text)

/-- Takes the current token if it is spelled like the keyword, whatever its category. -/
def keyword (word : Keyword) : ParserM Bool := terminal word.spelling

def consume (test : Char → Bool) : ParserM CharMatch := onCursor (·.consume test)

def consumeRest (test : Char → Bool) : ParserM Bool := onCursor (·.consumeRest test)

def consumeWord (first others : Char → Bool) : ParserM Bool :=
  onCursor (·.consumeWord first others)

def add (tree : Tree) : ParserM Unit := onLog fun log => .ok (log.add tree)

def enter (tree : Tree) : ParserM Unit := onLog fun log => .ok (log.enter tree)

def exit : ParserM Unit := onLog EditLog.exit

def checkpoint : ParserM Checkpoint := look fun p => ⟨p.cursor.place, p.log.mark⟩

/-- Goes back to a checkpoint, first in the tokens and then in the log. -/
def restore (start : Checkpoint) : ParserM Unit := do
  onCursor fun c => ((), { c with place := start.place })
  onLog (·.rollback start.mark)

/-- Runs `body` with a new node of the given kind open; the node stays open if `body` fails. -/
def within (kind : NodeKind) (body : ParserM Bool) : ParserM Bool := do
  enter (.leaf kind "")
  if ← body then
    exit
    return true
  else return false

/-- The alternatives from number `index` on of a choice that began at `start`. -/
def eitherFrom (start : Checkpoint) : (index : Nat) → List (ParserM Bool) → ParserM Bool
  | _, [] => pure false
  | index, alternative :: others => do
    if ← alternative then
      note (.matched index (← current))
      return true
    else
      note (.failed index (← current) start.place)
      restore start
      eitherFrom start (index + 1) others

/-- Ordered choice: the first alternative that succeeds wins, and what a failing one has done is
taken back before the next is tried. -/
def either (alternatives : List (ParserM Bool)) : ParserM Bool := do
  eitherFrom (← checkpoint) 0 alternatives

/-- `item` again after each comma.  Every comma takes a token, so `bound` may be the number of
tokens left. -/
def commaItems (item : ParserM Bool) : (bound : Nat) → ParserM Bool
  | 0 => pure true
  | bound + 1 => do
    if ← terminal "," then
      if ← item then commaItems item bound else return false
    else return true

/-- One or more items with commas between them.  It ends at the first item without a comma after
it, and fails where a comma has no item after it. -/
def separated (item : ParserM Bool) : ParserM Bool := do
  let bound ← look (·.cursor.tokensLeft)
  item <&&> commaItems item bound

end ParserM

namespace Parser

/-- A parser at the first of the tokens, with an empty log. -/
def ofTokens (tokens : List Token) : Parser := ⟨.ofTokens tokens, .empty⟩

/-- The tree built so far. -/
def tree (p : Parser) : Tree := p.log.build

end Parser

end SqlReader
