import SqlReader.Text.Ranges
import SqlReader.Text.WhiteSpace
import SqlReader.Text.Alphabetic
import SqlReader.Text.Number
import SqlReader.Text.WordChar
import SqlReader.Text.Printable
import SqlReader.Text.Case
import SqlReader.Text.Quoted
import SqlReader.Text.Bytes
import SqlReader.Keyword
import SqlReader.Token
import SqlReader.Lexicon
import SqlReader.Lexeme
import SqlReader.Cursor
import SqlReader.Tree
import SqlReader.EditLog
import SqlReader.Event
import SqlReader.ParserM
import SqlReader.Grammar
import SqlReader.Parse
import SqlReader.Settings
import SqlReader.Console
import SqlReader.Report
import SqlReader.CommandLine
import SqlReader.Main
import SqlReader.Proofs.Text.Classes
import SqlReader.Proofs.Phrase
import SqlReader.Proofs.Phrase.Predictive
import SqlReader.Proofs.Phrase.Classes
import SqlReader.Proofs.Phrase.Likeness
import SqlReader.Proofs.Phrase.Values
import SqlReader.Proofs.Text.Lines
import SqlReader.Proofs.Text.LetterCase
import SqlReader.Proofs.Text.Words
import SqlReader.Proofs.Text.Runs
import SqlReader.Proofs.Text.Quoted
import SqlReader.Proofs.Cursor.Characters
import SqlReader.Proofs.Cursor.Tokens
import SqlReader.Proofs.Cursor.Onward
import SqlReader.Proofs.Cursor.Forward
import SqlReader.Proofs.Cursor.Reached
import SqlReader.Proofs.Cursor.Resume
import SqlReader.Proofs.Cursor.Walk
import SqlReader.Proofs.Cursor.Checkpoints
import SqlReader.Proofs.Tree.Outline
import SqlReader.Proofs.Tree.Rendering
import SqlReader.Proofs.EditLog.Growth
import SqlReader.Proofs.EditLog.Outline
import SqlReader.Proofs.EditLog.Marks
import SqlReader.Proofs.EditLog.StaleMarks
import SqlReader.Proofs.Parser.Runs
import SqlReader.Proofs.Parser.Phrases
import SqlReader.Proofs.Parser.Choice
import SqlReader.Proofs.Parser.Frame
import SqlReader.Proofs.Parser.Safety
import SqlReader.Proofs.Parser.Composition
import SqlReader.Proofs.Parser.Locality
import SqlReader.Proofs.Parser.Narration
import SqlReader.Proofs.Grammar
import SqlReader.Proofs.Grammar.Actions
import SqlReader.Proofs.Grammar.Predictive
import SqlReader.Proofs.Grammar.Decision
import SqlReader.Proofs.Grammar.Likeness
import SqlReader.Proofs.Grammar.Frame
import SqlReader.Proofs.Grammar.Safety
import SqlReader.Proofs.Grammar.Composition
import SqlReader.Proofs.Grammar.Locality
import SqlReader.Proofs.Grammar.Verdict
import SqlReader.Proofs.Grammar.Values
import SqlReader.Proofs.Parser.Programs
import SqlReader.Proofs.Lexing.Rules
import SqlReader.Proofs.Lexing.OnePass
import SqlReader.Proofs.Lexing.Direct
import SqlReader.Proofs.Lexing.Keywords
import SqlReader.Proofs.Lexing.Lossless
import SqlReader.Proofs.Lexing.Concatenation
import SqlReader.Proofs.Lexing.Layout
import SqlReader.Proofs.Lexing.LetterCase
import SqlReader.Proofs.Lexing.FirstMatches
import SqlReader.Proofs.Lexing.WholeWords
import SqlReader.Proofs.Lexing.RuleOrder
import SqlReader.Proofs.Lexing.Lines
import SqlReader.Proofs.Lexing.Spacing
import SqlReader.Proofs.Parse.Layout
import SqlReader.Proofs.Parse.LetterCase
import SqlReader.Proofs.Parse.Spans
import SqlReader.Proofs.Parse.EndOfInput
import SqlReader.Proofs.Parse.Log
import SqlReader.Proofs.Parse.Rendering
import SqlReader.Proofs.Parse.Literal
import SqlReader.Proofs.Canonical
import SqlReader.Proofs.Canonical.Prints
import SqlReader.Proofs.Canonical.Leaves
import SqlReader.Proofs.Canonical.Ascii
import SqlReader.Proofs.Canonical.Reread
import SqlReader.Proofs.Canonical.Shapes
import SqlReader.Proofs.Canonical.RoundTrip
import SqlReader.Proofs.Settings
import SqlReader.Proofs.Session.Acts
import SqlReader.Proofs.Session.Truncation
import SqlReader.Proofs.Session.Additions
import SqlReader.Proofs.Session.Dialogue
import SqlReader.Proofs.Session.Readback
import SqlReader.Proofs.Session.CommandLine
import SqlReader.Proofs.Lexing.RuleOrder
import SqlReader.Proofs.Messages
