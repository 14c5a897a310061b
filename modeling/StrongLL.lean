import StrongLL.Text.Position
import StrongLL.Text.CharClass
import StrongLL.Text.CharClass.Algebra
import StrongLL.Text.Source
import StrongLL.Text.Cursor
import StrongLL.Automaton.GenerationQueue
import StrongLL.Token.Basic
import StrongLL.Token.Pattern
import StrongLL.Report.Diagnostic
import StrongLL.Ebnf.Occurs
import StrongLL.LookAhead.Terminal
import StrongLL.LookAhead.SequenceSet
import StrongLL.Unicode.RangeTable
import StrongLL.Unicode.Category
import StrongLL.Unicode.BinaryProperty
import StrongLL.Unicode.Script
import StrongLL.Unicode.Case
import StrongLL.Unicode.Width
import StrongLL.Text.CharClass.Caseless
import StrongLL.Tree.Node
import StrongLL.Tree.Listener
import StrongLL.Tree.Script
import StrongLL.Report.Snippet
import StrongLL.Unicode.Shorthand
import StrongLL.Regex.Notation
import StrongLL.Unicode.Property
import StrongLL.Regex.Expr
import StrongLL.Regex.Meaning
import StrongLL.Report.Defect
import StrongLL.Automaton.Fragment
import StrongLL.Automaton.LongestMatch
import StrongLL.Automaton.Compile
import StrongLL.Vocabulary
import StrongLL.Scanner
import StrongLL.Ebnf.Validity
import StrongLL.Rules.Flatten
import StrongLL.Rules.Checks
import StrongLL.LookAhead.Decision
import StrongLL.Rules.Resolved
import StrongLL.Grammar
import StrongLL.Parser.Trace
import StrongLL.Parser.State
import StrongLL.Parser.Descent
import StrongLL.Proofs.Rules.Language
import StrongLL.Proofs.Rules.Closure
import StrongLL.Proofs.Rules.LeftCorner
import StrongLL.Proofs.LookAhead.Follow
import StrongLL.Proofs.LookAhead.Moves
import StrongLL.Proofs.LookAhead.Runs
import StrongLL.Proofs.LookAhead.Branches
import StrongLL.Proofs.LookAhead.Bounds
import StrongLL.Proofs.LookAhead.Explore
import StrongLL.Proofs.LookAhead.SequenceSet
import StrongLL.Proofs.LookAhead.Concat
import StrongLL.Proofs.LookAhead.Sequences
import StrongLL.Proofs.LookAhead.Decisions
import StrongLL.Proofs.Prelude
import StrongLL.Proofs.Rules.Resolved
import StrongLL.Proofs.Rules.Analysis
import StrongLL.Proofs.Ebnf.Validity
import StrongLL.Proofs.Rules.Flatten
import StrongLL.Proofs.Grammar
import StrongLL.Proofs.Scanner
import StrongLL.Proofs.Rules.Tree
import StrongLL.Proofs.Guided
import StrongLL.Proofs.Parser.State
import StrongLL.Proofs.Parser.Descent
import StrongLL.Proofs.Parser.Soundness
import StrongLL.Proofs.Parser.Termination
import StrongLL.Proofs.Parser.Completeness
import StrongLL.Proofs.Automaton.GenerationQueue
import StrongLL.Proofs.Automaton.Path
import StrongLL.Proofs.Automaton.Generation
import StrongLL.Proofs.Text.Cursor
import StrongLL.Proofs.Automaton.LongestMatch
import StrongLL.Proofs.Regex.Language
import StrongLL.Proofs.Automaton.Fragment
import StrongLL.Proofs.Automaton.Compile
import StrongLL.Proofs.MaximalMunch
import StrongLL.Proofs.LookAhead.Plain
import StrongLL.Proofs.LookAhead.Mismatch
import StrongLL.Proofs.Rules.Sites
import StrongLL.Proofs.Parser.Pace
import StrongLL.Proofs.Parser.Work
import StrongLL.Proofs.Automaton.Silent
import StrongLL.Proofs.Vocabulary
import StrongLL.Proofs.Rules.Reading
import StrongLL.Proofs.Rules.Origin
import StrongLL.Proofs.Rules.Faithful
import StrongLL.Proofs.Parser.Acts
import StrongLL.Proofs.Parser.Congruence
import StrongLL.Proofs.Parser.Steps
import StrongLL.Proofs.Parser.Honesty
import StrongLL.Proofs.Parser.CutShort
import StrongLL.Proofs.Parser.Tracks
import StrongLL.Proofs.Parser.Limits
import StrongLL.Proofs.Parser.Likeness
import StrongLL.Proofs.Parser.InStep
import StrongLL.Proofs.Parser.Recorded
import StrongLL.Proofs.Parser.Heard
import StrongLL.Proofs.Parser.Nesting
import StrongLL.Proofs.Reuse
import StrongLL.Proofs.FailedRead
import StrongLL.Proofs.Parser.Reset
import StrongLL.Proofs.Parser.Reading
import StrongLL.Proofs.Parser.Mismatch
import StrongLL.Proofs.Closed
import StrongLL.Proofs.Parser.Blameless
import StrongLL.Proofs.Parser.Thrift
import StrongLL.Proofs.Parser.Conservation
import StrongLL.Proofs.Parser.ErrorLimit
import StrongLL.Proofs.Parser.Replay
import StrongLL.Proofs.Ebnf.Reorder
import StrongLL.Proofs.Rules.Rename
import StrongLL.Proofs.Rules.Shuffle
import StrongLL.Proofs.Rules.Reorder
import StrongLL.Proofs.LookAhead.Reorder
import StrongLL.Proofs.LookAhead.Shuffle
import StrongLL.Proofs.Parser.Reorder
import StrongLL.Proofs.Parser.FailedAttempt
import StrongLL.Proofs.Parser.LookDepth
import StrongLL.Proofs.Parser.Chronicle
import StrongLL.Proofs.Parser.Suppression
import StrongLL.Proofs.LookAhead.Turns
import StrongLL.Proofs.LookAhead.Worklist
import StrongLL.Proofs.LookAhead.Exhaustion
import StrongLL.Proofs.LookAhead.Counting
import StrongLL.Proofs.LookAhead.Collapse
import StrongLL.Proofs.Rules.Emptiness
import StrongLL.Proofs.Rules.LeftRecursion
import StrongLL.Proofs.Calls
import StrongLL.Proofs.Automaton.TwoGenerations
import StrongLL.Proofs.Text.Place
import StrongLL.Proofs.Text.CharClass
