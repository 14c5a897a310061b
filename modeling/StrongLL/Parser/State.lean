import StrongLL.Parser.Trace
import StrongLL.Scanner
import StrongLL.Tree.Listener

/-!
# The state of a parser

A parser peeks at tokens, which are buffered until they are consumed or skipped.
It reports problems to a log. A problem that follows another one too closely is
a consequence of it and is not logged: after a lexical or syntax error, three
tokens have to be consumed before errors are logged again.
-/

namespace StrongLL

/-- What cuts a parse short. -/
structure Limits where
  /-- Productions that may be open at once. -/
  recursion : Option Nat := some 1024
  /-- Tokens that may be consumed or skipped. -/
  execution : Option Nat := none
  /-- Errors that may be logged. -/
  errors : Option Nat := none
  deriving DecidableEq, Repr

/-- Why parsing does not go on where it is. -/
inductive Halt where
  /-- What is ahead does not fit. Nothing has been consumed for it. -/
  | mismatch (diagnostic : Diagnostic)
  /-- The parse is over; why is logged already. -/
  | abort
  /-- The bound on steps is used up. -/
  | unfinished
  deriving DecidableEq, Repr

/-- The state of a parser over a listener with states of type `σ`. -/
structure Parser (σ : Type) where
  scanner : Scanner
  /-- Tokens that are peeked but not taken yet. -/
  buffer : List Token := []
  /-- Whether the scanner has come to the end of input. -/
  exhausted : Bool := false
  listener : σ
  log : Log := []
  /-- Tokens to consume before errors are logged again. -/
  recovery : Nat := 0
  /-- Productions that are open. -/
  depth : Nat := 0
  /-- Tokens consumed or skipped. -/
  executed : Nat := 0
  trace : Array TraceEvent := #[]

/-- What does not change while parsing. -/
structure Setting (σ : Type) where
  grammar : Grammar
  listener : Listener σ
  limits : Limits := {}

/-- A step of a parser. The state is kept when it halts. -/
abbrev Parse (σ : Type) := ExceptT Halt (StateM (Parser σ))

namespace Parser

variable {σ : Type}

/-- Tokens to consume after an error before errors are logged again. -/
def recoveryTokens : Nat := 3

/-- A parser at the beginning of a source. -/
def ofSource (source : Source) (listener : σ) : Parser σ :=
  { scanner := .ofSource source, listener }

/-- Go to the beginning of another source. -/
def reset (parser : Parser σ) (source : Source) : Parser σ :=
  { parser with scanner := parser.scanner.reset source, buffer := [], exhausted := false }

/-- The place of the next token, or of the end of input. -/
def position (parser : Parser σ) : Position :=
  match parser.buffer with
  | token :: _ => token.position
  | [] => parser.scanner.position

/-- Record an event. -/
def record (event : TraceEvent) : Parse σ Unit :=
  modify fun parser => { parser with trace := parser.trace.push event }

/-! ## Errors -/

/-- Log an error, unless it follows another one too closely. What lies outside
the text is always logged. -/
def note (diagnostic : Diagnostic) (parser : Parser σ) : Parser σ :=
  let suppressed := 0 < parser.recovery && !diagnostic.problem.isExternal
  { parser with
    trace := parser.trace.push (.error diagnostic suppressed)
    log := if suppressed then parser.log else parser.log ++ [diagnostic] }

/-- Whether the log has reached its limit. -/
def isLogFull (limits : Limits) (parser : Parser σ) : Bool :=
  match limits.errors with
  | some limit => limit ≤ parser.log.length
  | none => false

/-- Report an error. One in the text opens a time of recovery. The parse is over
when it cannot recover, or when the log has reached its limit. -/
def report (setting : Setting σ) (diagnostic : Diagnostic) (recovering : Bool) :
    Parse σ Unit := do
  modify (note diagnostic)
  if recovering then modify fun parser => { parser with recovery := recoveryTokens }
  if !diagnostic.isRecoverable || (← get).isLogFull setting.limits then throw .abort

/-- Report a fault of the parser itself, which ends the parse. -/
def fail {α : Type} (fault : Fault) : Parse σ α := do
  let position := (← get).position
  modify (note (.located (.internal fault) position))
  throw .abort

/-! ## Tokens -/

/-- Scan tokens until more than `index` are buffered or the input ends. Lexical
errors are reported on the way. -/
def fetch (setting : Setting σ) (index : Nat) : (fuel : Nat) → Parse σ Unit
  | 0 => throw .unfinished
  | fuel + 1 => do
      let parser ← get
      if index < parser.buffer.length || parser.exhausted then return
      let (scanner, next) := parser.scanner.next setting.grammar.vocabulary
      match next with
      | .ok (some token) =>
          set { parser with scanner, buffer := parser.buffer ++ [token] }
      | .ok none => set { parser with scanner, exhausted := true }
      | .error diagnostic =>
          set { parser with scanner }
          report setting diagnostic true
      fetch setting index fuel

/-- The token `index` places ahead, or none at the end of input. Every token and
every lexical error takes at least one character, and a source fails only
once. -/
def peek (setting : Setting σ) (index : Nat) : Parse σ (Option Token) := do
  fetch setting index ((← get).scanner.cursor.remaining + 3)
  return (← get).buffer[index]?

/-- The next terminals from `index` on, `depth` of them or fewer at the end of
input. -/
def lookAhead (setting : Setting σ) : (depth index : Nat) → Parse σ Terminals
  | 0, _ => return []
  | depth + 1, index => do
      match ← peek setting index with
      | none => return [.eof]
      | some token => return .token token.id :: (← lookAhead setting depth (index + 1))

/-- Count a token against the limit on execution. -/
def spend (setting : Setting σ) : Parse σ Unit := do
  let executed := (← get).executed
  if setting.limits.execution.any (· ≤ executed) then fail .executionLimit
  modify fun parser => { parser with executed := executed + 1 }

/-- Take the next token, which must be buffered. -/
def consume (setting : Setting σ) : Parse σ Token := do
  spend setting
  match (← get).buffer with
  | [] => fail .nothingBuffered
  | token :: rest =>
      modify fun parser =>
        { parser with buffer := rest, recovery := parser.recovery - 1 }
      record (.consume token)
      return token

/-- Drop the next token. The answer is whether there was one. -/
def skip (setting : Setting σ) : Parse σ Bool := do
  match ← peek setting 0 with
  | none => return false
  | some token =>
      spend setting
      modify fun parser => { parser with buffer := parser.buffer.tail }
      record (.skip token)
      return true

/-- Report a mismatch and skip a token. At the end of input the parse is over. -/
def recover (setting : Setting σ) (diagnostic : Diagnostic) : Parse σ Unit := do
  report setting diagnostic true
  if !(← skip setting) then throw .abort

/-! ## Mismatches -/

/-- The end of input, where more was expected. -/
def prematureEnd (parser : Parser σ) : Diagnostic :=
  .located .endOfInput parser.scanner.position

/-- A buffered token where others were expected. -/
def unexpected (parser : Parser σ) (index : Nat) (expected : List String) : Diagnostic :=
  match parser.buffer[index]? with
  | some token => .located (.unexpectedToken token.shortImage expected) token.position
  | none => parser.prematureEnd

/-- How messages name terminals, in the order in which the patterns were
declared. The end of input is not among them. -/
def describeAll (vocabulary : Vocabulary) (terminals : List Terminal) : List String :=
  (vocabulary.patterns.filter fun pattern => terminals.contains (.token pattern.id)).map
    Pattern.description

/-- What is wrong with `input`, for which a decision has no branch: the first
token with which no look-ahead sequence can go on, and the tokens that could
have been there. -/
def mismatch (vocabulary : Vocabulary) (decision : Decision) (input : Terminals)
    (parser : Parser σ) : Diagnostic :=
  let sets := decision.levels.flatten
  let common : Nat := sets.foldl (fun longest set => max longest (set.longestPrefix input)) 0
  match input[common]? with
  | some (.token _) =>
      let lead := input.take common
      let next := sets.flatMap fun set => set.nextAfter lead
      parser.unexpected common (describeAll vocabulary next)
  | some .eof | none => parser.prematureEnd

end Parser

end StrongLL
