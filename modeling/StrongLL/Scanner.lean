import StrongLL.Report.Diagnostic
import StrongLL.Vocabulary

/-!
# Scanning

A scanner splits its input into tokens, always taking the longest match. What
an ignored pattern matches is dropped. A match of an error pattern, and a
character that no pattern begins with, are reported; they are consumed first,
so that scanning goes on behind them.
-/

namespace StrongLL

/-- A place in an input that is being scanned. -/
structure Scanner where
  cursor : Cursor
  matcher : Matcher := .fresh
  position : Position := .start

namespace Scanner

/-- The scanner at the beginning of a source. -/
def ofSource (source : Source) : Scanner := { cursor := .ofSource source }

/-- Go to the beginning of another source. -/
def reset (scanner : Scanner) (source : Source) : Scanner :=
  { scanner with cursor := .ofSource source, position := .start }

/-- Take characters off the input. -/
def consume (scanner : Scanner) (count : Nat) : Scanner × List Char :=
  let (cursor, taken) := scanner.cursor.consume count
  ({ scanner with cursor, position := scanner.position.advanceBy taken }, taken)

/-- What becomes of a piece of the input. -/
inductive Piece where
  | token (token : Token)
  | ignored
  | faulty (diagnostic : Diagnostic)
  | finished

/-- Report a failed read at a place. -/
def unreadable (failure : ReadFailure) (position : Position) : Diagnostic :=
  .located (.unreadable failure) position

/-- What a match stands for. -/
def classify (vocabulary : Vocabulary) (pattern : Nat) (image : String)
    (position : Position) : Piece :=
  match vocabulary.at? pattern with
  | none => .faulty (.located (.internal (.unknownPattern pattern)) position)
  | some pattern =>
      match pattern.errorMessage with
      | some message => .faulty (.located (.invalidToken image message) position)
      | none =>
          if pattern.isIgnored then .ignored
          else .token { id := pattern.id, image, position }

/-- Take the next piece off the input. -/
def piece (vocabulary : Vocabulary) (scanner : Scanner) : Scanner × Piece :=
  let { cursor, matcher, position } := scanner
  match matcher.longestMatch vocabulary.automaton cursor with
  | (matcher, cursor, .error failure) =>
      ({ cursor, matcher, position }, .faulty (unreadable failure position))
  | (matcher, cursor, .ok (some found)) =>
      let (scanner, taken) := consume { cursor, matcher, position } found.length
      (scanner, classify vocabulary found.pattern (String.ofList taken) position)
  | (matcher, cursor, .ok none) =>
      match cursor.peek 0 with
      | (cursor, .error failure) =>
          ({ cursor, matcher, position }, .faulty (unreadable failure position))
      | (cursor, .ok none) => ({ cursor, matcher, position }, .finished)
      | (cursor, .ok (some char)) =>
          let (scanner, _) := consume { cursor, matcher, position } 1
          (scanner, .faulty (.located (.unexpectedChar char) position))

/-- Take pieces off the input until one is not ignored. -/
def nextWithin (vocabulary : Vocabulary) :
    (fuel : Nat) → Scanner → Scanner × Except Diagnostic (Option Token)
  | 0, scanner => (scanner, .ok none)
  | fuel + 1, scanner =>
      match scanner.piece vocabulary with
      | (scanner, .token token) => (scanner, .ok (some token))
      | (scanner, .ignored) => nextWithin vocabulary fuel scanner
      | (scanner, .faulty diagnostic) => (scanner, .error diagnostic)
      | (scanner, .finished) => (scanner, .ok none)

/-- The next token, or none at the end of input. An ignored piece is not empty,
so the characters that are left bound their number. -/
def next (vocabulary : Vocabulary) (scanner : Scanner) :
    Scanner × Except Diagnostic (Option Token) :=
  nextWithin vocabulary (scanner.cursor.remaining + 1) scanner

/-- The tokens up to the end of input or the first error. -/
def allWithin (vocabulary : Vocabulary) :
    (fuel : Nat) → Scanner → (tokens : List Token) →
      Scanner × Except Diagnostic (List Token)
  | 0, scanner, tokens => (scanner, .ok tokens.reverse)
  | fuel + 1, scanner, tokens =>
      match scanner.next vocabulary with
      | (scanner, .ok (some token)) => allWithin vocabulary fuel scanner (token :: tokens)
      | (scanner, .ok none) => (scanner, .ok tokens.reverse)
      | (scanner, .error diagnostic) => (scanner, .error diagnostic)

/-- Every remaining token, up to the first error. A token is not empty, so the
characters that are left bound their number. -/
def all (vocabulary : Vocabulary) (scanner : Scanner) :
    Scanner × Except Diagnostic (List Token) :=
  allWithin vocabulary (scanner.cursor.remaining + 1) scanner []

end Scanner

/-- The tokens of a text, up to the first error. -/
def Vocabulary.tokens (vocabulary : Vocabulary) (text : String) :
    Except Diagnostic (List Token) :=
  ((Scanner.ofSource (.ofString text)).all vocabulary).2

end StrongLL
