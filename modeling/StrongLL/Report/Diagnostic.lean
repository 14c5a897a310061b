import StrongLL.Text.Position
import StrongLL.Text.Source

/-!
# Diagnostics

A diagnostic describes one problem found in one input. Problems are told apart
by their cause; the wording is made from the cause alone.
-/

namespace StrongLL

/-- Why the parser itself could not go on. -/
inductive Fault where
  | recursionLimit
  | executionLimit
  | nothingBuffered
  | unknownRule
  | noSuchAlternative
  | unknownPattern (index : Nat)
  | rootDiscarded
  | other (info : String)
  deriving DecidableEq, Repr

/-- The wording of a fault. -/
def Fault.message : Fault → String
  | .recursionLimit => "recursion limit exceeded"
  | .executionLimit => "execution limit exceeded"
  | .nothingBuffered => "consumed a token that was not peeked"
  | .unknownRule => "reference to an unknown production"
  | .noSuchAlternative => "selected alternative out of range"
  | .unknownPattern index => "automaton accepted unknown pattern " ++ toString index
  | .rootDiscarded => "analyzer discarded the root node"
  | .other info => info

/-- What is wrong with an input. -/
inductive Problem where
  | internal (fault : Fault)
  | unreadable (failure : ReadFailure)
  | endOfInput
  | unexpectedChar (char : Char)
  | unexpectedToken (found : String) (expected : List String)
  /-- A pattern flagged as an error matched. -/
  | invalidToken (image : String) (message : String)
  /-- A listener refused a node. -/
  | refused (info : String)
  deriving DecidableEq, Repr

namespace Problem

/-- An enumeration of what was expected, the last one behind "or". -/
def joinExpected : List String → String
  | [] => ""
  | [last] => "or " ++ last
  | item :: rest => item ++ ", " ++ joinExpected rest

/-- The part of a message that says what was expected. -/
def describeExpected : List String → String
  | [] => ""
  | [only] => ", expected " ++ only
  | expected => ", expected one of " ++ joinExpected expected

/-- The wording of a problem. -/
def message : Problem → String
  | .internal fault => "internal error: " ++ fault.message
  | .unreadable failure => "I/O error: " ++ failure.message
  | .endOfInput => "unexpected end of file"
  | .unexpectedChar char => "unexpected character '" ++ char.toString ++ "'"
  | .unexpectedToken found expected => "unexpected token " ++ found ++ describeExpected expected
  | .invalidToken image message => message ++ ": \"" ++ image ++ "\""
  | .refused info => info

/-- Whether a problem lies outside the text: in the device it is read from, or
in the parser. -/
def isExternal : Problem → Bool
  | .internal _ | .unreadable _ => true
  | _ => false

/-- Whether the parser may skip ahead and go on. At the end of input nothing is
left to skip. -/
def isRecoverable : Problem → Bool
  | .endOfInput => false
  | problem => !problem.isExternal

end Problem

/-- A problem and the place where it was found, if it has one. -/
structure Diagnostic where
  problem : Problem
  position : Option Position
  deriving DecidableEq, Repr

namespace Diagnostic

/-- A problem at a place. -/
def located (problem : Problem) (position : Position) : Diagnostic := ⟨problem, some position⟩

/-- The wording without the place. -/
def message (diagnostic : Diagnostic) : String := diagnostic.problem.message

/-- Whether the parser may go on. -/
def isRecoverable (diagnostic : Diagnostic) : Bool := diagnostic.problem.isRecoverable

/-- The wording with line and column. -/
def text (diagnostic : Diagnostic) : String :=
  diagnostic.message ++
    match diagnostic.position with
    | none => ""
    | some position =>
        ", on line: " ++ toString position.line ++ " column: " ++ toString position.column

end Diagnostic

/-- The problems of one parse, in the order found. -/
abbrev Log := List Diagnostic

/-- How many problems a log holds, in words. -/
def Log.summary (log : Log) : String := toString log.length ++ " parse error(s)"

end StrongLL
