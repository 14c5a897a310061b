import StrongLL.Token.Basic

/-!
# Token patterns

A token pattern is a named lexical rule. One that is flagged as an error makes
the scanner report its message when it matches; one that is flagged as ignored
is matched and dropped.
-/

namespace StrongLL

/-- How the text of a pattern is read. -/
inductive PatternKind where
  /-- The text stands for itself. -/
  | literal
  /-- The text is a regular expression. -/
  | regex
  deriving DecidableEq, Repr

/-- A named lexical rule. -/
structure Pattern where
  id : TokenId
  name : String
  kind : PatternKind
  text : String
  errorMessage : Option String := none
  ignoreMessage : Option String := none
  deriving DecidableEq, Repr

namespace Pattern

/-- Message of an error pattern that declares none. -/
def defaultErrorMessage : String := "unrecognized token"

/-- Message of an ignored pattern that declares none. -/
def defaultIgnoreMessage : String := "ignored token"

/-- Flag as an error pattern. -/
def asError (pattern : Pattern) (message : String := defaultErrorMessage) : Pattern :=
  { pattern with errorMessage := some message }

/-- Flag as an ignored pattern. -/
def asIgnored (pattern : Pattern) (message : String := defaultIgnoreMessage) : Pattern :=
  { pattern with ignoreMessage := some message }

/-- Whether a match is reported as an error. -/
def isError (pattern : Pattern) : Bool := pattern.errorMessage.isSome

/-- Whether a match is dropped. -/
def isIgnored (pattern : Pattern) : Bool := pattern.ignoreMessage.isSome

/-- How messages name the pattern: a literal by its quoted text, a regular
expression by its name. -/
def description (pattern : Pattern) : String :=
  match pattern.kind with
  | .literal => "\"" ++ pattern.text ++ "\""
  | .regex => "<" ++ pattern.name ++ ">"

end Pattern

end StrongLL
