/-!
# Faults in regular expressions

What can be wrong with the written form of a regular expression, and the
assertions that cannot be compiled.
-/

namespace StrongLL.Regex

/-- Why a text is no regular expression. -/
inductive Fault where
  | groupUnclosed
  | groupUnopened
  | lookAround
  | flagUnrecognized
  | flagDuplicate
  | flagDanglingNegation
  | flagRepeatedNegation
  | flagUnexpectedEnd
  | groupNameEmpty
  | groupNameInvalid
  | groupNameUnclosed
  | groupNameDuplicate
  | repetitionMissing
  | repetitionUnclosed
  | repetitionCountEmpty
  | repetitionCountInvalid
  | decimalInvalid
  | escapeUnexpectedEnd
  | escapeUnrecognized
  | backreference
  | hexInvalidDigit
  | hexEmpty
  | hexInvalid
  | classUnclosed
  | classRangeInvalid
  | classRangeLiteral
  | classEscapeInvalid
  | propertyNameInvalid
  | propertyNotFound
  | propertyValueNotFound
  | unicodeNotAllowed
  | invalidUtf8
  | wordBoundaryUnclosed
  | wordBoundaryUnrecognized
  | wordBoundaryUnexpectedEnd
  | nestingTooDeep
  deriving DecidableEq, Repr

/-- Greatest depth to which a regular expression may be nested. -/
def nestingLimit : Nat := 250

/-- The wording of a fault. -/
def Fault.message : Fault → String
  | .groupUnclosed => "unclosed group"
  | .groupUnopened => "unopened group"
  | .lookAround => "look-around, including look-ahead and look-behind, is not supported"
  | .flagUnrecognized => "unrecognized flag"
  | .flagDuplicate => "duplicate flag"
  | .flagDanglingNegation => "dangling flag negation operator"
  | .flagRepeatedNegation => "flag negation operator repeated"
  | .flagUnexpectedEnd => "expected flag but got end of regex"
  | .groupNameEmpty => "empty capture group name"
  | .groupNameInvalid => "invalid capture group character"
  | .groupNameUnclosed => "unclosed capture group name"
  | .groupNameDuplicate => "duplicate capture group name"
  | .repetitionMissing => "repetition operator missing expression"
  | .repetitionUnclosed => "unclosed counted repetition"
  | .repetitionCountEmpty => "repetition quantifier expects a valid decimal"
  | .repetitionCountInvalid =>
      "invalid repetition count range, the start must be <= the end"
  | .decimalInvalid => "decimal literal invalid"
  | .escapeUnexpectedEnd =>
      "incomplete escape sequence, reached end of pattern prematurely"
  | .escapeUnrecognized => "unrecognized escape sequence"
  | .backreference => "backreferences are not supported"
  | .hexInvalidDigit => "invalid hexadecimal digit"
  | .hexEmpty => "hexadecimal literal empty"
  | .hexInvalid => "hexadecimal literal is not a Unicode scalar value"
  | .classUnclosed => "unclosed character class"
  | .classRangeInvalid => "invalid character class range, the start must be <= the end"
  | .classRangeLiteral => "invalid range boundary, must be a literal"
  | .classEscapeInvalid => "invalid escape sequence found in character class"
  | .propertyNameInvalid => "invalid Unicode character class"
  | .propertyNotFound => "Unicode property not found"
  | .propertyValueNotFound => "Unicode property value not found"
  | .unicodeNotAllowed => "Unicode not allowed here"
  | .invalidUtf8 => "pattern can match invalid UTF-8"
  | .wordBoundaryUnclosed =>
      "special word boundary assertion is either unclosed or contains an invalid character"
  | .wordBoundaryUnrecognized =>
      "unrecognized special word boundary assertion, " ++
        "valid choices are: start, end, start-half or end-half"
  | .wordBoundaryUnexpectedEnd =>
      "found either the beginning of a special word boundary or a bounded repetition " ++
        "on a \\b with an opening brace, but no closing brace"
  | .nestingTooDeep =>
      "exceed the maximum number of nested parentheses/brackets (" ++
        toString nestingLimit ++ ")"

/-- Conditions on the surroundings of a place. A scanner that takes the longest
match from a place on cannot honour them. -/
inductive Assertion where
  | textStart
  | textEnd
  | lineStart (crlf : Bool)
  | lineEnd (crlf : Bool)
  | wordBoundary (unicode : Bool)
  | notWordBoundary (unicode : Bool)
  | wordStart (unicode : Bool)
  | wordEnd (unicode : Bool)
  | wordStartHalf (unicode : Bool)
  | wordEndHalf (unicode : Bool)
  deriving DecidableEq, Repr

/-- The name of an assertion in messages. -/
def Assertion.name : Assertion → String
  | .textStart => "Start"
  | .textEnd => "End"
  | .lineStart crlf => if crlf then "StartCRLF" else "StartLF"
  | .lineEnd crlf => if crlf then "EndCRLF" else "EndLF"
  | .wordBoundary unicode => if unicode then "WordUnicode" else "WordAscii"
  | .notWordBoundary unicode =>
      if unicode then "WordUnicodeNegate" else "WordAsciiNegate"
  | .wordStart unicode => if unicode then "WordStartUnicode" else "WordStartAscii"
  | .wordEnd unicode => if unicode then "WordEndUnicode" else "WordEndAscii"
  | .wordStartHalf unicode =>
      if unicode then "WordStartHalfUnicode" else "WordStartHalfAscii"
  | .wordEndHalf unicode => if unicode then "WordEndHalfUnicode" else "WordEndHalfAscii"

end StrongLL.Regex
