import StrongLL.Regex.Fault
import StrongLL.Ebnf.Occurs

/-!
# Defects of a grammar

A defect makes a grammar unusable. It is found while the grammar is built and
names the pattern or production that is to blame.
-/

namespace StrongLL

/-- What is wrong with a token pattern. -/
inductive PatternFlaw where
  | missingName
  | matchesEmpty
  | duplicateId (id : Nat)
  | malformed (fault : Regex.Fault)
  | unsupportedAssertion (assertion : Regex.Assertion)
  | repetitionLimit
  | tooLarge
  | other (info : String)
  deriving DecidableEq, Repr

/-- Greatest count of a repetition. -/
def repetitionLimit : Nat := 1000

/-- The wording of a flaw. -/
def PatternFlaw.message : PatternFlaw → String
  | .missingName => "missing name"
  | .matchesEmpty => "pattern matches the empty string"
  | .duplicateId id => "duplicate token id " ++ toString id
  | .malformed fault => "error: " ++ fault.message
  | .unsupportedAssertion assertion => "unsupported assertion " ++ assertion.name
  | .repetitionLimit =>
      "repetition count exceeds the limit of " ++ toString StrongLL.repetitionLimit
  | .tooLarge => "pattern is too large"
  | .other info => info

/-- What is wrong with a production. -/
inductive RuleFlaw where
  | missingName
  | duplicateId (id : Nat)
  | noAlternatives
  | emptyAlternative (number : Nat)
  | invalidOccurs (occurs : Occurs)
  | undefinedToken (id : Nat)
  | undefinedRule (id : Nat)
  | unproductive
  | other (info : String)
  deriving DecidableEq, Repr

/-- The wording of a flaw. -/
def RuleFlaw.message : RuleFlaw → String
  | .missingName => "missing name"
  | .duplicateId id => "duplicate production id " ++ toString id
  | .noAlternatives => "no alternatives defined"
  | .emptyAlternative number => "alternative " ++ toString number ++ " has no elements"
  | .invalidOccurs occurs =>
      "invalid occurrence bounds \x7b" ++ toString occurs.min ++ "," ++
        (match occurs.max with
         | some max => toString max
         | none => "") ++ "\x7d"
  | .undefinedToken id => "undefined token " ++ toString id
  | .undefinedRule id => "undefined production " ++ toString id
  | .unproductive => "every alternative recurses without end"
  | .other info => info

/-- What is wrong with a grammar as a whole. -/
inductive SetupFlaw where
  | noLookAhead
  | noPatterns
  | noRules
  | undefinedStart (id : Nat)
  | other (info : String)
  deriving DecidableEq, Repr

/-- The wording of a flaw. -/
def SetupFlaw.message : SetupFlaw → String
  | .noLookAhead => "look-ahead depth must be at least 1"
  | .noPatterns => "no token patterns defined"
  | .noRules => "no production patterns defined"
  | .undefinedStart id => "start production " ++ toString id ++ " is not defined"
  | .other info => info

/-- Why a grammar cannot be used. -/
inductive Defect where
  | internal (info : String)
  | setup (flaw : SetupFlaw)
  | pattern (name : String) (flaw : PatternFlaw)
  | rule (name : String) (flaw : RuleFlaw)
  /-- A production that can begin with itself, or a repetition of nothing. -/
  | infiniteLoop (name : String) (cycle : List String)
  /-- Branches that look-ahead cannot tell apart, with what they share. -/
  | ambiguity (name : String) (conflicts : List String)
  deriving DecidableEq, Repr

/-- The wording of a defect. -/
def Defect.message : Defect → String
  | .internal info => "internal error: " ++ info
  | .setup flaw => "invalid parser configuration: " ++ flaw.message
  | .pattern name flaw => "invalid token pattern " ++ name ++ ": " ++ flaw.message
  | .rule name flaw => "invalid production pattern " ++ name ++ ": " ++ flaw.message
  | .infiniteLoop name cycle =>
      "infinite loop found in production pattern " ++ name ++
        if cycle.length < 2 then "" else " (" ++ " -> ".intercalate cycle ++ ")"
  | .ambiguity name conflicts =>
      "inherent ambiguity in production pattern " ++ name ++
        if conflicts.isEmpty then ""
        else ": conflicting look-ahead " ++ ", ".intercalate conflicts

end StrongLL
