import StrongLL.Grammar
import StrongLL.Report.Diagnostic

/-!
# Traces

A trace tells step by step what a parser does. It is recorded as it happens and
made readable afterwards, with one indented line per event.
-/

namespace StrongLL

/-- A step of a parser. -/
inductive TraceEvent where
  /-- A production is begun. -/
  | enter (rule : RuleId)
  /-- An alternative is chosen, having looked `depth` terminals ahead. -/
  | alternative (rule : RuleId) (index depth : Nat)
  | consume (token : Token)
  /-- After `count` copies it is decided whether to take another one. -/
  | loop (rule : RuleId) (count : Nat) (again : Bool)
  | error (diagnostic : Diagnostic) (suppressed : Bool)
  | skip (token : Token)
  /-- A production is left. -/
  | exit (rule : RuleId)
  deriving DecidableEq, Repr

namespace TraceEvent

/-- The wording of an event. -/
def text (grammar : Grammar) : TraceEvent → String
  | .enter rule => "enter " ++ grammar.ruleName rule
  | .alternative rule index depth =>
      "alternative " ++ toString (index + 1) ++ " of " ++ grammar.ruleName rule ++
        " (k=" ++ toString depth ++ ")"
  | .consume token =>
      "consume " ++ grammar.tokenName token.id ++ " " ++ token.shortImage ++ " " ++
        toString token.position.line ++ ":" ++ toString token.position.column
  | .loop rule count again =>
      "loop " ++ grammar.ruleName rule ++ " after " ++ toString count ++ ": " ++
        if again then "again" else "done"
  | .error diagnostic suppressed =>
      "error " ++ diagnostic.text ++ if suppressed then " (suppressed)" else ""
  | .skip token => "skip " ++ grammar.tokenName token.id ++ " " ++ token.shortImage
  | .exit rule => "exit " ++ grammar.ruleName rule

/-- The indentation of an event and of those behind it. -/
def depths (depth : Nat) : TraceEvent → Nat × Nat
  | .enter _ => (depth, depth + 1)
  | .exit _ => (depth - 1, depth - 1)
  | _ => (depth, depth)

end TraceEvent

/-- The lines of a trace whose first event is at some depth, and the depth
behind the last one. -/
def traceLines (grammar : Grammar) : (depth : Nat) → List TraceEvent → List String × Nat
  | depth, [] => ([], depth)
  | depth, event :: rest =>
      let (shown, behind) := event.depths depth
      let (lines, last) := traceLines grammar behind rest
      ((Node.indent shown ++ event.text grammar) :: lines, last)

end StrongLL
