import StrongLL.Automaton.Fragment
import StrongLL.Regex.Meaning
import StrongLL.Regex.Notation
import StrongLL.Report.Defect
import StrongLL.Token.Pattern

/-!
# Automata of patterns

A literal becomes a chain of single characters. A regular expression is put
together from fragments; a counted repetition is unrolled, which is why counts
and the number of states are limited. Assertions are refused.
-/

namespace StrongLL

/-- Greatest number of states. -/
def stateLimit : Nat := Nat.pow 2 20

namespace Fragment

/-- A fragment of one character after the other. -/
def ofText (caseInsensitive : Bool) (text : List Char) (graph : Graph) :
    Graph × Fragment :=
  let charClass := if caseInsensitive then CharClass.caseless else CharClass.single
  let (graph, fragments) := ofClasses graph (text.map charClass)
  sequence graph fragments

/-- Make `count` fragments one after the other. The size is checked after each,
for counts multiply when repetitions are nested. -/
def copies (make : Graph → Except PatternFlaw (Graph × Fragment)) :
    (count : Nat) → Graph → Except PatternFlaw (Graph × List Fragment)
  | 0, graph => .ok (graph, [])
  | count + 1, graph => do
      let (graph, first) ← make graph
      if stateLimit < graph.size then throw .tooLarge
      let (graph, rest) ← copies make count graph
      return (graph, first :: rest)

/-- Make `count` optional fragments one after the other. -/
def optionals (make : Graph → Except PatternFlaw (Graph × Fragment)) :
    (count : Nat) → Graph → Except PatternFlaw (Graph × List Fragment)
  | 0, graph => .ok (graph, [])
  | count + 1, graph => do
      let (graph, body) ← make graph
      if stateLimit < graph.size then throw .tooLarge
      let (graph, first) := optional graph body
      let (graph, rest) ← optionals make count graph
      return (graph, first :: rest)

/-- Replace the last of several fragments by its repetition. -/
def loopLast (graph : Graph) : List Fragment → Graph × List Fragment
  | [] => (graph, [])
  | [last] =>
      let (graph, looped) := plus graph last
      (graph, [looped])
  | first :: rest =>
      let (graph, rest) := loopLast graph rest
      (graph, first :: rest)

/-- A repetition: the copies that must be there, and behind them a loop or the
copies that may be there. Without an upper bound the last mandatory copy is the
body of the loop. -/
def repetition (make : Graph → Except PatternFlaw (Graph × Fragment))
    (min : Nat) (max : Option Nat) (graph : Graph) :
    Except PatternFlaw (Graph × Fragment) := do
  if repetitionLimit < min ∨ max.any (repetitionLimit < ·) then throw .repetitionLimit
  let (graph, mandatory) ← copies make min graph
  match max with
  | some max =>
      let (graph, rest) ← optionals make (max - min) graph
      return sequence graph (mandatory ++ rest)
  | none =>
      if mandatory.isEmpty then
        let (graph, bodies) ← copies make 1 graph
        match bodies with
        | [body] =>
            let (graph, looped) := star graph body
            return sequence graph [looped]
        | _ => return sequence graph bodies
      else
        let (graph, parts) := loopLast graph mandatory
        return sequence graph parts

mutual
/-- The fragment of a regular expression. -/
def ofExpr : Regex.Expr → Graph → Except PatternFlaw (Graph × Fragment)
  | .empty, graph => .ok (epsilon graph)
  | .literal text, graph => .ok (ofText false text graph)
  | .charClass charClass, graph => .ok (ofClass charClass graph)
  | .assertion assertion, _ => .error (.unsupportedAssertion assertion)
  | .repetition min max body, graph => repetition (ofExpr body) min max graph
  | .capture body, graph => ofExpr body graph
  | .concat parts, graph => do
      let (graph, fragments) ← ofExprs parts graph
      return sequence graph fragments
  | .alternation branches, graph => do
      let (graph, fragments) ← ofExprs branches graph
      return alternation graph fragments

/-- The fragments of several regular expressions, from left to right. -/
def ofExprs : List Regex.Expr → Graph → Except PatternFlaw (Graph × List Fragment)
  | [], graph => .ok (graph, [])
  | expr :: rest, graph => do
      let (graph, first) ← ofExpr expr graph
      let (graph, fragments) ← ofExprs rest graph
      return (graph, first :: fragments)
end

/-- The fragment of a pattern. A pattern may not match the empty string. -/
def ofPattern (caseInsensitive : Bool) (pattern : Pattern) (graph : Graph) :
    Except PatternFlaw (Graph × Fragment) := do
  let (graph, fragment) ← match pattern.kind with
    | .literal => Except.ok (ofText caseInsensitive pattern.text.toList graph)
    | .regex =>
        let read := do
          let ast ← Regex.Notation.read pattern.text.toList
          Regex.meaning ast { caseInsensitive }
        match read with
        | .ok (expr, _) => ofExpr expr graph
        | .error fault => throw (.malformed fault)
  if stateLimit < graph.size then throw .tooLarge
  if graph.silentlyReaches fragment.entry fragment.exit then throw .matchesEmpty
  return (graph, fragment)

end Fragment

end StrongLL
