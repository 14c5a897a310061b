import StrongLL.LookAhead.Decision
import StrongLL.Report.Defect
import StrongLL.Vocabulary

/-!
# Resolved rules

A resolved rule knows how the parser decides: between its alternatives, and at
every element whose bounds leave a choice, between one more copy and going on.
Decisions are made in the order of the table, and the first that cannot be made
is reported.
-/

namespace StrongLL

/-- An element with the decision between one more copy and going on, if its
bounds leave a choice. -/
structure ResolvedElement extends Element where
  decision : Option Decision
  deriving DecidableEq

/-- A production with the decision between its alternatives, if it has several. -/
structure ResolvedRule where
  id : RuleId
  name : String
  origin : RuleId
  isAuxiliary : Bool
  alternatives : List (List ResolvedElement)
  decision : Option Decision
  deriving DecidableEq

/-- Number of conflicts that are reported. -/
def reportedConflicts : Nat := 3

namespace Vocabulary

/-- How messages name a terminal. -/
def describeTerminal (vocabulary : Vocabulary) : Terminal → String
  | .token id => vocabulary.describe id
  | .eof => "<EOF>"

/-- The report that branches in the production `name` share sequences. -/
def ambiguity (vocabulary : Vocabulary) (name : String) (shared : SequenceSet) : Defect :=
  .ambiguity name ((shared.members.take reportedConflicts).map fun sequence =>
    " ".intercalate (sequence.map vocabulary.describeTerminal))

end Vocabulary

/-- The decision between branches, if there is one to be made. -/
def Decision.ifNeeded (needed : Bool) (search : Search) (maxDepth : Nat)
    (branches : List Stack) : Except SequenceSet (Option Decision) :=
  if needed then some <$> Decision.between search maxDepth branches else .ok none

namespace RuleTable

/-- Decide at the elements of an alternative of the production `owner`. -/
def resolveElements (search : Search) (maxDepth : Nat) (owner : RuleId) :
    Alternative → Except SequenceSet (List ResolvedElement)
  | [] => .ok []
  | element :: rest => do
      let decision ← Decision.ifNeeded element.occurs.isVariable search maxDepth
        (Decision.loopBranches owner element rest)
      let others ← resolveElements search maxDepth owner rest
      return { element with decision } :: others

/-- Decide between the alternatives of a production, and at its elements. -/
def resolveRule (search : Search) (maxDepth : Nat) (rule : Rule) :
    Except SequenceSet ResolvedRule := do
  let { id, name, origin, isAuxiliary, .. } := rule
  let decision ← Decision.ifNeeded (1 < rule.alternatives.length) search maxDepth
    (Decision.choiceBranches rule)
  let alternatives ← rule.alternatives.mapM (resolveElements search maxDepth rule.id)
  return { id, name, origin, isAuxiliary, alternatives, decision }

/-- Resolve productions one after the other. -/
def resolveRules (table : RuleTable) (search : Search) (maxDepth : Nat)
    (vocabulary : Vocabulary) : List Rule → Except Defect (List ResolvedRule)
  | [] => .ok []
  | rule :: rest =>
      match resolveRule search maxDepth rule with
      | .error shared => .error (vocabulary.ambiguity (table.originName rule) shared)
      | .ok resolved => do
          return resolved :: (← table.resolveRules search maxDepth vocabulary rest)

/-- Resolve all productions of a grammar that begins with `start`. -/
def resolve (table : RuleTable) (start : RuleId) (maxDepth : Nat)
    (vocabulary : Vocabulary) : Except Defect (List ResolvedRule) :=
  table.resolveRules (.prepare table start) maxDepth vocabulary table

end RuleTable

end StrongLL
