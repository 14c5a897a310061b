import StrongLL.Ebnf.Validity
import StrongLL.Rules.Checks
import StrongLL.Rules.Flatten
import StrongLL.Rules.Resolved

/-!
# Grammars

A grammar is what a valid declaration becomes once all its decisions are made.
It does not change any more, and any number of parsers may use it.
-/

namespace StrongLL

/-- A grammar that is ready for parsing. -/
structure Grammar where
  vocabulary : Vocabulary
  rules : List ResolvedRule
  start : RuleId
  maxLookAhead : Nat

namespace Grammar

/-- The production that a declaration begins with. -/
def startOf (declaration : Ebnf.Declaration) : Except Defect RuleId := do
  let declared := declaration.productions.map (·.id)
  match declaration.start.orElse fun _ => declared.head? with
  | none => throw (.setup .noRules)
  | some start =>
      if declared.contains start then return start
      throw (.setup (.undefinedStart start))

/-- Build a grammar. Of several defects the first found is reported: the depth,
the patterns, the declarations, the start, then recursion, productivity, loops
and decisions. -/
def build (declaration : Ebnf.Declaration) : Except Defect Grammar := do
  if declaration.maxLookAhead = 0 then throw (.setup .noLookAhead)
  let vocabulary ← Vocabulary.ofPatterns declaration.patterns declaration.caseInsensitive
  Ebnf.validate vocabulary declaration.productions
  let start ← startOf declaration
  let table := Flatten.table declaration.productions
  table.checkLeftRecursion
  table.checkProductive
  table.checkLoops
  let rules ← table.resolve start declaration.maxLookAhead vocabulary
  return { vocabulary, rules, start, maxLookAhead := declaration.maxLookAhead }

/-- The production with a number. -/
def rule? (grammar : Grammar) (id : RuleId) : Option ResolvedRule :=
  grammar.rules.find? (·.id == id)

/-- The name of a production in descriptions and traces. -/
def ruleName (grammar : Grammar) (id : RuleId) : String :=
  match grammar.rule? id with
  | some rule => rule.name
  | none => "?"

/-- The name of a token in traces. -/
def tokenName (grammar : Grammar) (id : TokenId) : String :=
  match grammar.vocabulary.find? id with
  | some pattern => pattern.name
  | none => "?"

/-- The depth of a decision in brackets. -/
def depthMark : Option Decision → String
  | some decision => "[k=" ++ toString decision.depth ++ "]"
  | none => ""

/-- An element as a description shows it. -/
def describeElement (grammar : Grammar) (element : ResolvedElement) : String :=
  let symbol := match element.symbol with
    | .token id => grammar.vocabulary.describe id
    | .rule id =>
        match grammar.rule? id with
        | some rule => rule.name
        | none => "#" ++ toString id
  symbol ++ element.occurs.text ++ depthMark element.decision

/-- The lines of alternatives in a description, the first behind an equals sign
and the others behind bars. -/
def describeAlternatives (grammar : Grammar) (lead : String) :
    List (List ResolvedElement) → String
  | [] => ""
  | elements :: rest =>
      lead ++ String.join (elements.map fun element => " " ++ grammar.describeElement element) ++
        "\n" ++ grammar.describeAlternatives "  |" rest

/-- A production as a description shows it. -/
def describeRule (grammar : Grammar) (rule : ResolvedRule) : String :=
  rule.name ++ (if rule.isAuxiliary then " (synthetic)" else "") ++
    (match rule.decision with
     | some decision => " " ++ depthMark (some decision)
     | none => "") ++ "\n" ++
    grammar.describeAlternatives "  =" rule.alternatives

/-- The productions with their alternatives and the depths of all decisions. -/
def describe (grammar : Grammar) : String :=
  String.join (grammar.rules.map grammar.describeRule)

end Grammar

end StrongLL
