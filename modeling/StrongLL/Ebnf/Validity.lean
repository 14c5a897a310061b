import StrongLL.Ebnf.Declaration
import StrongLL.Report.Defect
import StrongLL.Vocabulary

/-!
# Validity of declarations

A declaration is valid if its productions have names and distinct numbers, no
alternative is empty, all bounds can be met, and all that is referred to is
declared. The first violation in the order of the text is reported, names and
numbers before all else.
-/

namespace StrongLL.Ebnf

/-- The first production without a name or with a number that is taken. -/
def checkNames (taken : List RuleId) : List Production → Except Defect Unit
  | [] => .ok ()
  | production :: rest => do
      if production.name.isEmpty then
        throw (.rule ("#" ++ toString production.id) .missingName)
      if taken.contains production.id then
        throw (.rule production.name (.duplicateId production.id))
      checkNames (production.id :: taken) rest

mutual
/-- The first violation in an element. -/
def Element.check (vocabulary : Vocabulary) (rules : List RuleId) :
    Element → Except RuleFlaw Unit
  | .token id occurs => do
      if !occurs.isValid then throw (.invalidOccurs occurs)
      if (vocabulary.find? id).isNone then throw (.undefinedToken id)
  | .rule id occurs => do
      if !occurs.isValid then throw (.invalidOccurs occurs)
      if !rules.contains id then throw (.undefinedRule id)
  | .group alternatives occurs => do
      if !occurs.isValid then throw (.invalidOccurs occurs)
      if alternatives.isEmpty then throw .noAlternatives
      checkAlternatives vocabulary rules 1 alternatives

/-- The first violation in alternatives, which are counted from `number` on. -/
def checkAlternatives (vocabulary : Vocabulary) (rules : List RuleId) :
    (number : Nat) → List (List Element) → Except RuleFlaw Unit
  | _, [] => .ok ()
  | number, elements :: rest => do
      if elements.isEmpty then throw (.emptyAlternative number)
      checkElements vocabulary rules elements
      checkAlternatives vocabulary rules (number + 1) rest

/-- The first violation in elements. -/
def checkElements (vocabulary : Vocabulary) (rules : List RuleId) :
    List Element → Except RuleFlaw Unit
  | [] => .ok ()
  | element :: rest => do
      element.check vocabulary rules
      checkElements vocabulary rules rest
end

/-- The first violation inside a production. -/
def Production.check (vocabulary : Vocabulary) (rules : List RuleId)
    (production : Production) : Except Defect Unit :=
  let checked : Except RuleFlaw Unit := do
    if production.alternatives.isEmpty then throw .noAlternatives
    checkAlternatives vocabulary rules 1 production.alternatives
  match checked with
  | .ok () => .ok ()
  | .error flaw => .error (.rule production.name flaw)

/-- Check all productions. -/
def validate (vocabulary : Vocabulary) (productions : List Production) :
    Except Defect Unit := do
  if productions.isEmpty then throw (.setup .noRules)
  checkNames [] productions
  productions.forM (Production.check vocabulary (productions.map (·.id)))

end StrongLL.Ebnf
