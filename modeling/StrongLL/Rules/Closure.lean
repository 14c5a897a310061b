import StrongLL.Rules.Table

/-!
# Least sets of productions

Some properties of productions are the least that satisfy a condition: a
production has the property if the productions that it refers to have it in the
right places. The set is found by adding productions round by round until none
is added; there are at most as many rounds as productions.
-/

namespace StrongLL

/-- Whether an element can stand for nothing, if exactly the productions in
`nullable` can. -/
def Element.isSkippable (element : Element) (nullable : List RuleId) : Bool :=
  element.occurs.min == 0 ||
    match element.symbol with
    | .token _ => false
    | .rule id => nullable.contains id

/-- Whether an element can be derived to the end, if the productions in
`productive` can. -/
def Element.isProductive (element : Element) (productive : List RuleId) : Bool :=
  match element.symbol with
  | .token _ => true
  | .rule id => element.occurs.min == 0 || productive.contains id

namespace RuleTable

/-- One round: the productions that are known, or fulfil the condition given
those that are known. -/
def round (table : RuleTable) (holds : List RuleId → Rule → Bool) (known : List RuleId) :
    List RuleId :=
  (table.filter fun rule => known.contains rule.id || holds known rule).map (·.id)

/-- Add productions round by round until none is added. -/
def saturate (table : RuleTable) (holds : List RuleId → Rule → Bool) :
    (rounds : Nat) → (known : List RuleId) → List RuleId
  | 0, known => known
  | rounds + 1, known =>
      let next := table.round holds known
      if next.length = known.length then known else saturate table holds rounds next

/-- The least set of productions that satisfies a condition. -/
def least (table : RuleTable) (holds : List RuleId → Rule → Bool) : List RuleId :=
  table.saturate holds table.length []

/-- The productions that derive the empty sequence of tokens. -/
def nullable (table : RuleTable) : List RuleId :=
  table.least fun known rule =>
    rule.alternatives.any fun elements => elements.all (·.isSkippable known)

/-- The productions that derive some finite sequence of tokens. -/
def productive (table : RuleTable) : List RuleId :=
  table.least fun known rule =>
    rule.alternatives.any fun elements => elements.all (·.isProductive known)

end RuleTable

end StrongLL
