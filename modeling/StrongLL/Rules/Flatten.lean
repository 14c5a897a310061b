import StrongLL.Ebnf.Declaration
import StrongLL.Rules.Table

/-!
# Flattening declared grammars

A group becomes an auxiliary production, and so does an element with bounds
other than once, so that afterwards every element is a token or a declared
production once, or an auxiliary production with any bounds. Auxiliary
productions are numbered from behind the greatest declared number on, inner
ones before outer ones, and are named after the declared production they stand
in.
-/

namespace StrongLL.Flatten

/-- Numbers and names that are not taken yet, and the auxiliary productions made
so far, in reverse. `made` counts those of the present declared production. -/
structure Supply where
  next : RuleId
  made : Nat := 0
  rules : List Rule := []

/-- Make an auxiliary production inside `origin`, and refer to it. -/
def auxiliary (origin : Ebnf.Production) (occurs : Occurs)
    (alternatives : List Alternative) (supply : Supply) : Supply × Element :=
  let rule : Rule :=
    { id := supply.next
      name := origin.name ++ "#" ++ toString (supply.made + 1)
      origin := origin.id
      isAuxiliary := true
      alternatives }
  ({ next := supply.next + 1, made := supply.made + 1, rules := rule :: supply.rules },
    { symbol := .rule supply.next, occurs })

/-- Refer to a symbol, through an auxiliary production if the bounds are not
once. -/
def repeated (origin : Ebnf.Production) (symbol : Symbol) (occurs : Occurs)
    (supply : Supply) : Supply × Element :=
  if occurs.isOnce then (supply, { symbol })
  else auxiliary origin occurs [[{ symbol }]] supply

mutual
/-- Flatten an element. -/
def element (origin : Ebnf.Production) : Ebnf.Element → Supply → Supply × Element
  | .token id occurs, supply => repeated origin (.token id) occurs supply
  | .rule id occurs, supply => repeated origin (.rule id) occurs supply
  | .group declared occurs, supply =>
      let (supply, alternatives) := alternatives origin declared supply
      auxiliary origin occurs alternatives supply

/-- Flatten alternatives. -/
def alternatives (origin : Ebnf.Production) :
    List (List Ebnf.Element) → Supply → Supply × List Alternative
  | [], supply => (supply, [])
  | declared :: rest, supply =>
      let (supply, first) := elements origin declared supply
      let (supply, others) := alternatives origin rest supply
      (supply, first :: others)

/-- Flatten elements in a row. -/
def elements (origin : Ebnf.Production) :
    List Ebnf.Element → Supply → Supply × Alternative
  | [], supply => (supply, [])
  | declared :: rest, supply =>
      let (supply, first) := element origin declared supply
      let (supply, others) := elements origin rest supply
      (supply, first :: others)
end

/-- Flatten a declared production. -/
def production (declared : Ebnf.Production) (supply : Supply) : Supply × Rule :=
  let (supply, alternatives) :=
    alternatives declared declared.alternatives { supply with made := 0 }
  (supply, { id := declared.id, name := declared.name, origin := declared.id, alternatives })

/-- Flatten declared productions. -/
def productions : List Ebnf.Production → Supply → Supply × List Rule
  | [], supply => (supply, [])
  | declared :: rest, supply =>
      let (supply, first) := production declared supply
      let (supply, others) := productions rest supply
      (supply, first :: others)

/-- The first number behind all declared ones. -/
def firstFree (declared : List Ebnf.Production) : RuleId :=
  declared.foldl (fun free production => max free (production.id + 1)) 0

/-- The rule table of declared productions. -/
def table (declared : List Ebnf.Production) : RuleTable :=
  let (supply, rules) := productions declared { next := firstFree declared }
  rules ++ supply.rules.reverse

end StrongLL.Flatten
