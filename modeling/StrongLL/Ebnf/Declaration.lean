import StrongLL.Ebnf.Occurs
import StrongLL.Token.Pattern
import StrongLL.Tree.Node

/-!
# Declared grammars

A grammar as it is declared: productions with alternatives, whose elements are
tokens, productions or groups of alternatives in parentheses, each with bounds
on its occurrences.
-/

namespace StrongLL.Ebnf

/-- An element of an alternative. -/
inductive Element where
  | token (id : TokenId) (occurs : Occurs)
  | rule (id : RuleId) (occurs : Occurs)
  | group (alternatives : List (List Element)) (occurs : Occurs)
  deriving Inhabited, Repr

/-- How often an element may stand in a row. -/
def Element.occurs : Element → Occurs
  | .token _ occurs => occurs
  | .rule _ occurs => occurs
  | .group _ occurs => occurs

/-- A declared production. -/
structure Production where
  id : RuleId
  name : String
  alternatives : List (List Element)
  deriving Repr

/-- A grammar with its vocabulary. Without an explicit start production the
first one declared is meant. -/
structure Declaration where
  patterns : List Pattern
  productions : List Production
  maxLookAhead : Nat := 4
  caseInsensitive : Bool := false
  start : Option RuleId := none
  deriving Repr

end StrongLL.Ebnf
