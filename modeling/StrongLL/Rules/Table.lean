import StrongLL.Ebnf.Occurs
import StrongLL.Tree.Node

/-!
# Rule tables

A rule table holds productions without groups. Where an element has bounds
other than once it refers to an auxiliary production, which was made for it and
records the declared production it stands in.
-/

namespace StrongLL

/-- What an element stands for. -/
inductive Symbol where
  | token (id : TokenId)
  | rule (id : RuleId)
  deriving DecidableEq, Repr

/-- A symbol with bounds on its occurrences in a row. -/
structure Element where
  symbol : Symbol
  occurs : Occurs := .once
  deriving DecidableEq, Repr

/-- Elements in a row. -/
abbrev Alternative := List Element

/-- A production. `origin` is the declared production that it belongs to, which
is the production itself unless it is auxiliary. -/
structure Rule where
  id : RuleId
  name : String
  origin : RuleId
  isAuxiliary : Bool := false
  alternatives : List Alternative
  deriving DecidableEq, Repr

/-- All productions: the declared ones in their order, then the auxiliary ones. -/
abbrev RuleTable := List Rule

namespace RuleTable

/-- The production with a number. -/
def rule? (table : RuleTable) (id : RuleId) : Option Rule :=
  table.find? (·.id == id)

/-- The alternatives of the production with a number; none if there is no such
production. -/
def alternatives (table : RuleTable) (id : RuleId) : List Alternative :=
  match table.rule? id with
  | some rule => rule.alternatives
  | none => []

/-- The name of a production. -/
def nameOf (table : RuleTable) (id : RuleId) : String :=
  match table.rule? id with
  | some rule => rule.name
  | none => ""

/-- The name of the declared production that a production belongs to. -/
def originName (table : RuleTable) (rule : Rule) : String :=
  match table.rule? rule.origin with
  | some origin => origin.name
  | none => rule.name

/-- The name of the declared production that the production with a number
belongs to. -/
def originNameOf (table : RuleTable) (id : RuleId) : String :=
  match table.rule? id with
  | some rule => table.originName rule
  | none => ""

end RuleTable

end StrongLL
