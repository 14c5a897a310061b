import StrongLL.Regex.Fault
import StrongLL.Text.CharClass.Algebra

/-!
# Regular expressions

A regular expression with its classes evaluated and its flags resolved. The
constructors with conditions keep it small: rows and branches are flattened,
branches of single characters become one class, and what can only match the
empty string is repeated at most once.
-/

namespace StrongLL.Regex

/-- A regular expression. A class without members matches nothing. -/
inductive Expr where
  | empty
  | literal (text : List Char)
  | charClass (members : CharClass)
  | assertion (assertion : Assertion)
  | repetition (min : Nat) (max : Option Nat) (body : Expr)
  | capture (body : Expr)
  | concat (parts : List Expr)
  | alternation (branches : List Expr)

namespace Expr

/-- The expression of a class. -/
def ofClass (members : CharClass) : Expr :=
  match members.ranges with
  | [range] => if range.lo = range.hi then .literal [range.lo] else .charClass members
  | _ => .charClass members

/-- The parts that an expression contributes to a row. -/
def asParts : Expr → List Expr
  | .empty => []
  | .concat parts => parts
  | part => [part]

/-- Expressions in a row. -/
def ofParts (parts : List Expr) : Expr :=
  match parts.flatMap asParts with
  | [] => .empty
  | [part] => part
  | parts => .concat parts

/-- The branches that an expression contributes to a choice. -/
def asBranches : Expr → List Expr
  | .alternation branches => branches
  | branch => [branch]

/-- The class of an expression that matches exactly one character. -/
def asClass? : Expr → Option CharClass
  | .literal [char] => some (.single char)
  | .charClass members => some members
  | _ => none

/-- A choice between expressions. -/
def ofBranches (branches : List Expr) : Expr :=
  match branches.flatMap asBranches with
  | [branch] => branch
  | branches =>
      match branches.mapM asClass? with
      | some classes => ofClass (classes.foldl .union .empty)
      | none => .alternation branches

mutual
/-- Whether an expression matches the empty string and, by its shape, no
other. -/
def onlyEmpty : Expr → Bool
  | .empty => true
  | .literal text => text.isEmpty
  | .charClass _ => false
  | .assertion _ => true
  | .repetition _ max body => max.isSome && body.onlyEmpty
  | .capture body => body.onlyEmpty
  | .concat parts => allOnlyEmpty parts
  | .alternation branches => allOnlyEmpty branches

/-- Whether all expressions match the empty string and no other. -/
def allOnlyEmpty : List Expr → Bool
  | [] => true
  | part :: rest => part.onlyEmpty && allOnlyEmpty rest
end

/-- An expression repeated. -/
def ofRepetition (min : Nat) (max : Option Nat) (body : Expr) : Expr :=
  let (min, max) :=
    if body.onlyEmpty then (Nat.min min 1, some (Nat.min (max.getD 1) 1)) else (min, max)
  match min, max with
  | 0, some 0 => .empty
  | 1, some 1 => body
  | min, max => .repetition min max body

end Expr

end StrongLL.Regex
