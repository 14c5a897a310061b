/-!
# Written regular expressions

The tree of a regular expression as it is written: flags stand where they are
set, classes are not evaluated yet, and a literal remembers whether it was
written as a byte.
-/

namespace StrongLL.Regex

/-- A character that stands for itself. `isByte` says that it was written as an
escape of two hexadecimal digits. -/
structure Literal where
  char : Char
  isByte : Bool := false
  deriving DecidableEq, Repr

/-- The classes that have an escape of one letter. -/
inductive Shorthand where
  | digit
  | space
  | word
  deriving DecidableEq, Repr

/-- The classes that have a name between brackets and colons. -/
inductive PosixClass where
  | alnum
  | alpha
  | ascii
  | blank
  | cntrl
  | digit
  | graph
  | lower
  | print
  | punct
  | space
  | upper
  | word
  | xdigit
  deriving DecidableEq, Repr

/-- How a class of characters with a property is named. -/
inductive PropertyQuery where
  | letter (char : Char)
  | name (name : String)
  | value (name : String) (value : String)
  deriving DecidableEq, Repr

/-- Operators between the parts of a bracketed class. -/
inductive ClassOperator where
  | intersection
  | difference
  | symmetricDifference
  deriving DecidableEq, Repr

/-- A class of characters as it is written. -/
inductive ClassTree where
  | empty
  | literal (literal : Literal)
  | range (first last : Literal)
  | posix (name : PosixClass) (negated : Bool)
  | property (query : PropertyQuery) (negated : Bool)
  | shorthand (name : Shorthand) (negated : Bool)
  | bracket (negated : Bool) (inner : ClassTree)
  | union (parts : List ClassTree)
  | combine (operator : ClassOperator) (left right : ClassTree)
  deriving Repr

/-- A class made of parts that stand side by side. -/
def ClassTree.ofParts : List ClassTree → ClassTree
  | [] => .empty
  | [part] => part
  | parts => .union parts

/-- Conditions on the surroundings of a place, as they are written. -/
inductive Anchor where
  | lineStart
  | lineEnd
  | textStart
  | textEnd
  | wordBoundary
  | notWordBoundary
  | wordStart
  | wordEnd
  | wordStartHalf
  | wordEndHalf
  deriving DecidableEq, Repr

/-- What changes the meaning of a regular expression. -/
inductive Flag where
  | caseInsensitive
  | multiLine
  | dotMatchesNewLine
  | swapGreed
  | unicode
  | crlf
  | verbose
  deriving DecidableEq, Repr

/-- Flags that are switched on or off, in the order written. -/
abbrev FlagChanges := List (Flag × Bool)

/-- A regular expression as it is written. -/
inductive Ast where
  | empty
  | flags (changes : FlagChanges)
  | literal (literal : Literal)
  | dot
  | anchor (anchor : Anchor)
  | charClass (tree : ClassTree)
  | repetition (min : Nat) (max : Option Nat) (body : Ast)
  | capture (body : Ast)
  | group (changes : FlagChanges) (body : Ast)
  | concat (parts : List Ast)
  | alternation (branches : List Ast)
  deriving Repr

/-- Parts in a row. -/
def Ast.ofParts : List Ast → Ast
  | [] => .empty
  | [part] => part
  | parts => .concat parts

/-- Branches of which one is taken. -/
def Ast.ofBranches : List Ast → Ast
  | [] => .empty
  | [branch] => branch
  | branches => .alternation branches

mutual
/-- How deeply a class is nested. -/
def ClassTree.depth : ClassTree → Nat
  | .bracket _ inner => inner.depth + 1
  | .union parts => ClassTree.depthOf parts + 1
  | .combine _ left right => max left.depth right.depth + 1
  | _ => 0

/-- How deeply the deepest of several classes is nested. -/
def ClassTree.depthOf : List ClassTree → Nat
  | [] => 0
  | part :: rest => max part.depth (ClassTree.depthOf rest)
end

mutual
/-- How deeply a regular expression is nested. -/
def Ast.depth : Ast → Nat
  | .charClass tree => tree.depth
  | .repetition _ _ body => body.depth + 1
  | .capture body => body.depth + 1
  | .group _ body => body.depth + 1
  | .concat parts => Ast.depthOf parts + 1
  | .alternation branches => Ast.depthOf branches + 1
  | _ => 0

/-- How deeply the deepest of several regular expressions is nested. -/
def Ast.depthOf : List Ast → Nat
  | [] => 0
  | part :: rest => max part.depth (Ast.depthOf rest)
end

end StrongLL.Regex
