import StrongLL.Token.Basic

/-!
# Parse trees

A leaf is a token with the name of its pattern; a branch is a production with
what was parsed for it. Auxiliary productions have no nodes: their children
stand in the enclosing declared production.
-/

namespace StrongLL

/-- Identifier of a production, chosen by whoever declares the grammar. -/
abbrev RuleId := Nat

/-- A parse tree. -/
inductive Node where
  | leaf (token : Token) (name : String)
  | branch (id : RuleId) (name : String) (children : List Node)
  deriving Repr

instance : Inhabited Node := ⟨.branch 0 "" []⟩

/-- A production whose children are still being collected. -/
structure Branch where
  id : RuleId
  name : String
  children : List Node := []

/-- The node of a production whose children are complete. -/
def Branch.toNode (branch : Branch) : Node := .branch branch.id branch.name branch.children

namespace Node

/-- Name of the pattern or production. -/
def name : Node → String
  | .leaf _ name => name
  | .branch _ name _ => name

/-- The same node under another name. -/
def rename (name : String) : Node → Node
  | .leaf token _ => .leaf token name
  | .branch id _ children => .branch id name children

/-- Children of a production; a token has none. -/
def children : Node → List Node
  | .leaf .. => []
  | .branch _ _ children => children

/-- Whether the node is a token. -/
def isToken : Node → Bool
  | .leaf .. => true
  | .branch .. => false

/-- The token of a leaf. -/
def token? : Node → Option Token
  | .leaf token _ => some token
  | .branch .. => none

/-- The number of a production. -/
def ruleId? : Node → Option RuleId
  | .leaf .. => none
  | .branch id .. => some id

/-- The node that a list of child indexes leads to. -/
def descend? (node : Node) : (path : List Nat) → Option Node
  | [] => some node
  | index :: path =>
      match node.children[index]? with
      | some child => child.descend? path
      | none => none

mutual
/-- The tokens below a node, from left to right. -/
def leaves : Node → List Token
  | .leaf token _ => [token]
  | .branch _ _ children => leavesOf children

/-- The tokens below several nodes. -/
def leavesOf : List Node → List Token
  | [] => []
  | node :: rest => leaves node ++ leavesOf rest
end

mutual
/-- The place of the first token below a node. -/
def position? : Node → Option Position
  | .leaf token _ => some token.position
  | .branch _ _ children => firstPosition? children

/-- The place of the first token below several nodes. -/
def firstPosition? : List Node → Option Position
  | [] => none
  | node :: rest =>
      match position? node with
      | some position => some position
      | none => firstPosition? rest
end

/-- The indentation of an outline at some depth. -/
def indent : (depth : Nat) → String
  | 0 => ""
  | depth + 1 => "  " ++ indent depth

/-- The line of a token in an outline. -/
def leafLine (token : Token) (name : String) : String :=
  name ++ " " ++ token.shortImage ++ " " ++
    toString token.position.line ++ ":" ++ toString token.position.column

mutual
/-- The lines of an outline. -/
def outline (depth : Nat) : Node → List String
  | .leaf token name => [indent depth ++ leafLine token name ++ "\n"]
  | .branch _ name children =>
      (indent depth ++ name ++ "\n") :: outlineOf (depth + 1) children

/-- The lines of several nodes side by side. -/
def outlineOf (depth : Nat) : List Node → List String
  | [] => []
  | node :: rest => outline depth node ++ outlineOf depth rest
end

/-- The tree as an indented outline with one node per line. -/
def dump (node : Node) : String := String.join (node.outline 0)

end Node

end StrongLL
