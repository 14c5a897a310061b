import StrongLL.Ebnf.Declaration

/-!
# Derivation trees of declared grammars

What the productions of a declaration derive, as parse trees. A production has a node of
its own; the nodes of a group stand among those of the production that it is written in,
and so do those of all copies of an element.
-/

namespace StrongLL.Ebnf

/-- A piece of a declared production. -/
inductive Form where
  /-- An element once, whatever its bounds. -/
  | unit (element : Element)
  /-- An element a number of times in a row. -/
  | copies (element : Element) (count : Nat)
  /-- Elements in a row, each as often as its bounds say. -/
  | row (elements : List Element)

/-- The nodes side by side that a piece of a declaration derives. -/
inductive Builds (declaration : Declaration) : Form → List Node → Prop where
  | token {id : TokenId} {occurs : Occurs} {token : Token} {pattern : Pattern}
      (found : declaration.patterns.find? (·.id == id) = some pattern) (kind : token.id = id) :
      Builds declaration (.unit (.token id occurs)) [.leaf token pattern.name]
  | rule {production : Production} {occurs : Occurs} {elements : List Element}
      {children : List Node} (member : production ∈ declaration.productions)
      (chosen : elements ∈ production.alternatives)
      (inner : Builds declaration (.row elements) children) :
      Builds declaration (.unit (.rule production.id occurs))
        [.branch production.id production.name children]
  | group {alternatives : List (List Element)} {occurs : Occurs} {elements : List Element}
      {nodes : List Node} (chosen : elements ∈ alternatives)
      (inner : Builds declaration (.row elements) nodes) :
      Builds declaration (.unit (.group alternatives occurs)) nodes
  | noCopy (element : Element) : Builds declaration (.copies element 0) []
  | oneMore {element : Element} {count : Nat} {first others : List Node}
      (copy : Builds declaration (.unit element) first)
      (more : Builds declaration (.copies element count) others) :
      Builds declaration (.copies element (count + 1)) (first ++ others)
  | nothing : Builds declaration (.row []) []
  | element {element : Element} {rest : List Element} {count : Nat} {first others : List Node}
      (admitted : element.occurs.Admits count)
      (copies : Builds declaration (.copies element count) first)
      (more : Builds declaration (.row rest) others) :
      Builds declaration (.row (element :: rest)) (first ++ others)

/-- A derivation tree of a production. -/
def IsTree (declaration : Declaration) (id : RuleId) (node : Node) : Prop :=
  Builds declaration (.unit (.rule id .once)) [node]

end StrongLL.Ebnf
