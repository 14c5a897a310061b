import StrongLL.Tree.Listener

/-!
# Scripted listeners

A script is a table of rules that say how a listener reacts to the nodes it
meets. The first rule that fits a call decides; without one the listener keeps
the tree as it is. Every call is recorded.
-/

namespace StrongLL.Script

/-- The calls that a rule can react to. -/
inductive Call where
  | enter
  | exit
  | child
  deriving DecidableEq, Repr

/-- What a rule does. A reaction that does not belong to the call at hand is
no reaction. -/
inductive Reaction where
  /-- Keep the tree as it is. -/
  | keep
  /-- Refuse the node, naming its place or not. -/
  | refuse (problem : Problem) (located : Bool)
  /-- Drop the node that is complete. -/
  | drop
  /-- Give the node that is complete another name. -/
  | rename (name : String)
  /-- Do not attach the child. -/
  | skip
  /-- Attach the child before all others. -/
  | attachFirst
  /-- Attach the children of the child instead of it. -/
  | splice
  deriving DecidableEq, Repr

/-- A rule fits a call about a node with this name and this image, where given.
A production has no image. -/
structure Rule where
  call : Call
  name : Option String
  image : Option String
  reaction : Reaction
  deriving Repr

/-- Whether a rule applies to a call about `node`. -/
def Rule.fits (rule : Rule) (call : Call) (node : Node) : Bool :=
  rule.call == call &&
    (match rule.name with
     | none => true
     | some name => node.name == name) &&
    (match rule.image with
     | none => true
     | some image => (node.token?.map (·.image)) == some image)

/-- The reaction of a script to a call about `node`. -/
def reaction (rules : List Rule) (call : Call) (node : Node) : Reaction :=
  match rules.find? (·.fits call node) with
  | some rule => rule.reaction
  | none => .keep

/-- The refusal of `node`. -/
def refusal (problem : Problem) (located : Bool) (node : Node) : Diagnostic :=
  ⟨problem, if located then node.position? else none⟩

/-- The listener of a script. Its state is the record of the calls so far. -/
def listener (rules : List Rule) : Listener (Array String) where
  enter node events :=
    (events.push ("enter " ++ node.name),
      match reaction rules .enter node with
      | .refuse problem located => .error (refusal problem located node)
      | _ => .ok ())
  exit node events :=
    (events.push ("exit " ++ node.name),
      match reaction rules .exit node with
      | .refuse problem located => .error (refusal problem located node)
      | .drop => .ok none
      | .rename name => .ok (some (node.rename name))
      | _ => .ok (some node))
  child parent node events :=
    (events.push ("child " ++ parent.name ++ " <- " ++ node.name),
      match reaction rules .child node with
      | .refuse problem located => (parent, .error (refusal problem located node))
      | .skip => (parent, .ok ())
      | .attachFirst => ({ parent with children := node :: parent.children }, .ok ())
      | .splice => ({ parent with children := parent.children ++ node.children }, .ok ())
      | _ => ({ parent with children := parent.children ++ [node] }, .ok ()))

end StrongLL.Script
