import StrongLL.Tree.Node
import StrongLL.Report.Diagnostic

/-!
# Listeners

A listener follows a parse. It is told of each node when the parser begins it,
decides about each complete node, and attaches children to their parents. A
refusal is logged, and the parse goes on. The same calls can be made over a
tree that is already there.
-/

namespace StrongLL

/-- The calls that follow a parse, over states of type `σ`. -/
structure Listener (σ : Type) where
  /-- A node begins; a production has no children yet. -/
  enter : Node → σ → σ × Except Diagnostic Unit
  /-- A node is complete. The answer takes its place, or drops it. -/
  exit : Node → σ → σ × Except Diagnostic (Option Node)
  /-- A complete child is to be attached to its parent. -/
  child : Branch → Node → σ → σ × Branch × Except Diagnostic Unit

/-- The listener that keeps the complete tree. -/
def treeBuilder : Listener Unit where
  enter _ state := (state, .ok ())
  exit node state := (state, .ok (some node))
  child parent node state :=
    (state, { parent with children := parent.children ++ [node] }, .ok ())

namespace Listener

variable {σ : Type}

/-- The refusals of a call, in order. -/
def refusals {α : Type} : Except Diagnostic α → Log
  | .ok _ => []
  | .error refusal => [refusal]

/-- Close a node. A refused node is dropped. -/
def close (listener : Listener σ) (node : Node) (state : σ) : σ × Log × Option Node :=
  match listener.exit node state with
  | (state, .ok kept) => (state, [], kept)
  | (state, .error refusal) => (state, [refusal], none)

mutual
/-- Make the calls of a parse over a tree. -/
def replay (listener : Listener σ) : Node → σ → σ × Log × Option Node
  | .leaf token name, state =>
      let (state, entered) := listener.enter (.leaf token name) state
      let (state, log, kept) := listener.close (.leaf token name) state
      (state, refusals entered ++ log, kept)
  | .branch id name children, state =>
      let (state, entered) := listener.enter (.branch id name []) state
      let (state, childLog, rebuilt) := replayInto listener children ⟨id, name, []⟩ state
      let (state, log, kept) := listener.close rebuilt.toNode state
      (state, refusals entered ++ childLog ++ log, kept)

/-- Make the calls over nodes side by side and attach what is kept to their
parent. -/
def replayInto (listener : Listener σ) : List Node → Branch → σ → σ × Log × Branch
  | [], parent, state => (state, [], parent)
  | node :: rest, parent, state =>
      match replay listener node state with
      | (state, log, none) =>
          let (state, restLog, parent) := replayInto listener rest parent state
          (state, log ++ restLog, parent)
      | (state, log, some kept) =>
          let (state, parent, attached) := listener.child parent kept state
          let (state, restLog, parent) := replayInto listener rest parent state
          (state, log ++ refusals attached ++ restLog, parent)
end

/-- Follow a tree as if it were being parsed. Any refusal makes this fail with
all of them. -/
def analyze (listener : Listener σ) (node : Node) (state : σ) :
    σ × Except Log (Option Node) :=
  match listener.replay node state with
  | (state, [], kept) => (state, .ok kept)
  | (state, log, _) => (state, .error log)

end Listener

end StrongLL
