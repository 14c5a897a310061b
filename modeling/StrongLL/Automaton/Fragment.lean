import StrongLL.Automaton.Basic

/-!
# Fragments of automata

A fragment is a piece of a graph with one entry and one exit. Fragments are put
together as the operators of regular expressions are; the exit has no moves
until an operator adds some.
-/

namespace StrongLL

/-- A piece of a graph, entered and left at one state each. -/
structure Fragment where
  entry : Nat
  exit : Nat
  deriving DecidableEq, Repr

namespace Fragment

/-- A fragment for the empty string. -/
def epsilon (graph : Graph) : Graph × Fragment :=
  let (graph, id) := graph.addState
  (graph, ⟨id, id⟩)

/-- A fragment for one character of a class. -/
def ofClass (charClass : CharClass) (graph : Graph) : Graph × Fragment :=
  let (graph, entry) := graph.addState
  let (graph, exit) := graph.addState
  (graph.addTransition entry charClass exit, ⟨entry, exit⟩)

/-- Lead from the exit of `first` through the others in turn, and answer the
last exit. -/
def chain (graph : Graph) (exit : Nat) : List Fragment → Graph × Nat
  | [] => (graph, exit)
  | next :: rest => chain (graph.addEpsilon exit next.entry) next.exit rest

/-- Fragments one behind the other. -/
def sequence (graph : Graph) : List Fragment → Graph × Fragment
  | [] => epsilon graph
  | first :: rest =>
      let (graph, exit) := chain graph first.exit rest
      (graph, ⟨first.entry, exit⟩)

/-- Connect branches with a common entry and a common exit. -/
def join (entry exit : Nat) (graph : Graph) (branches : List Fragment) : Graph :=
  branches.foldl
    (fun graph branch =>
      (graph.addEpsilon entry branch.entry).addEpsilon branch.exit exit) graph

/-- One fragment of several. -/
def alternation (graph : Graph) (branches : List Fragment) : Graph × Fragment :=
  let (graph, entry) := graph.addState
  let (graph, exit) := graph.addState
  (join entry exit graph branches, ⟨entry, exit⟩)

/-- A fragment or nothing. -/
def optional (graph : Graph) (body : Fragment) : Graph × Fragment :=
  let (graph, entry) := graph.addState
  let (graph, exit) := graph.addState
  let graph := graph.addEpsilon entry body.entry
  let graph := graph.addEpsilon entry exit
  (graph.addEpsilon body.exit exit, ⟨entry, exit⟩)

/-- A fragment any number of times. -/
def star (graph : Graph) (body : Fragment) : Graph × Fragment :=
  let (graph, entry) := graph.addState
  let (graph, exit) := graph.addState
  let graph := graph.addEpsilon entry body.entry
  let graph := graph.addEpsilon entry exit
  let graph := graph.addEpsilon body.exit body.entry
  (graph.addEpsilon body.exit exit, ⟨entry, exit⟩)

/-- A fragment any number of times, but at least once. -/
def plus (graph : Graph) (body : Fragment) : Graph × Fragment :=
  let (graph, exit) := graph.addState
  let graph := graph.addEpsilon body.exit body.entry
  (graph.addEpsilon body.exit exit, ⟨body.entry, exit⟩)

/-- A fragment for each of several classes, in order. -/
def ofClasses (graph : Graph) : List CharClass → Graph × List Fragment
  | [] => (graph, [])
  | charClass :: rest =>
      let (graph, first) := ofClass charClass graph
      let (graph, fragments) := ofClasses graph rest
      (graph, first :: fragments)

end Fragment

end StrongLL
