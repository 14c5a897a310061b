import StrongLL.Text.CharClass

/-!
# Automata over characters

A nondeterministic automaton whose states are numbered from zero. A state moves
on a character of a class or silently, and may accept a pattern; of several
patterns the one with the least number counts.
-/

namespace StrongLL

/-- A move on a character of a class. -/
structure Transition where
  charClass : CharClass
  target : Nat
  deriving DecidableEq

/-- A state with its moves, in the order in which they were added. -/
structure State where
  transitions : List Transition := []
  epsilons : List Nat := []
  accept : Option Nat := none
  deriving DecidableEq

instance : Inhabited State := ⟨{}⟩

/-- The states of an automaton. -/
structure Graph where
  states : Array State := #[]
  deriving DecidableEq

/-- An automaton: its states, and the one in which a match begins. -/
structure Automaton extends Graph where
  start : Nat
  deriving DecidableEq

namespace Graph

/-- The graph without states. -/
def empty : Graph := {}

/-- Number of states. -/
def size (graph : Graph) : Nat := graph.states.size

/-- The state with a number. A number out of range has no moves. -/
def state (graph : Graph) (id : Nat) : State := graph.states.getD id {}

/-- Add a state without moves. Its number is the number of states before it. -/
def addState (graph : Graph) : Graph × Nat :=
  let id := graph.states.size
  ({ states := graph.states.push {} }, id)

/-- Add a silent move. -/
def addEpsilon (graph : Graph) (source target : Nat) : Graph where
  states := graph.states.modify source fun state =>
    { state with epsilons := state.epsilons ++ [target] }

/-- Add a move on the characters of a class. -/
def addTransition (graph : Graph) (source : Nat) (charClass : CharClass) (target : Nat) :
    Graph where
  states := graph.states.modify source fun state =>
    { state with transitions := state.transitions ++ [⟨charClass, target⟩] }

/-- Let a state accept a pattern. -/
def accept (graph : Graph) (id pattern : Nat) : Graph where
  states := graph.states.modify id fun state => { state with accept := some pattern }

/-- The automaton that begins in `start`. -/
def finish (graph : Graph) (start : Nat) : Automaton := { graph with start }

/-- Look for `target` among the states that silent moves lead to from the
pending ones. Each step visits a state that was not seen before, so there are
at most as many steps as states. -/
def findSilently (graph : Graph) (target : Nat) :
    (fuel : Nat) → (seen : Array Bool) → (pending : List Nat) → Bool
  | 0, _, _ => false
  | fuel + 1, seen, pending =>
      match pending.dropWhile fun id => seen.getD id true with
      | [] => false
      | id :: rest =>
          id == target ||
            graph.findSilently target fuel (seen.set! id true)
              ((graph.state id).epsilons ++ rest)

/-- Whether silent moves lead from `source` to `target`. -/
def silentlyReaches (graph : Graph) (source target : Nat) : Bool :=
  graph.findSilently target (graph.size + 1) (Array.replicate graph.size false) [source]

end Graph

end StrongLL
