import StrongLL.Proofs.Automaton.Path
import StrongLL.Proofs.Prelude

/-!
# Searching along silent moves

The search goes from state to state and visits none twice. When it ends, the states that
it has seen are closed under silent moves, so a state that was not found is not reached.
-/

namespace StrongLL

namespace Graph

variable {graph : Graph} {source target id : Nat} {seen : Array Bool} {pending : List Nat}

/-- The states that the search can still go to. -/
def unseen (seen : Array Bool) : Nat := seen.toList.count false

end Graph

end StrongLL
