import StrongLL.Proofs.MaximalMunch
import StrongLL.Proofs.Reuse

/-!
# Sources that fail

A source fails behind the lines that it delivers, and a scanner comes upon that in the middle
of a match. The failure is given once, at the beginning of the piece that was being matched.
Whoever asks again gets this piece, out of what is buffered, and the pieces behind it.
-/

namespace StrongLL

/-! ## Where a match comes upon the failure -/

namespace Automaton

variable {automaton : Automaton} {text : List Char}

/-- A match at the beginning of a text is not over at its end: there is no text, or some state
that all of it leads to reads one more character. -/
def LooksBehind (automaton : Automaton) (text : List Char) : Prop :=
  text = [] ∨
    ∃ id, automaton.Path automaton.start text id ∧ (automaton.state id).transitions ≠ []

end Automaton

namespace Matcher

variable {automaton : Automaton} {matcher : Matcher} {cursor : Cursor} {failure : ReadFailure}

end Matcher

namespace Scanner

open Munch

variable {caseInsensitive : Bool} {patterns : List Pattern} {vocabulary : Vocabulary}
  {scanner after : Scanner} {failure : ReadFailure}

/-- The pieces behind which a match first looks behind the text. -/
structure BreaksOff (automaton : Automaton)
    (before behind : List (List Char × Option (Except Diagnostic Token))) : Prop where
  looks : automaton.LooksBehind (behind.map Prod.fst).flatten
  first : ∀ front rest, before ++ behind = front ++ rest → front.length < before.length →
    ¬ automaton.LooksBehind (rest.map Prod.fst).flatten

theorem BreaksOff.cons {automaton : Automaton}
    {piece : List Char × Option (Except Diagnostic Token)}
    {before behind : List (List Char × Option (Except Diagnostic Token))}
    (breaks : BreaksOff automaton before behind)
    (goesOn : ¬ automaton.LooksBehind ((piece :: (before ++ behind)).map Prod.fst).flatten) :
    BreaksOff automaton (piece :: before) behind := by
  refine ⟨breaks.looks, fun front rest shape shorter => ?_⟩
  cases front with
  | nil =>
      rw [List.nil_append] at shape
      rw [← shape]
      exact goesOn
  | cons head front =>
      obtain ⟨_, shape⟩ := List.cons.inj shape
      exact breaks.first front rest shape (Nat.lt_of_succ_lt_succ shorter)

section

variable (compiled : Vocabulary.ofPatterns patterns caseInsensitive = .ok vocabulary)
include compiled

end

end Scanner

end StrongLL
