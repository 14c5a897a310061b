import StrongLL.Proofs.Automaton.Compile
import StrongLL.Proofs.Automaton.Silent

/-!
# What vocabularies recognize

The automaton of a vocabulary spells exactly the texts of its patterns. A pattern is refused
for matching the empty string exactly if it matches the empty string, for its fragment is
then passed without reading a character.
-/

namespace StrongLL

namespace Fragment

variable {graph : Graph} {first bound : Nat} {fragment : Fragment} {language : Language Char}

/-- A maker of fragments that does not look for the empty string. -/
def Lenient {α : Type} (make : Graph → Except PatternFlaw α) : Prop :=
  ∀ graph, make graph ≠ .error .matchesEmpty

section

variable {make : Graph → Except PatternFlaw (Graph × Fragment)} (lenient : Lenient make)

include lenient

theorem lenient_copies (count : Nat) : Lenient (copies make count) := by
  induction count with
  | zero => exact fun graph => nofun
  | succ count ih =>
      intro graph failed
      rcases bind_eq_error.mp failed with first | ⟨made, _, failed⟩
      · exact lenient graph first
      · have others := of_throw_then_eq_error failed (by simp)
        rcases bind_eq_error.mp others with rest | ⟨_, _, never⟩
        · exact ih made.1 rest
        · cases never

theorem lenient_optionals (count : Nat) : Lenient (optionals make count) := by
  induction count with
  | zero => exact fun graph => nofun
  | succ count ih =>
      intro graph failed
      rcases bind_eq_error.mp failed with first | ⟨made, _, failed⟩
      · exact lenient graph first
      · have others := of_throw_then_eq_error failed (by simp)
        rcases bind_eq_error.mp others with rest | ⟨_, _, never⟩
        · exact ih _ rest
        · cases never

theorem lenient_repetition (min : Nat) (max : Option Nat) : Lenient (repetition make min max) := by
  intro graph failed
  unfold repetition at failed
  have counted := of_throw_then_eq_error failed (by simp)
  rcases bind_eq_error.mp counted with row | ⟨made, _, failed⟩
  · exact lenient_copies lenient min graph row
  · cases max with
    | some max =>
        rcases bind_eq_error.mp failed with rest | ⟨_, _, never⟩
        · exact lenient_optionals lenient _ _ rest
        · cases never
    | none =>
        dsimp only at failed
        split at failed
        · rcases bind_eq_error.mp failed with body | ⟨bodies, _, never⟩
          · exact lenient_copies lenient 1 _ body
          · split at never <;> cases never
        · cases failed

end

mutual
theorem lenient_ofExpr : ∀ expr : Regex.Expr, Lenient (ofExpr expr)
  | .empty, _ => nofun
  | .literal _, _ => nofun
  | .charClass _, _ => nofun
  | .assertion _, _ => nofun
  | .repetition min max body, graph => lenient_repetition (lenient_ofExpr body) min max graph
  | .capture body, graph => lenient_ofExpr body graph
  | .concat parts, graph => by
      intro failed
      rcases bind_eq_error.mp failed with row | ⟨_, _, never⟩
      · exact lenient_ofExprs parts graph row
      · cases never
  | .alternation branches, graph => by
      intro failed
      rcases bind_eq_error.mp failed with row | ⟨_, _, never⟩
      · exact lenient_ofExprs branches graph row
      · cases never

theorem lenient_ofExprs : ∀ exprs : List Regex.Expr, Lenient (ofExprs exprs)
  | [], _ => nofun
  | expr :: rest, graph => by
      intro failed
      rcases bind_eq_error.mp failed with first | ⟨made, _, failed⟩
      · exact lenient_ofExpr expr graph first
      · rcases bind_eq_error.mp failed with others | ⟨_, _, never⟩
        · exact lenient_ofExprs rest made.1 others
        · cases never
end

variable {caseInsensitive : Bool} {pattern : Pattern}

end Fragment

namespace Vocabulary

end Vocabulary

end StrongLL
