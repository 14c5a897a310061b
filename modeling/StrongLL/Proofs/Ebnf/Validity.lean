import StrongLL.Ebnf.Validity
import StrongLL.Proofs.Prelude

/-!
# Valid declarations

A declaration that passes the check has distinct numbers, its bounds can be met, and
all that its elements refer to is declared.
-/

namespace StrongLL.Ebnf

variable {vocabulary : Vocabulary} {rules : List RuleId}

/-- Bounds that can be met and references that resolve, down to the innermost group. -/
inductive Element.Valid (vocabulary : Vocabulary) (rules : List RuleId) : Element → Prop where
  | token {id : TokenId} {occurs : Occurs} (bounds : occurs.isValid = true)
      (known : (vocabulary.find? id).isSome = true) : Valid vocabulary rules (.token id occurs)
  | rule {id : RuleId} {occurs : Occurs} (bounds : occurs.isValid = true)
      (known : id ∈ rules) : Valid vocabulary rules (.rule id occurs)
  | group {alternatives : List (List Element)} {occurs : Occurs}
      (bounds : occurs.isValid = true)
      (inner : ∀ elements ∈ alternatives, ∀ element ∈ elements, Valid vocabulary rules element) :
      Valid vocabulary rules (.group alternatives occurs)

theorem Element.Valid.bounds {element : Element} (valid : element.Valid vocabulary rules) :
    element.occurs.isValid = true := by
  cases valid <;> assumption

mutual
theorem Element.valid_of_check : (element : Element) →
    element.check vocabulary rules = .ok () → element.Valid vocabulary rules
  | .token id occurs, passed => by
      unfold Element.check at passed
      obtain ⟨bounds, passed⟩ := of_unless_throw_then passed
      obtain ⟨known, _⟩ := of_unless_throw passed
      exact .token (by simpa using bounds) (by simpa [Option.isSome_iff_ne_none] using known)
  | .rule id occurs, passed => by
      unfold Element.check at passed
      obtain ⟨bounds, passed⟩ := of_unless_throw_then passed
      obtain ⟨known, _⟩ := of_unless_throw passed
      exact .rule (by simpa using bounds) (by simpa using known)
  | .group alternatives occurs, passed => by
      unfold Element.check at passed
      obtain ⟨bounds, passed⟩ := of_unless_throw_then passed
      obtain ⟨_, passed⟩ := of_unless_throw_then passed
      exact .group (by simpa using bounds) (valid_of_checkAlternatives 1 alternatives passed)

theorem valid_of_checkAlternatives : (number : Nat) → (alternatives : List (List Element)) →
    checkAlternatives vocabulary rules number alternatives = .ok () →
      ∀ elements ∈ alternatives, ∀ element ∈ elements, element.Valid vocabulary rules
  | _, [], _ => by simp
  | number, elements :: rest, passed => by
      unfold checkAlternatives at passed
      obtain ⟨_, passed⟩ := of_unless_throw_then passed
      obtain ⟨⟨⟩, here, later⟩ := bind_eq_ok.mp passed
      intro other member
      rcases List.mem_cons.mp member with same | member
      · rw [same]
        exact valid_of_checkElements elements here
      · exact valid_of_checkAlternatives (number + 1) rest later other member

theorem valid_of_checkElements : (elements : List Element) →
    checkElements vocabulary rules elements = .ok () →
      ∀ element ∈ elements, element.Valid vocabulary rules
  | [], _ => by simp
  | element :: rest, passed => by
      unfold checkElements at passed
      obtain ⟨⟨⟩, here, later⟩ := bind_eq_ok.mp passed
      intro other member
      rcases List.mem_cons.mp member with same | member
      · rw [same]
        exact Element.valid_of_check element here
      · exact valid_of_checkElements rest later other member
end

theorem nodup_of_checkNames {taken : List RuleId} {productions : List Production}
    (passed : checkNames taken productions = .ok ()) :
    (productions.map (·.id)).Nodup ∧ ∀ production ∈ productions, production.id ∉ taken := by
  induction productions generalizing taken with
  | nil => simp
  | cons production rest ih =>
      unfold checkNames at passed
      obtain ⟨_, passed⟩ := of_unless_throw_then passed
      obtain ⟨fresh, passed⟩ := of_unless_throw_then passed
      obtain ⟨distinct, apart⟩ := ih passed
      refine ⟨?_, ?_⟩
      · rw [List.map_cons]
        refine List.nodup_cons.mpr ⟨fun member => ?_, distinct⟩
        obtain ⟨other, inside, same⟩ := List.mem_map.mp member
        exact apart other inside (by simp [same])
      · intro other member
        rcases List.mem_cons.mp member with rfl | member
        · simpa using fresh
        · exact fun inTaken => apart other member (List.mem_cons_of_mem _ inTaken)

/-- What a check of productions promises. -/
structure Sound (vocabulary : Vocabulary) (productions : List Production) : Prop where
  distinct : (productions.map (·.id)).Nodup
  valid : ∀ production ∈ productions, ∀ elements ∈ production.alternatives,
    ∀ element ∈ elements, element.Valid vocabulary (productions.map (·.id))

theorem sound_of_validate {productions : List Production}
    (passed : validate vocabulary productions = .ok ()) : Sound vocabulary productions := by
  unfold validate at passed
  obtain ⟨_, passed⟩ := of_unless_throw_then passed
  obtain ⟨⟨⟩, names, passed⟩ := bind_eq_ok.mp passed
  refine ⟨(nodup_of_checkNames names).1, fun production member => ?_⟩
  have checked := forall_of_forM_eq_ok passed production member
  simp only [Production.check] at checked
  split at checked
  · rename_i inside
    obtain ⟨_, inside⟩ := of_unless_throw_then inside
    exact valid_of_checkAlternatives 1 _ inside
  · cases checked

end StrongLL.Ebnf
