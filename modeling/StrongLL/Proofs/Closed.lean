import StrongLL.Proofs.Parser.Soundness

/-!
# Closed grammars

A grammar that is built is closed: what it refers to is there, it has a decision wherever its
bounds and alternatives leave a choice, and a decision is one between just the branches that
there are.
-/

namespace StrongLL

namespace Decision

variable {decision : Decision} {count : Nat} {input : Terminals}

/-- At each level there is one set for each of so many branches, and it is one of them that is
picked. -/
structure Splits (decision : Decision) (count : Nat) : Prop where
  sets : ∀ sets ∈ decision.levels, sets.length = count
  picks : ∀ input index, decision.select input = some index → index < count

theorem lt_of_selectFrom {levels : List (List SequenceSet)} {lesser index : Nat}
    (each : ∀ sets ∈ levels, sets.length = count)
    (selected : selectFrom input lesser levels = some index) : index < count := by
  induction levels generalizing lesser with
  | nil => cases selected
  | cons sets deeper ih =>
      obtain ⟨length, others⟩ := List.forall_mem_cons.mp each
      unfold selectFrom at selected
      split at selected
      · cases selected
      · rename_i branch found
        obtain rfl := Option.some.inj selected
        have only : branch ∈ matching (input.take (lesser + 1)) 0 sets := by simp [found]
        obtain ⟨place, set, rfl, present, _⟩ := mem_matching.mp only
        rw [Nat.zero_add, ← length]
        exact (List.getElem?_eq_some_iff.mp present).1
      · exact ih others selected

theorem splits_of_sets (each : ∀ sets ∈ decision.levels, sets.length = count) :
    decision.Splits count :=
  ⟨each, fun _ _ selected => lt_of_selectFrom each selected⟩

theorem Decides.splits {ahead : Nat → List TokenId → Prop}
    (decides : Decides ahead count decision) : decision.Splits count := by
  apply splits_of_sets
  intro sets member
  obtain ⟨lesser, atLesser⟩ := List.mem_iff_getElem?.mp member
  exact (decides.level lesser sets atLesser).length

end Decision

/-- The symbol of an element stands for something, and there is a decision between one more
copy and going on if the bounds leave a choice. -/
structure ResolvedElement.Closed (grammar : Grammar) (element : ResolvedElement) : Prop where
  rule : ∀ id, element.symbol = .rule id → ∃ found, grammar.rule? id = some found
  token : ∀ id, element.symbol = .token id →
    ∃ pattern, grammar.vocabulary.find? id = some pattern
  decided : element.occurs.max ≠ some element.occurs.min →
    ∃ decision, element.decision = some decision
  splits : ∀ decision, element.decision = some decision → decision.Splits 2

/-- A production has an alternative, and a decision between them if it has several. -/
structure ResolvedRule.Closed (grammar : Grammar) (rule : ResolvedRule) : Prop where
  nonempty : 0 < rule.alternatives.length
  decided : 1 < rule.alternatives.length → ∃ decision, rule.decision = some decision
  splits : ∀ decision, rule.decision = some decision → decision.Splits rule.alternatives.length
  elements : ∀ row ∈ rule.alternatives, ∀ element ∈ row, element.Closed grammar

namespace Grammar

variable {declaration : Ebnf.Declaration} {grammar : Grammar}

/-- All that a grammar refers to is there. -/
structure Closed (grammar : Grammar) : Prop where
  start : ∃ found, grammar.rule? grammar.start = some found
  rules : ∀ rule ∈ grammar.rules, rule.Closed grammar

namespace BuiltFrom

variable (from' : BuiltFrom declaration grammar)
include from'

theorem exists_rule {id : RuleId}
    (known : id ∈ (Flatten.table declaration.productions).map (·.id)) :
    ∃ found, grammar.rule? id = some found := by
  obtain ⟨flat, inTable, rfl⟩ := List.mem_map.mp known
  have lookup := RuleTable.rule?_of_mem from'.wellFormed.distinct inTable
  rw [← from'.table_eq, rule?_toRule] at lookup
  obtain ⟨found, lookup, _⟩ := Option.map_eq_some_iff.mp lookup
  exact ⟨found, lookup⟩

/-- A production that derives something has an alternative. -/
theorem alternatives_pos {rule : ResolvedRule} (member : rule ∈ grammar.rules) :
    0 < rule.alternatives.length := by
  have inTable := from'.mem_table member
  obtain ⟨word, derived⟩ := from'.productive rule.toRule inTable
  cases derived with
  | rule chosen _ =>
      have lookup := RuleTable.rule?_of_mem from'.wellFormed.distinct inTable
      rw [RuleTable.alternatives_of_rule? lookup] at chosen
      obtain ⟨row, present, _⟩ := List.mem_map.mp chosen
      exact List.length_pos_of_mem present

theorem closed_element {rule : ResolvedRule} (member : rule ∈ grammar.rules)
    {row : List ResolvedElement} (chosen : row ∈ rule.alternatives) {element : ResolvedElement}
    (inside : element ∈ row) : element.Closed grammar := by
  obtain ⟨before, rest, rfl⟩ := List.append_of_mem inside
  have resolved := from'.wellFormed.resolved rule.toRule (from'.mem_table member) _
    (List.mem_map_of_mem chosen) element.toElement (List.mem_map_of_mem inside)
  constructor
  · exact fun id symbol => from'.exists_rule (resolved id symbol)
  · exact (from'.usable rule member _ chosen element inside).token
  · intro choice
    apply Option.ne_none_iff_exists'.mp
    exact fun undecided => choice (from'.fixed_of_undecided member chosen undecided)
  · intro decision made
    exact (from'.decides (.loop member chosen made)).1.splits

theorem closed : grammar.Closed where
  start := from'.exists_rule from'.known
  rules := by
    intro rule member
    constructor
    · exact from'.alternatives_pos member
    · intro several
      apply Option.ne_none_iff_exists'.mp
      intro undecided
      exact absurd several (Nat.not_lt.mpr (from'.single_of_undecided member undecided))
    · intro decision made
      have splits := (from'.decides (.choice member made)).1.splits
      simpa [Site.branches, Decision.choiceBranches, ResolvedRule.toRule] using splits
    · exact fun row chosen element inside => from'.closed_element member chosen inside

end BuiltFrom

end Grammar

end StrongLL
