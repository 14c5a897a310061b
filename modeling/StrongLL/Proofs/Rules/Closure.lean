import StrongLL.Proofs.Rules.Language
import StrongLL.Rules.Checks

/-!
# Least sets of productions

Adding productions round by round ends with a set to which no further round
adds, because a round that adds nothing is the last one and no more rounds can
add something than there are productions. The set is contained in every property
that the rounds preserve. For the productions that can be empty this means that
they are those that derive the empty sequence; for the productive ones, that they
derive some sequence.
-/

namespace StrongLL.RuleTable

variable {table : RuleTable} {holds : List RuleId → Rule → Bool}

/-- The known productions are kept from the table in its order. -/
def IsSelection (table : RuleTable) (known : List RuleId) : Prop :=
  ∃ keep : Rule → Bool, known = (table.filter keep).map (·.id)

theorem isSelection_nil : table.IsSelection [] :=
  ⟨fun _ => false, by simp⟩

theorem isSelection_round (known : List RuleId) :
    table.IsSelection (table.round holds known) :=
  ⟨_, rfl⟩

/-- A round keeps what is known, in the same order. -/
theorem IsSelection.sublist_round {known : List RuleId} (selection : table.IsSelection known)
    (holds : List RuleId → Rule → Bool) : known.Sublist (table.round holds known) := by
  obtain ⟨keep, selected⟩ := selection
  -- What is kept is known already, so the round keeps it again.
  have kept : (table.filter keep).filter
      (fun rule => known.contains rule.id || holds known rule) = table.filter keep := by
    apply List.filter_eq_self.mpr
    intro rule member
    have isKnown : rule.id ∈ known := by
      rw [selected]
      exact List.mem_map_of_mem member
    rw [List.contains_iff_mem.mpr isKnown, Bool.true_or]
  have filtered := (List.filter_sublist (p := keep) (l := table)).filter
    (fun rule => known.contains rule.id || holds known rule)
  rw [kept] at filtered
  have image := filtered.map (·.id)
  rwa [← selected] at image

theorem length_round_le (table : RuleTable) (holds : List RuleId → Rule → Bool)
    (known : List RuleId) : (table.round holds known).length ≤ table.length := by
  simpa [round] using List.length_filter_le _ table

theorem round_saturate {rounds : Nat} {known : List RuleId}
    (selection : table.IsSelection known) (enough : table.length ≤ known.length + rounds) :
    table.round holds (table.saturate holds rounds known) =
      table.saturate holds rounds known := by
  have grows := selection.sublist_round holds
  induction rounds generalizing known with
  | zero =>
      have bound := length_round_le table holds known
      exact (grows.eq_of_length_le (by simp only [Nat.add_zero] at enough; omega)).symm
  | succ rounds ih =>
      simp only [saturate]
      split
      · rename_i same
        exact (grows.eq_of_length same.symm).symm
      · rename_i differs
        have longer := grows.length_le
        exact ih (isSelection_round known) (by omega)
          ((isSelection_round known).sublist_round holds)

/-- The least set is closed under the condition. -/
theorem mem_least {rule : Rule} (member : rule ∈ table)
    (fulfilled : holds (table.least holds) rule = true) : rule.id ∈ table.least holds := by
  have fixed : table.round holds (table.least holds) = table.least holds :=
    round_saturate isSelection_nil (by simp)
  rw [← fixed]
  apply List.mem_map_of_mem
  simp [member, fulfilled]

theorem saturate_induction {property : RuleId → Prop}
    (step : ∀ known : List RuleId, (∀ id ∈ known, property id) →
      ∀ rule ∈ table, holds known rule = true → property rule.id)
    {rounds : Nat} {known : List RuleId} (start : ∀ id ∈ known, property id) :
    ∀ id ∈ table.saturate holds rounds known, property id := by
  induction rounds generalizing known with
  | zero => exact start
  | succ rounds ih =>
      simp only [saturate]
      split
      · exact start
      · apply ih
        intro id member
        obtain ⟨rule, kept, rfl⟩ := List.mem_map.mp member
        obtain ⟨inTable, reason⟩ := List.mem_filter.mp kept
        rcases Bool.or_eq_true _ _ |>.mp reason with isKnown | fulfilled
        · exact start _ (List.contains_iff_mem.mp isKnown)
        · exact step known start rule inTable fulfilled

/-- The least set is contained in every property that the condition preserves. -/
theorem least_induction {property : RuleId → Prop}
    (step : ∀ known : List RuleId, (∀ id ∈ known, property id) →
      ∀ rule ∈ table, holds known rule = true → property rule.id) :
    ∀ id ∈ table.least holds, property id :=
  saturate_induction step (by simp)

/-! ## Checks that refuse a production -/

/-- A check that refuses the first production that a test finds passes if there is none. -/
theorem refusal_eq_ok {test : Rule → Bool} {report : Rule → Defect} :
    (match table.find? test with
      | none => .ok ()
      | some rule => .error (report rule) : Except Defect Unit) = .ok () ↔
      ∀ rule ∈ table, test rule = false := by
  cases found : table.find? test with
  | none => simpa using List.find?_eq_none.mp found
  | some rule =>
      have tested := List.find?_some found
      simp only [reduceCtorEq, false_iff]
      exact fun nowhere => by simp [nowhere rule (List.mem_of_find?_eq_some found)] at tested

theorem checkProductive_eq_ok : table.checkProductive = .ok () ↔
    ∀ rule ∈ table, rule.id ∈ table.productive :=
  refusal_eq_ok.trans (by simp)

theorem checkLoops_eq_ok : table.checkLoops = .ok () ↔
    ∀ rule ∈ table, (rule.alternatives.any fun elements =>
      elements.any (·.isIdleLoop table.nullable)) = false :=
  refusal_eq_ok

/-! ## Productions that can be empty -/

theorem mem_nullable {id : RuleId} {alternative : Alternative}
    (chosen : alternative ∈ table.alternatives id)
    (skippable : ∀ element ∈ alternative, element.isSkippable table.nullable = true) :
    id ∈ table.nullable := by
  obtain ⟨rule, found, inRule⟩ := exists_rule_of_mem_alternatives chosen
  obtain ⟨inTable, rfl⟩ := mem_of_rule? found
  apply mem_least inTable
  exact List.any_eq_true.mpr ⟨alternative, inRule, List.all_eq_true.mpr skippable⟩

/-- What it takes for a piece to be empty, given the productions that can be. -/
def CanBeEmpty (nullable : List RuleId) : Form → Prop
  | .symbol (.token _) => False
  | .symbol (.rule id) => id ∈ nullable
  | .copies symbol count => count = 0 ∨ ∃ id ∈ nullable, symbol = .rule id
  | .row elements => ∀ element ∈ elements, element.isSkippable nullable = true

/-- A piece that derives the empty sequence is found to. -/
theorem canBeEmpty_of_derives {form : Form} {word : List TokenId}
    (derived : table.Derives form word) (empty : word = []) :
    CanBeEmpty table.nullable form := by
  induction derived with
  | token id => simp at empty
  | rule chosen _ ih => exact mem_nullable chosen (ih empty)
  | noCopy symbol => exact .inl rfl
  | @oneMore symbol count first others _ _ copyIH _ =>
      have copyEmpty := copyIH (List.append_eq_nil_iff.mp empty).1
      cases symbol with
      | token id => exact copyEmpty.elim
      | rule id => exact .inr ⟨id, copyEmpty, rfl⟩
  | nothing => simp [CanBeEmpty]
  | @element element rest count first others admitted _ _ copiesIH moreIH =>
      obtain ⟨firstEmpty, othersEmpty⟩ := List.append_eq_nil_iff.mp empty
      intro other member
      rcases List.mem_cons.mp member with rfl | member
      · rcases copiesIH firstEmpty with none | ⟨id, inNullable, symbol⟩
        · have optional : other.occurs.min = 0 := by
            have atLeast := admitted.1
            omega
          simp [Element.isSkippable, optional]
        · simp [Element.isSkippable, symbol, inNullable]
      · exact moreIH othersEmpty other member

theorem mem_nullable_of_derives {id : RuleId}
    (derived : table.Derives (.symbol (.rule id)) []) : id ∈ table.nullable :=
  canBeEmpty_of_derives derived rfl

/-! ## Productive productions -/

/-- Elements that can be derived to the end, given the productions that can, have a
derivation with the least number of copies. -/
theorem exists_derives_of_isProductive (known : List RuleId)
    (productive : ∀ id ∈ known, ∃ word, table.Derives (.symbol (.rule id)) word)
    {elements : Alternative} (bounded : ∀ element ∈ elements, element.occurs.isValid = true)
    (fulfilled : ∀ element ∈ elements, element.isProductive known = true) :
    ∃ word, table.Derives (.row elements) word := by
  induction elements with
  | nil => exact ⟨[], .nothing⟩
  | cons element rest ih =>
      obtain ⟨others, more⟩ := ih (fun other member => bounded other (by simp [member]))
        (fun other member => fulfilled other (by simp [member]))
      have admitted := Occurs.admits_min (bounded element (by simp))
      have copies : ∃ first,
          table.Derives (.copies element.symbol element.occurs.min) first := by
        have reason := fulfilled element (by simp)
        unfold Element.isProductive at reason
        cases symbol : element.symbol with
        | token id => exact exists_derives_copies ⟨[id], .token id⟩ _
        | rule id =>
            simp only [symbol, Bool.or_eq_true, beq_iff_eq, List.contains_iff_mem] at reason
            rcases reason with optional | isKnown
            · exact ⟨[], by rw [optional]; exact .noCopy _⟩
            · exact exists_derives_copies (productive id isKnown) _
      obtain ⟨first, copies⟩ := copies
      exact ⟨first ++ others, .element admitted copies more⟩

/-- A production that is found to be productive derives something. -/
theorem exists_derives_of_mem_productive (wellFormed : table.WellFormed) :
    ∀ id ∈ table.productive, ∃ word, table.Derives (.symbol (.rule id)) word := by
  apply least_induction
  intro known productive rule inTable fulfilled
  obtain ⟨alternative, chosen, productiveElements⟩ := List.any_eq_true.mp fulfilled
  obtain ⟨word, derived⟩ := exists_derives_of_isProductive known productive
    (wellFormed.bounded rule inTable alternative chosen)
    (List.all_eq_true.mp productiveElements)
  have lookup := alternatives_of_rule? (rule?_of_mem wellFormed.distinct inTable)
  exact ⟨word, .rule (lookup ▸ chosen) derived⟩

/-- A table that passes the check has a derivation for every production. -/
theorem productive_of_checkProductive (wellFormed : table.WellFormed)
    (passed : table.checkProductive = .ok ()) : table.Productive := by
  intro rule inTable
  have found := checkProductive_eq_ok.mp passed rule inTable
  exact exists_derives_of_mem_productive wellFormed rule.id found

end StrongLL.RuleTable
