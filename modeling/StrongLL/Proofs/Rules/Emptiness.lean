import StrongLL.Proofs.Rules.Closure

/-!
# What the least sets decide

The productions found to be nullable are those that derive the empty sequence, and the
ones found to be productive those that derive some sequence. So a table is refused for a
production without end exactly if it has one, and for an idle loop exactly if it has one;
the first of them is to blame.
-/

namespace StrongLL.RuleTable

variable {table : RuleTable}

/-! ## Standing for nothing -/

/-- A production can stand for nothing if in one of its alternatives every element that has
to be there can. Upper bounds on the copies do not matter for it. -/
inductive Vanishes (table : RuleTable) : Symbol → Prop where
  | rule {id : RuleId} {alternative : Alternative}
      (chosen : alternative ∈ table.alternatives id)
      (needed : ∀ element ∈ alternative, element.occurs.min ≠ 0 →
        Vanishes table element.symbol) :
      Vanishes table (.rule id)

/-- An element can stand for nothing if it may be left out, or if its symbol can. -/
def CanVanish (table : RuleTable) (element : Element) : Prop :=
  element.occurs.min = 0 ∨ table.Vanishes element.symbol

theorem mem_nullable_of_vanishes {symbol : Symbol} (vanishes : table.Vanishes symbol) :
    ∃ id ∈ table.nullable, symbol = .rule id := by
  induction vanishes with
  | @rule id alternative chosen _ ih =>
      refine ⟨id, mem_nullable chosen fun element member => ?_, rfl⟩
      unfold Element.isSkippable
      by_cases optional : element.occurs.min = 0
      · simp [optional]
      · obtain ⟨inner, inNullable, refers⟩ := ih element member optional
        simp [refers, inNullable]

theorem vanishes_of_mem_nullable (distinct : (table.map (·.id)).Nodup) :
    ∀ id ∈ table.nullable, table.Vanishes (.rule id) := by
  apply least_induction
  intro known vanish rule inTable fulfilled
  obtain ⟨alternative, chosen, skippable⟩ := List.any_eq_true.mp fulfilled
  have lookup := alternatives_of_rule? (rule?_of_mem distinct inTable)
  refine .rule (lookup ▸ chosen) fun element member needed => ?_
  have reason := List.all_eq_true.mp skippable element member
  unfold Element.isSkippable at reason
  cases symbol : element.symbol with
  | token id => simp [symbol, needed] at reason
  | rule id => exact vanish id (by simpa [symbol, needed] using reason)

theorem mem_nullable_iff_vanishes (distinct : (table.map (·.id)).Nodup) {id : RuleId} :
    id ∈ table.nullable ↔ table.Vanishes (.rule id) := by
  constructor
  · exact vanishes_of_mem_nullable distinct id
  · intro vanishes
    obtain ⟨_, inNullable, same⟩ := mem_nullable_of_vanishes vanishes
    rwa [Symbol.rule.inj same]

theorem isSkippable_iff_canVanish (distinct : (table.map (·.id)).Nodup) {element : Element} :
    element.isSkippable table.nullable = true ↔ table.CanVanish element := by
  unfold Element.isSkippable CanVanish
  rw [Bool.or_eq_true, beq_iff_eq]
  cases element.symbol with
  | token id =>
      have never : ¬ table.Vanishes (.token id) := nofun
      simp [never]
  | rule id => rw [List.contains_iff_mem, mem_nullable_iff_vanishes distinct]

/-! ## Deriving the empty sequence -/

theorem derives_copies_nil {symbol : Symbol} (copy : table.Derives (.symbol symbol) [])
    (count : Nat) : table.Derives (.copies symbol count) [] := by
  induction count with
  | zero => exact .noCopy symbol
  | succ count ih => exact .oneMore copy ih

/-- Elements derive the empty sequence in their least number of copies. -/
theorem derives_row_nil {elements : Alternative}
    (bounded : ∀ element ∈ elements, element.occurs.isValid = true)
    (needed : ∀ element ∈ elements, element.occurs.min ≠ 0 →
      table.Derives (.symbol element.symbol) []) :
    table.Derives (.row elements) [] := by
  induction elements with
  | nil => exact .nothing
  | cons element rest ih =>
      have more := ih (fun other member => bounded other (List.mem_cons_of_mem _ member))
        (fun other member => needed other (List.mem_cons_of_mem _ member))
      by_cases optional : element.occurs.min = 0
      · exact derives_row_skip optional more
      · exact .element (Occurs.admits_min (bounded element List.mem_cons_self))
          (derives_copies_nil (needed element List.mem_cons_self optional) _) more

/-- What can stand for nothing derives the empty sequence, if all bounds can be met. -/
theorem Vanishes.derives (bounded : ∀ rule ∈ table, ∀ alternative ∈ rule.alternatives,
    ∀ element ∈ alternative, element.occurs.isValid = true) {symbol : Symbol}
    (vanishes : table.Vanishes symbol) : table.Derives (.symbol symbol) [] := by
  induction vanishes with
  | rule chosen _ ih =>
      obtain ⟨rule, found, inRule⟩ := exists_rule_of_mem_alternatives chosen
      exact .rule chosen (derives_row_nil (bounded rule (mem_of_rule? found).1 _ inRule) ih)

theorem mem_nullable_iff (wellFormed : table.WellFormed) {id : RuleId} :
    id ∈ table.nullable ↔ table.Derives (.symbol (.rule id)) [] :=
  ⟨fun member => (vanishes_of_mem_nullable wellFormed.distinct id member).derives
    wellFormed.bounded, mem_nullable_of_derives⟩

/-- With bounds that can be met, an element can stand for nothing exactly if some number of
copies within its bounds derives the empty sequence. -/
theorem canVanish_iff (bounded : ∀ rule ∈ table, ∀ alternative ∈ rule.alternatives,
    ∀ element ∈ alternative, element.occurs.isValid = true)
    (distinct : (table.map (·.id)).Nodup) {element : Element}
    (valid : element.occurs.isValid = true) : table.CanVanish element ↔
      ∃ count, element.occurs.Admits count ∧ table.Derives (.copies element.symbol count) [] := by
  constructor
  · rintro (optional | vanishes)
    · exact ⟨0, ⟨Nat.le_of_eq optional, by simp⟩, .noCopy _⟩
    · exact ⟨_, Occurs.admits_min valid, derives_copies_nil (vanishes.derives bounded) _⟩
  · rintro ⟨count, admitted, derived⟩
    rcases canBeEmpty_of_derives derived rfl with none | ⟨id, inNullable, refers⟩
    · exact .inl (Nat.le_zero.mp (none ▸ admitted.1))
    · exact .inr (refers ▸ vanishes_of_mem_nullable distinct id inNullable)

/-! ## Deriving anything -/

/-- What it takes for a piece to be derived to the end, given the productions that can be. -/
def CanEnd (productive : List RuleId) : Form → Prop
  | .symbol (.token _) => True
  | .symbol (.rule id) => id ∈ productive
  | .copies symbol count => count = 0 ∨ ∀ id, symbol = .rule id → id ∈ productive
  | .row elements => ∀ element ∈ elements, element.isProductive productive = true

/-- A piece that derives something is found to. -/
theorem canEnd_of_derives {form : Form} {word : List TokenId}
    (derived : table.Derives form word) : CanEnd table.productive form := by
  induction derived with
  | token id => trivial
  | @rule id alternative _ chosen _ ih =>
      obtain ⟨rule, found, inRule⟩ := exists_rule_of_mem_alternatives chosen
      obtain ⟨inTable, rfl⟩ := mem_of_rule? found
      apply mem_least inTable
      exact List.any_eq_true.mpr ⟨alternative, inRule, List.all_eq_true.mpr ih⟩
  | noCopy symbol => exact .inl rfl
  | oneMore _ _ copy _ => exact .inr fun id refers => by rwa [refers] at copy
  | nothing => simp [CanEnd]
  | @element element rest count _ _ admitted _ _ copies more =>
      intro other member
      rcases List.mem_cons.mp member with rfl | member
      · unfold Element.isProductive
        cases symbol : other.symbol with
        | token id => rfl
        | rule id =>
            simp only [Bool.or_eq_true, beq_iff_eq, List.contains_iff_mem]
            rcases copies with none | named
            · exact .inl (Nat.le_zero.mp (none ▸ admitted.1))
            · exact .inr (named id symbol)
      · exact more other member

theorem mem_productive_iff (wellFormed : table.WellFormed) {id : RuleId} :
    id ∈ table.productive ↔ ∃ word, table.Derives (.symbol (.rule id)) word :=
  ⟨exists_derives_of_mem_productive wellFormed id, fun ⟨_, derived⟩ => canEnd_of_derives derived⟩

/-! ## The first production to blame -/

/-- The first production of a table that has a property. -/
def IsFirst (table : RuleTable) (property : Rule → Prop) (rule : Rule) : Prop :=
  property rule ∧ ∃ before behind, table = before ++ rule :: behind ∧
    ∀ earlier ∈ before, ¬ property earlier

/-- A check that refuses the first production that a test finds. -/
theorem refuses_first {test : Rule → Bool} {property : Rule → Prop}
    (decides : ∀ rule ∈ table, test rule = true ↔ property rule) (report : Rule → Defect)
    {outcome : Except Defect Unit}
    (checked : outcome = match table.find? test with
      | none => .ok ()
      | some rule => .error (report rule)) :
    ((∃ defect, outcome = .error defect) ↔ ∃ rule ∈ table, property rule) ∧
      ∀ defect, outcome = .error defect →
        ∃ rule, table.IsFirst property rule ∧ defect = report rule := by
  subst checked
  cases found : table.find? test with
  | none =>
      have nowhere := List.find?_eq_none.mp found
      refine ⟨⟨nofun, fun ⟨rule, inTable, holds⟩ => ?_⟩, nofun⟩
      exact absurd ((decides rule inTable).mpr holds) (nowhere rule inTable)
  | some rule =>
      obtain ⟨tested, before, behind, split, earlier⟩ := List.find?_eq_some_iff_append.mp found
      have inTable : rule ∈ table := List.mem_of_find?_eq_some found
      have holds := (decides rule inTable).mp tested
      refine ⟨⟨fun _ => ⟨rule, inTable, holds⟩, fun _ => ⟨_, rfl⟩⟩, fun defect same => ?_⟩
      refine ⟨rule, ⟨holds, before, behind, split, fun other member => ?_⟩, ?_⟩
      · rw [← decides other (split ▸ List.mem_append_left _ member)]
        simpa using earlier other member
      · exact (Except.error.inj same).symm

/-- A production that derives no sequence of tokens at all. -/
def IsEndless (table : RuleTable) (rule : Rule) : Prop :=
  ¬ ∃ word, table.Derives (.symbol (.rule rule.id)) word

/-- A production with an unbounded element that refers to what derives the empty sequence. -/
def Idles (table : RuleTable) (rule : Rule) : Prop :=
  ∃ alternative ∈ rule.alternatives, ∃ element ∈ alternative, element.occurs.max = none ∧
    ∃ id, element.symbol = .rule id ∧ table.Derives (.symbol (.rule id)) []

theorem isIdleLoop_iff (wellFormed : table.WellFormed) {element : Element} :
    element.isIdleLoop table.nullable = true ↔ element.occurs.max = none ∧
      ∃ id, element.symbol = .rule id ∧ table.Derives (.symbol (.rule id)) [] := by
  unfold Element.isIdleLoop
  cases element.symbol with
  | token id => simp
  | rule id => simp [mem_nullable_iff wellFormed]

/-- Exactly the productions that derive the empty sequence are found to be nullable. A table
is refused as unproductive exactly if some production derives no sequence at all, and for a
loop exactly if some unbounded element refers to a production that derives the empty
sequence; what is reported is the origin of the first such production. -/
theorem checks_decide (wellFormed : table.WellFormed) :
    (∀ id, id ∈ table.nullable ↔ table.Derives (.symbol (.rule id)) []) ∧
    (((∃ defect, table.checkProductive = .error defect) ↔ ∃ rule ∈ table, table.IsEndless rule) ∧
      ∀ defect, table.checkProductive = .error defect → ∃ rule, table.IsFirst table.IsEndless rule ∧
        defect = .rule (table.originName rule) .unproductive) ∧
    (((∃ defect, table.checkLoops = .error defect) ↔ ∃ rule ∈ table, table.Idles rule) ∧
      ∀ defect, table.checkLoops = .error defect → ∃ rule, table.IsFirst table.Idles rule ∧
        defect = .infiniteLoop (table.originName rule) []) := by
  refine ⟨fun id => mem_nullable_iff wellFormed, ?_, ?_⟩
  · apply refuses_first (fun rule _ => ?_) _ rfl
    rw [Bool.not_eq_true', ← Bool.not_eq_true, List.contains_iff_mem, mem_productive_iff wellFormed]
    rfl
  · apply refuses_first (fun rule _ => ?_) _ rfl
    simp only [List.any_eq_true, isIdleLoop_iff wellFormed]
    rfl

/-- `S = P{2,2} | token 0`, `P = token 1?`, `L = P* token 0` and `U = token 0 U` -/
def flawedTable : RuleTable := [
  { id := 0, name := "S", origin := 0
    alternatives := [[{ symbol := .rule 1, occurs := ⟨2, some 2⟩ }], [{ symbol := .token 0 }]] },
  { id := 1, name := "P", origin := 1
    alternatives := [[{ symbol := .token 1, occurs := .optional }]] },
  { id := 2, name := "L", origin := 2
    alternatives := [[{ symbol := .rule 1, occurs := .zeroOrMore }, { symbol := .token 0 }]] },
  { id := 3, name := "U", origin := 3
    alternatives := [[{ symbol := .token 0 }, { symbol := .rule 3 }]] }]

/-- Two copies of `P` derive nothing, so `S` does; `U` is endless, and `L` idles. -/
theorem flawedTable_decided :
    flawedTable.Derives (.symbol (.rule 0)) [] ∧
      (∃ rule, flawedTable.IsFirst flawedTable.IsEndless rule ∧
        Defect.rule "U" .unproductive = .rule (flawedTable.originName rule) .unproductive) ∧
      ∃ rule, flawedTable.IsFirst flawedTable.Idles rule ∧
        Defect.infiniteLoop "L" [] = .infiniteLoop (flawedTable.originName rule) [] := by
  have wellFormed : flawedTable.WellFormed :=
    { distinct := by decide, resolved := by simp [flawedTable], bounded := by decide }
  obtain ⟨nullable, ⟨_, endless⟩, _, idle⟩ := checks_decide wellFormed
  exact ⟨(nullable 0).mp (by decide), endless _ rfl, idle _ rfl⟩

end StrongLL.RuleTable
