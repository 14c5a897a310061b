import StrongLL.Proofs.Rules.Emptiness
import StrongLL.Proofs.Rules.LeftCorner

/-!
# Left recursion is found exactly

A table is left recursive if a chain of productions, each with the next at the beginning of
one of its alternatives, comes back to where it started. The search misses no such chain,
though it enters each production once only, and what it reports is one.
-/

namespace StrongLL.RuleTable

variable {table : RuleTable}

/-- An alternative of `rule` refers to `next` behind nothing but elements that can stand for
nothing. -/
def LeadsTo (table : RuleTable) (rule next : Rule) : Prop :=
  ∃ before element rest, before ++ element :: rest ∈ rule.alternatives ∧
    element.symbol = .rule next.id ∧ ∀ other ∈ before, table.CanVanish other

/-- Productions of which each leads to the next, from one of them back to itself. -/
structure IsLeftRecursion (table : RuleTable) (chain : List Rule) : Prop where
  closed : ∃ first inner, chain = first :: (inner ++ [first])
  inTable : ∀ rule ∈ chain, rule ∈ table
  leads : chain.IsChain table.LeadsTo

theorem leadsTo_iff (distinct : (table.map (·.id)).Nodup) {rule next : Rule}
    (inTable : rule ∈ table) : table.LeadsTo rule next ↔ table.Begins next.id rule.id := by
  unfold Begins
  rw [mem_beginnings, alternatives_of_rule? (rule?_of_mem distinct inTable)]
  simp only [mem_leftCorners, isSkippable_iff_canVanish distinct]
  constructor
  · rintro ⟨before, element, rest, use, refers, vanish⟩
    exact ⟨_, use, before, element, rest, rfl, refers, vanish⟩
  · rintro ⟨_, use, before, element, rest, rfl, refers, vanish⟩
    exact ⟨before, element, rest, use, refers, vanish⟩

/-- Of two productions in a row the first has an alternative, so it is in the table. -/
theorem mem_of_begins {next id : RuleId} (begins : table.Begins next id) :
    ∃ rule ∈ table, rule.id = id := by
  obtain ⟨_, chosen, _⟩ := mem_beginnings.mp begins
  obtain ⟨rule, found, _⟩ := exists_rule_of_mem_alternatives chosen
  exact ⟨rule, mem_of_rule? found⟩

/-- In a chain of numbers all but the last one are those of productions of the table. -/
theorem exists_rules_of_isChain {ids : List RuleId} {last : RuleId}
    (chain : (ids ++ [last]).IsChain fun id next => table.Begins next id) :
    ∃ rules : List Rule, rules.map (·.id) = ids ∧ ∀ rule ∈ rules, rule ∈ table := by
  induction ids with
  | nil => exact ⟨[], rfl, by simp⟩
  | cons id ids ih =>
      obtain ⟨rules, rfl, inTable⟩ := ih chain.tail
      have successor : ∃ next, table.Begins next id := by
        cases rules with
        | nil => exact ⟨last, chain.rel⟩
        | cons rule rules => exact ⟨rule.id, chain.rel⟩
      obtain ⟨rule, member, rfl⟩ := mem_of_begins successor.choose_spec
      exact ⟨rule :: rules, rfl, List.forall_mem_cons.mpr ⟨member, inTable⟩⟩

/-- A chain of productions is a cycle of their numbers. -/
theorem IsLeftRecursion.isCycle (distinct : (table.map (·.id)).Nodup) {chain : List Rule}
    (recursion : table.IsLeftRecursion chain) :
    IsCycle (table.beginnings table.nullable) (chain.map (·.id)) := by
  constructor
  · obtain ⟨first, inner, rfl⟩ := recursion.closed
    exact ⟨first.id, inner.map (·.id), by simp⟩
  · rw [List.isChain_map]
    exact recursion.leads.imp_of_mem_imp fun rule next member _ leads =>
      (leadsTo_iff distinct (recursion.inTable rule member)).mp leads

/-- A cycle of numbers is that of a chain of productions. -/
theorem exists_isLeftRecursion (distinct : (table.map (·.id)).Nodup) {cycle : List RuleId}
    (isCycle : IsCycle (table.beginnings table.nullable) cycle) :
    ∃ first rest, table.IsLeftRecursion (first :: rest) ∧
      cycle = (first :: rest).map (·.id) := by
  obtain ⟨⟨start, inner, rfl⟩, chain⟩ := isCycle
  obtain ⟨rules, same, inTable⟩ := @exists_rules_of_isChain table (start :: inner) start chain
  obtain ⟨first, inner, rfl, rfl, rfl⟩ := List.map_eq_cons_iff.mp same
  have closedUp : ∀ rule ∈ first :: (inner ++ [first]), rule ∈ table := by
    intro rule member
    exact inTable rule (by simpa [or_comm, or_assoc] using member)
  refine ⟨first, inner ++ [first], ⟨⟨first, inner, rfl⟩, closedUp, ?_⟩, by simp⟩
  have mapped : ((first :: (inner ++ [first])).map (·.id)).IsChain
      fun id next => table.Begins next id := by
    simpa [Begins] using chain
  rw [List.isChain_map] at mapped
  exact mapped.imp_of_mem_imp fun rule next member _ begins =>
    (leadsTo_iff distinct (closedUp rule member)).mpr begins

theorem nameOf_of_mem (distinct : (table.map (·.id)).Nodup) {rule : Rule}
    (inTable : rule ∈ table) : table.nameOf rule.id = rule.name := by
  simp [nameOf, rule?_of_mem distinct inTable]

/-- What the check reports is a chain that comes back. -/
theorem exists_of_checkLeftRecursion (distinct : (table.map (·.id)).Nodup) {defect : Defect}
    (failed : table.checkLeftRecursion = .error defect) :
    ∃ first rest, table.IsLeftRecursion (first :: rest) ∧
      defect = .infiniteLoop (table.originName first) ((first :: rest).map (·.name)) := by
  unfold checkLeftRecursion at failed
  split at failed
  · cases failed
  · rename_i cycle found
    obtain ⟨first, rest, recursion, rfl⟩ :=
      exists_isLeftRecursion distinct (isCycle_of_findCycle found)
    refine ⟨first, rest, recursion, ?_⟩
    have origin : table.originNameOf first.id = table.originName first := by
      simp [originNameOf, rule?_of_mem distinct (recursion.inTable first List.mem_cons_self)]
    have names : ((first :: rest).map (·.id)).map table.nameOf = (first :: rest).map (·.name) := by
      rw [List.map_map]
      exact List.map_congr_left fun rule member =>
        nameOf_of_mem distinct (recursion.inTable rule member)
    rw [← names, ← origin]
    exact (Except.error.inj failed).symm

/-- A table is refused for left recursion exactly if a chain of productions, each with the next
behind nothing but what can stand for nothing, comes back to where it started. What is
reported are the names along such a chain, and the name of the declared production that the
first one belongs to. Where all bounds can be met, standing for nothing is deriving the empty
sequence in some number of copies within the bounds. -/
theorem checkLeftRecursion_exact (distinct : (table.map (·.id)).Nodup) :
    ((∃ defect, table.checkLeftRecursion = .error defect) ↔
      ∃ chain, table.IsLeftRecursion chain) ∧
    (∀ defect, table.checkLeftRecursion = .error defect →
      ∃ first rest, table.IsLeftRecursion (first :: rest) ∧
        defect = .infiniteLoop (table.originName first) ((first :: rest).map (·.name)) ∧
        ∀ declared ∈ table, declared.id = first.origin →
          table.originName first = declared.name) ∧
    ((∀ rule ∈ table, ∀ alternative ∈ rule.alternatives, ∀ element ∈ alternative,
        element.occurs.isValid = true) →
      ∀ element : Element, element.occurs.isValid = true → (table.CanVanish element ↔
        ∃ count, element.occurs.Admits count ∧
          table.Derives (.copies element.symbol count) [])) := by
  refine ⟨⟨?_, ?_⟩, ?_, fun bounded element valid => canVanish_iff bounded distinct valid⟩
  · rintro ⟨defect, failed⟩
    obtain ⟨first, rest, recursion, _⟩ := exists_of_checkLeftRecursion distinct failed
    exact ⟨_, recursion⟩
  · rintro ⟨chain, recursion⟩
    cases outcome : table.checkLeftRecursion with
    | ok =>
        have acyclic := checkLeftRecursion_eq_ok.mp outcome
        exact absurd acyclic (recursion.isCycle distinct).not_wellFounded
    | error defect => exact ⟨defect, rfl⟩
  · intro defect failed
    obtain ⟨first, rest, recursion, reported⟩ := exists_of_checkLeftRecursion distinct failed
    refine ⟨first, rest, recursion, reported, fun declared inTable same => ?_⟩
    simp [originName, ← same, rule?_of_mem distinct inTable]

/-- `S = N Q`, `N = token 0?`, `Q = Q#1`, and `Q#1 = token 1? S | token 2` -/
def hiddenTable : RuleTable := [
  { id := 0, name := "S", origin := 0
    alternatives := [[{ symbol := .rule 1 }, { symbol := .rule 2 }]] },
  { id := 1, name := "N", origin := 1
    alternatives := [[{ symbol := .token 0, occurs := .optional }]] },
  { id := 2, name := "Q", origin := 2, alternatives := [[{ symbol := .rule 3 }]] },
  { id := 3, name := "Q#1", origin := 2, isAuxiliary := true
    alternatives := [
      [{ symbol := .token 1, occurs := .optional }, { symbol := .rule 0 }],
      [{ symbol := .token 2 }]] }]

/-- The chain leads behind what can stand for nothing, in `S` as well as in `Q#1`. -/
theorem hiddenTable_recursion : ∃ first rest, hiddenTable.IsLeftRecursion (first :: rest) ∧
    Defect.infiniteLoop "S" ["S", "Q", "Q#1", "S"] =
      .infiniteLoop (hiddenTable.originName first) ((first :: rest).map (·.name)) := by
  obtain ⟨_, reported, _⟩ := @checkLeftRecursion_exact hiddenTable (by decide)
  obtain ⟨first, rest, recursion, names, _⟩ := reported _ rfl
  exact ⟨first, rest, recursion, names⟩

end StrongLL.RuleTable
