import StrongLL.Proofs.Prelude
import StrongLL.Proofs.LookAhead.Decisions
import StrongLL.Rules.Resolved

/-!
# Resolved rules

Resolving a table adds decisions to its productions and changes nothing else. Each
decision is made where the parser has to decide, with the branches of that place, so
it tells apart what can be ahead of them.
-/

namespace StrongLL

open RuleTable

/-- The production without its decisions. -/
def ResolvedRule.toRule (resolved : ResolvedRule) : Rule where
  id := resolved.id
  name := resolved.name
  origin := resolved.origin
  isAuxiliary := resolved.isAuxiliary
  alternatives := resolved.alternatives.map fun elements => elements.map (·.toElement)

/-- The decisions of resolved productions, and where they are made. -/
inductive DecidesAt (rules : List ResolvedRule) : Site → Decision → Prop where
  | choice {resolved : ResolvedRule} {decision : Decision} (member : resolved ∈ rules)
      (made : resolved.decision = some decision) :
      DecidesAt rules (.choice resolved.toRule) decision
  | loop {resolved : ResolvedRule} {before rest : List ResolvedElement}
      {element : ResolvedElement} {decision : Decision} (member : resolved ∈ rules)
      (use : before ++ element :: rest ∈ resolved.alternatives)
      (made : element.decision = some decision) :
      DecidesAt rules
        (.loop resolved.id (before.map (·.toElement)) element.toElement (rest.map (·.toElement)))
        decision

section

variable {search : Search} {maxDepth : Nat} {owner : RuleId}

/-- What is decided between branches, if there is something to decide. -/
def DecidedIf (needed : Bool) (search : Search) (maxDepth : Nat) (branches : List Stack)
    (decision : Option Decision) : Prop :=
  (needed = false ∧ decision = none) ∨ (needed = true ∧ ∃ made, decision = some made ∧
    Decision.between search maxDepth branches = .ok made)

theorem ifNeeded_ok {needed : Bool} {branches : List Stack} {decision : Option Decision}
    (made : Decision.ifNeeded needed search maxDepth branches = .ok decision) :
    DecidedIf needed search maxDepth branches decision := by
  cases needed with
  | false => exact .inl ⟨rfl, (Except.ok.inj made).symm⟩
  | true =>
      obtain ⟨found, between, rfl⟩ := map_eq_ok.mp made
      exact .inr ⟨rfl, found, rfl, between⟩

theorem ifNeeded_error {needed : Bool} {branches : List Stack} {shared : SequenceSet}
    (failed : Decision.ifNeeded needed search maxDepth branches = .error shared) :
    needed = true ∧ Decision.between search maxDepth branches = .error shared := by
  cases needed with
  | false => cases failed
  | true => exact ⟨rfl, map_eq_error.mp failed⟩

/-! ## Elements -/

/-- The decision at an element is made if its bounds leave a choice. -/
def ElementDecided (search : Search) (maxDepth : Nat) (owner : RuleId)
    (element : ResolvedElement) (rest : Alternative) : Prop :=
  DecidedIf element.occurs.isVariable search maxDepth
    (Decision.loopBranches owner element.toElement rest) element.decision

theorem resolveElements_ok {elements : Alternative} {resolved : List ResolvedElement}
    (made : resolveElements search maxDepth owner elements = .ok resolved) :
    resolved.map (·.toElement) = elements ∧
      ∀ before element rest, resolved = before ++ element :: rest →
        ElementDecided search maxDepth owner element (rest.map (·.toElement)) := by
  induction elements generalizing resolved with
  | nil =>
      obtain rfl := Except.ok.inj made
      simp
  | cons element rest ih =>
      have parts : ∃ decision others, resolved = { element with decision } :: others ∧
          resolveElements search maxDepth owner rest = .ok others ∧
            ElementDecided search maxDepth owner { element with decision } rest := by
        obtain ⟨decision, decided, made⟩ := bind_eq_ok.mp made
        obtain ⟨others, more, made⟩ := bind_eq_ok.mp made
        exact ⟨decision, others, (Except.ok.inj made).symm, more, ifNeeded_ok decided⟩
      obtain ⟨decision, others, rfl, more, decided⟩ := parts
      obtain ⟨rfl, later⟩ := ih more
      refine ⟨by simp, fun before other behind shape => ?_⟩
      cases before with
      | nil =>
          obtain ⟨rfl, rfl⟩ := List.cons.inj shape
          exact decided
      | cons first before =>
          obtain ⟨_, rfl⟩ := List.cons.inj shape
          exact later before other behind rfl

theorem resolveElements_error {elements : Alternative} {shared : SequenceSet}
    (failed : resolveElements search maxDepth owner elements = .error shared) :
    ∃ before element rest, elements = before ++ element :: rest ∧
      element.occurs.isVariable = true ∧
        Decision.between search maxDepth (Decision.loopBranches owner element rest) =
          .error shared := by
  induction elements with
  | nil => cases failed
  | cons element rest ih =>
      rcases bind_eq_error.mp failed with here | ⟨_, _, failed⟩
      · exact ⟨[], element, rest, rfl, ifNeeded_error here⟩
      · rcases bind_eq_error.mp failed with more | ⟨_, _, never⟩
        · obtain ⟨before, other, behind, rfl, found⟩ := ih more
          exact ⟨element :: before, other, behind, rfl, found⟩
        · cases never

/-! ## Productions -/

/-- A production is resolved if all its decisions are made. -/
structure RuleDecided (search : Search) (maxDepth : Nat) (resolved : ResolvedRule) : Prop where
  choice : DecidedIf (1 < resolved.alternatives.length) search maxDepth
    (Decision.choiceBranches resolved.toRule) resolved.decision
  elements : ∀ before element rest, before ++ element :: rest ∈ resolved.alternatives →
    ElementDecided search maxDepth resolved.id element (rest.map (·.toElement))

theorem resolveRule_ok {rule : Rule} {resolved : ResolvedRule}
    (made : resolveRule search maxDepth rule = .ok resolved) :
    resolved.toRule = rule ∧ RuleDecided search maxDepth resolved := by
  obtain ⟨decision, decided, made⟩ := bind_eq_ok.mp made
  obtain ⟨alternatives, each, made⟩ := bind_eq_ok.mp made
  obtain rfl := Except.ok.inj made
  have pairs := forall₂_of_mapM_eq_ok each
  have same : alternatives.map (fun elements => elements.map (·.toElement)) =
      rule.alternatives := by
    rw [← List.forall₂_eq_eq_eq, List.forall₂_map_left_iff]
    exact List.Forall₂.flip (pairs.imp fun _ _ found => (resolveElements_ok found).1)
  refine ⟨by rw [ResolvedRule.toRule]; simp only [same], ?_, ?_⟩
  · have length : alternatives.length = rule.alternatives.length := by
      rw [← same, List.length_map]
    simp only [ResolvedRule.toRule, same, length]
    exact ifNeeded_ok decided
  · intro before element rest member
    obtain ⟨declared, _, found⟩ := exists_of_mem_right pairs member
    exact (resolveElements_ok found).2 before element rest rfl

theorem resolveRule_error {table : RuleTable} (distinct : (table.map (·.id)).Nodup)
    {rule : Rule} (inTable : rule ∈ table) {shared : SequenceSet}
    (failed : resolveRule search maxDepth rule = .error shared) :
    ∃ site : Site, site.In table ∧ site.owner = rule.id ∧
      Decision.between search maxDepth site.branches = .error shared := by
  rcases bind_eq_error.mp failed with here | ⟨_, _, failed⟩
  · obtain ⟨several, between⟩ := ifNeeded_error here
    exact ⟨.choice rule, ⟨inTable, by simpa using several⟩, rfl, between⟩
  · rcases bind_eq_error.mp failed with inside | ⟨_, _, never⟩
    · obtain ⟨alternative, chosen, inside⟩ := exists_of_mapM_eq_error inside
      obtain ⟨before, element, rest, rfl, isVariable, between⟩ := resolveElements_error inside
      have lookup := alternatives_of_rule? (rule?_of_mem distinct inTable)
      exact ⟨.loop rule.id before element rest, ⟨lookup ▸ chosen, isVariable⟩, rfl, between⟩
    · cases never

end

/-! ## Tables -/

section

variable {table : RuleTable} {start : RuleId} {maxDepth : Nat} {vocabulary : Vocabulary}

theorem resolveRules_ok {search : Search} {rules : List Rule} {resolved : List ResolvedRule}
    (made : table.resolveRules search maxDepth vocabulary rules = .ok resolved) :
    resolved.map (·.toRule) = rules ∧
      ∀ rule ∈ resolved, RuleDecided search maxDepth rule := by
  induction rules generalizing resolved with
  | nil =>
      obtain rfl := Except.ok.inj made
      simp
  | cons rule rest ih =>
      unfold resolveRules at made
      split at made
      · cases made
      · rename_i first resolvedFirst
        obtain ⟨others, more, made⟩ := bind_eq_ok.mp made
        obtain rfl := Except.ok.inj made
        obtain ⟨same, decided⟩ := resolveRule_ok resolvedFirst
        obtain ⟨sameRest, decidedRest⟩ := ih more
        refine ⟨by rw [List.map_cons, same, sameRest], fun other member => ?_⟩
        rcases List.mem_cons.mp member with rfl | member
        · exact decided
        · exact decidedRest other member

theorem resolveRules_error {search : Search} {rules : List Rule} {defect : Defect}
    (failed : table.resolveRules search maxDepth vocabulary rules = .error defect) :
    ∃ rule ∈ rules, ∃ shared, resolveRule search maxDepth rule = .error shared ∧
      defect = vocabulary.ambiguity (table.originName rule) shared := by
  induction rules with
  | nil => cases failed
  | cons rule rest ih =>
      unfold resolveRules at failed
      split at failed
      · rename_i shared here
        exact ⟨rule, by simp, shared, here, (Except.error.inj failed).symm⟩
      · rcases bind_eq_error.mp failed with more | ⟨_, _, never⟩
        · obtain ⟨other, member, found⟩ := ih more
          exact ⟨other, by simp [member], found⟩
        · cases never

/-- Every decision of a resolved table was made for the place that it is at. -/
theorem between_of_decidesAt (distinct : (table.map (·.id)).Nodup)
    {rules : List ResolvedRule} (made : table.resolve start maxDepth vocabulary = .ok rules)
    {site : Site} {decision : Decision} (decides : DecidesAt rules site decision) :
    site.In table ∧
      Decision.between (.prepare table start) maxDepth site.branches = .ok decision := by
  obtain ⟨same, decided⟩ := resolveRules_ok made
  have inTable : ∀ resolved ∈ rules, resolved.toRule ∈ table := by
    intro resolved member
    rw [← same]
    exact List.mem_map_of_mem member
  cases decides with
  | @choice resolved _ member found =>
      rcases (decided resolved member).choice with ⟨_, none⟩ | ⟨several, made, some, between⟩
      · rw [none] at found
        cases found
      · obtain rfl : made = decision := Option.some.inj (some.symm.trans found)
        refine ⟨⟨inTable resolved member, ?_⟩, between⟩
        simpa [ResolvedRule.toRule] using several
  | @loop resolved before rest element _ member use found =>
      rcases (decided resolved member).elements before element rest use with
        ⟨_, none⟩ | ⟨isVariable, made, some, between⟩
      · rw [none] at found
        cases found
      · obtain rfl : made = decision := Option.some.inj (some.symm.trans found)
        refine ⟨⟨?_, isVariable⟩, between⟩
        have lookup := alternatives_of_rule? (rule?_of_mem distinct (inTable resolved member))
        have shape := List.mem_map_of_mem (f := fun elements => elements.map (·.toElement)) use
        rw [List.map_append, List.map_cons] at shape
        exact lookup ▸ shape

/-- Wherever the parser has to decide a resolved table has a decision. -/
theorem exists_decidesAt {rules : List ResolvedRule}
    (made : table.resolve start maxDepth vocabulary = .ok rules) {site : Site}
    (present : site.In table) : ∃ decision, DecidesAt rules site decision := by
  obtain ⟨rfl, decided⟩ := resolveRules_ok made
  cases site with
  | choice rule =>
      obtain ⟨inTable, several⟩ := present
      obtain ⟨resolved, member, rfl⟩ := List.mem_map.mp inTable
      rcases (decided resolved member).choice with ⟨single, _⟩ | ⟨_, decision, found, _⟩
      · simp only [decide_eq_false_iff_not] at single
        simp only [ResolvedRule.toRule, List.length_map] at several
        exact absurd several single
      · exact ⟨decision, .choice member found⟩
  | loop owner before element rest =>
      obtain ⟨use, isVariable⟩ := present
      obtain ⟨rule, found, inRule⟩ := exists_rule_of_mem_alternatives use
      obtain ⟨inTable, rfl⟩ := mem_of_rule? found
      obtain ⟨resolved, member, rfl⟩ := List.mem_map.mp inTable
      obtain ⟨elements, chosen, shape⟩ := List.mem_map.mp inRule
      obtain ⟨front, back, rfl, rfl, backShape⟩ := List.map_eq_append_iff.mp shape
      obtain ⟨first, others, rfl, rfl, rfl⟩ := List.map_eq_cons_iff.mp backShape
      rcases (decided resolved member).elements front first others chosen with
        ⟨fixed, _⟩ | ⟨_, decision, found, _⟩
      · rw [fixed] at isVariable
        cases isVariable
      · exact ⟨decision, .loop member chosen found⟩

/-- A table that cannot be resolved has a place at which no decision can be made. -/
theorem exists_of_resolve_error (distinct : (table.map (·.id)).Nodup) {defect : Defect}
    (failed : table.resolve start maxDepth vocabulary = .error defect) :
    ∃ rule ∈ table, ∃ site : Site, site.In table ∧ site.owner = rule.id ∧ ∃ shared,
      Decision.between (.prepare table start) maxDepth site.branches = .error shared ∧
        defect = vocabulary.ambiguity (table.originName rule) shared := by
  obtain ⟨rule, inTable, shared, here, rfl⟩ := resolveRules_error failed
  obtain ⟨site, present, owner, between⟩ := resolveRule_error distinct inTable here
  exact ⟨rule, inTable, site, present, owner, shared, between, rfl⟩

/-! ## What decisions tell apart -/

/-- Only branches that are there have something ahead. -/
theorem Site.Ahead.lt_length {root : RuleId → Prop} {copy : Nat → Prop} {site : Site}
    {branch : Nat} {word : List TokenId} (ahead : site.Ahead table root copy branch word) :
    branch < site.branches.length := by
  obtain ⟨inner, outer, inside, _, _⟩ := ahead
  cases inside with
  | choice chosen _ =>
      simpa [Site.branches, Decision.choiceBranches] using
        (List.getElem?_eq_some_iff.mp chosen).1
  | again => simp [Site.branches, Decision.loopBranches]
  | done => simp [Site.branches, Decision.loopBranches]

/-- What the branches of a decision are ahead of. -/
theorem describes_site (wellFormed : table.WellFormed) (productive : table.Productive)
    (acyclic : WellFounded table.Begins) (known : start ∈ table.map (·.id)) {site : Site}
    (present : site.In table) :
    Decision.Describes (.prepare table start) site.branches
      (site.Ahead table (table.IsRoot start) firstCopy) := by
  refine ⟨fun branch stack atBranch depth shared sequence => ?_, fun _ _ ahead => ahead.lt_length⟩
  exact Search.mem_lookAhead wellFormed productive acyclic known present atBranch

/-- The decisions of a resolved table tell apart what can be ahead of their branches
behind first copies. -/
theorem decides_of_decidesAt (wellFormed : table.WellFormed) (productive : table.Productive)
    (acyclic : WellFounded table.Begins) (known : start ∈ table.map (·.id))
    {rules : List ResolvedRule} (made : table.resolve start maxDepth vocabulary = .ok rules)
    {site : Site} {decision : Decision} (decides : DecidesAt rules site decision) :
    Decision.Decides (site.Ahead table (table.IsRoot start) firstCopy) site.branches.length
      decision ∧ decision.depth ≤ maxDepth := by
  obtain ⟨present, between⟩ := between_of_decidesAt wellFormed.distinct made decides
  have result := Decision.decides_of_resolve
    (describes_site wellFormed productive acyclic known present) (Decision.undecided_nil _) between
  simpa using result

end

end StrongLL
