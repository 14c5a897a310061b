import StrongLL.Proofs.LookAhead.Plain
import StrongLL.Proofs.Rules.Resolved

/-!
# Where a table is decided

The places at which the parser has to decide are tried in the order of the table, up to the
first at which the branches cannot be told apart. At each of them the outcome is that of
plain look-ahead.
-/

namespace StrongLL

open RuleTable

/-! ## Places in order -/

/-- The places at the elements of an alternative, of which some stand before. -/
def loopSites (owner : RuleId) (before : Alternative) : Alternative → List Site
  | [] => []
  | element :: rest =>
      (if element.occurs.isVariable then [.loop owner before element rest] else []) ++
        loopSites owner (before ++ [element]) rest

/-- The places of a production: the choice between its alternatives, then those at its
elements. -/
def Rule.sites (rule : Rule) : List Site :=
  (if 1 < rule.alternatives.length then [.choice rule] else []) ++
    rule.alternatives.flatMap (loopSites rule.id [])

/-- The places of a table, one production after the other. -/
def RuleTable.sites (table : RuleTable) : List Site := table.flatMap Rule.sites

variable {owner : RuleId} {site : Site}

theorem mem_loopSites {before elements : Alternative} : site ∈ loopSites owner before elements ↔
    ∃ front element rest, elements = front ++ element :: rest ∧
      element.occurs.isVariable = true ∧ site = .loop owner (before ++ front) element rest := by
  induction elements generalizing before with
  | nil => simp [loopSites]
  | cons first others ih =>
      rw [loopSites, List.mem_append, ih]
      constructor
      · rintro (here | ⟨front, element, rest, rfl, isVariable, rfl⟩)
        · split at here
          · rename_i isVariable
            obtain rfl := List.mem_singleton.mp here
            exact ⟨[], first, others, rfl, isVariable, by simp⟩
          · cases here
        · exact ⟨first :: front, element, rest, rfl, isVariable, by simp⟩
      · rintro ⟨front, element, rest, shape, isVariable, rfl⟩
        cases front with
        | nil =>
            obtain ⟨rfl, rfl⟩ := List.cons.inj shape
            exact .inl (by simp [isVariable])
        | cons head front =>
            obtain ⟨rfl, rfl⟩ := List.cons.inj shape
            exact .inr ⟨front, element, rest, rfl, isVariable, by simp⟩

theorem Rule.owner_of_mem_sites {rule : Rule} (member : site ∈ rule.sites) :
    site.owner = rule.id := by
  rcases List.mem_append.mp member with choice | loop
  · split at choice
    · obtain rfl := List.mem_singleton.mp choice
      rfl
    · cases choice
  · obtain ⟨alternative, _, inside⟩ := List.mem_flatMap.mp loop
    obtain ⟨_, _, _, _, _, rfl⟩ := mem_loopSites.mp inside
    rfl

/-- The places of a table are those where the parser has to decide. -/
theorem RuleTable.mem_sites {table : RuleTable} (distinct : (table.map (·.id)).Nodup) :
    site ∈ table.sites ↔ site.In table := by
  rw [RuleTable.sites, List.mem_flatMap]
  constructor
  · rintro ⟨rule, inTable, member⟩
    rcases List.mem_append.mp member with choice | loop
    · split at choice
      · rename_i several
        obtain rfl := List.mem_singleton.mp choice
        exact ⟨inTable, several⟩
      · cases choice
    · obtain ⟨alternative, chosen, inside⟩ := List.mem_flatMap.mp loop
      obtain ⟨front, element, rest, rfl, isVariable, rfl⟩ := mem_loopSites.mp inside
      refine ⟨?_, isVariable⟩
      rw [List.nil_append, alternatives_of_rule? (rule?_of_mem distinct inTable)]
      exact chosen
  · intro present
    cases site with
    | choice rule => exact ⟨rule, present.1, List.mem_append_left _ (by simp [present.2])⟩
    | loop owner before element rest =>
        obtain ⟨use, isVariable⟩ := present
        obtain ⟨rule, found, inRule⟩ := exists_rule_of_mem_alternatives use
        obtain ⟨inTable, rfl⟩ := mem_of_rule? found
        refine ⟨rule, inTable, List.mem_append_right _ (List.mem_flatMap.mpr ⟨_, inRule, ?_⟩)⟩
        exact mem_loopSites.mpr ⟨before, element, rest, rfl, isVariable, by simp⟩

/-! ## Deciding place after place -/

section

variable {search : Search} {maxDepth : Nat} {sites front : List Site} {shared : SequenceSet}

/-- The branches at a place are told apart. -/
def Decided (search : Search) (maxDepth : Nat) (site : Site) : Prop :=
  ∃ decision, Decision.between search maxDepth site.branches = .ok decision

/-- The first of several places at which the branches are not told apart, and what these
share. -/
def FailsAt (search : Search) (maxDepth : Nat) (sites : List Site) (site : Site)
    (shared : SequenceSet) : Prop :=
  ∃ before behind, sites = before ++ site :: behind ∧
    (∀ earlier ∈ before, Decided search maxDepth earlier) ∧
      Decision.between search maxDepth site.branches = .error shared

theorem FailsAt.append_left (fails : FailsAt search maxDepth sites site shared)
    (more : List Site) : FailsAt search maxDepth (sites ++ more) site shared := by
  obtain ⟨before, behind, rfl, decided, failed⟩ := fails
  exact ⟨before, behind ++ more, by simp, decided, failed⟩

theorem FailsAt.append_right (decided : ∀ earlier ∈ front, Decided search maxDepth earlier)
    (fails : FailsAt search maxDepth sites site shared) :
    FailsAt search maxDepth (front ++ sites) site shared := by
  obtain ⟨before, behind, rfl, more, failed⟩ := fails
  refine ⟨front ++ before, behind, by simp, fun earlier member => ?_, failed⟩
  exact (List.mem_append.mp member).elim (decided earlier) (more earlier)

theorem FailsAt.not_decided (fails : FailsAt search maxDepth sites site shared) :
    site ∈ sites ∧ ¬ Decided search maxDepth site := by
  obtain ⟨before, behind, rfl, _, failed⟩ := fails
  refine ⟨by simp, fun ⟨decision, made⟩ => ?_⟩
  cases failed.symm.trans made

theorem FailsAt.unique {other : Site} {reported : SequenceSet}
    (left : FailsAt search maxDepth sites site shared)
    (right : FailsAt search maxDepth sites other reported) : site = other ∧ shared = reported := by
  have same : site = other := by
    have ⟨_, notLeft⟩ := left.not_decided
    have ⟨_, notRight⟩ := right.not_decided
    obtain ⟨before, behind, rfl, decided, _⟩ := left
    obtain ⟨before', behind', shape, decided', _⟩ := right
    rcases List.append_eq_append_iff.mp shape with ⟨between, rfl, rest⟩ | ⟨between, rfl, rest⟩
    · cases between with
      | nil => exact (List.cons.inj rest).1
      | cons head between =>
          obtain rfl : site = head := (List.cons.inj rest).1
          exact (notLeft (decided' site (by simp))).elim
    · cases between with
      | nil => exact (List.cons.inj rest).1.symm
      | cons head between =>
          obtain rfl : other = head := (List.cons.inj rest).1
          exact (notRight (decided other (by simp))).elim
  subst same
  obtain ⟨_, _, _, _, failed⟩ := left
  obtain ⟨_, _, _, _, failed'⟩ := right
  exact ⟨rfl, Except.error.inj (failed.symm.trans failed')⟩

/-- A step succeeds if all its places are decided, and fails at the first that is not. -/
def Walks {α : Type} (search : Search) (maxDepth : Nat) (sites : List Site) :
    Except SequenceSet α → Prop
  | .ok _ => ∀ site ∈ sites, Decided search maxDepth site
  | .error shared => ∃ site, FailsAt search maxDepth sites site shared

variable {α β : Type}

theorem walks_ok (result : α) : Walks search maxDepth [] (.ok result : Except SequenceSet α) :=
  fun _ member => nomatch member

theorem Walks.bind {step : Except SequenceSet α} {next : α → Except SequenceSet β}
    {more : List Site} (first : Walks search maxDepth sites step)
    (others : ∀ result, step = .ok result → Walks search maxDepth more (next result)) :
    Walks search maxDepth (sites ++ more) (step >>= next) := by
  cases step with
  | error shared => exact first.imp fun _ fails => fails.append_left more
  | ok result =>
      have rest := others result rfl
      change Walks search maxDepth (sites ++ more) (next result)
      cases last : next result with
      | error shared =>
          rw [last] at rest
          exact rest.imp fun _ fails => fails.append_right first
      | ok value =>
          rw [last] at rest
          exact fun site member => (List.mem_append.mp member).elim (first site) (rest site)

theorem walks_ifNeeded (needed : Bool) (site : Site) :
    Walks search maxDepth (if needed then [site] else [])
      (Decision.ifNeeded needed search maxDepth site.branches) := by
  cases needed with
  | false => exact walks_ok none
  | true =>
      unfold Decision.ifNeeded
      cases result : Decision.between search maxDepth site.branches with
      | ok decision =>
          intro other member
          obtain rfl := List.mem_singleton.mp member
          exact ⟨decision, result⟩
      | error shared => exact ⟨site, [], [], rfl, by simp, result⟩

theorem walks_mapM {step : α → Except SequenceSet β} {places : α → List Site}
    (each : ∀ item, Walks search maxDepth (places item) (step item)) (items : List α) :
    Walks search maxDepth (items.flatMap places) (items.mapM step) := by
  induction items with
  | nil => exact walks_ok []
  | cons item rest ih =>
      rw [List.mapM_cons, List.flatMap_cons]
      refine (each item).bind fun result _ => ?_
      rw [← List.append_nil (rest.flatMap places)]
      exact ih.bind fun others _ => walks_ok (result :: others)

theorem walks_resolveElements (before elements : Alternative) :
    Walks search maxDepth (loopSites owner before elements)
      (resolveElements search maxDepth owner elements) := by
  induction elements generalizing before with
  | nil => exact walks_ok []
  | cons element rest ih =>
      refine (walks_ifNeeded element.occurs.isVariable (.loop owner before element rest)).bind
        fun decision _ => ?_
      rw [← List.append_nil (loopSites owner (before ++ [element]) rest)]
      exact (ih (before ++ [element])).bind fun others _ => walks_ok _

theorem walks_resolveRule (rule : Rule) :
    Walks search maxDepth rule.sites (resolveRule search maxDepth rule) := by
  have choice : Walks search maxDepth
      (if 1 < rule.alternatives.length then [.choice rule] else [])
      (Decision.ifNeeded (1 < rule.alternatives.length) search maxDepth
        (Site.choice rule).branches) := by
    simpa only [decide_eq_true_eq] using
      walks_ifNeeded (1 < rule.alternatives.length) (.choice rule)
  refine choice.bind fun decision _ => ?_
  rw [← List.append_nil (rule.alternatives.flatMap (loopSites rule.id []))]
  exact (walks_mapM (walks_resolveElements []) rule.alternatives).bind fun _ _ => walks_ok _

end

/-! ## Tables -/

section

variable {table : RuleTable} {start : RuleId} {maxDepth : Nat} {vocabulary : Vocabulary}

/-- Productions are resolved if all places are decided. Otherwise the first that is not is
reported, for the production that it belongs to. -/
theorem walks_resolveRules (search : Search) {rules : List Rule} (known : ∀ rule ∈ rules,
      table.rule? rule.id = some rule) :
    match table.resolveRules search maxDepth vocabulary rules with
    | .ok _ => ∀ site ∈ rules.flatMap Rule.sites, Decided search maxDepth site
    | .error defect => ∃ site shared, FailsAt search maxDepth (rules.flatMap Rule.sites) site shared ∧
        defect = vocabulary.ambiguity (table.originNameOf site.owner) shared := by
  induction rules with
  | nil => exact fun _ member => nomatch member
  | cons rule rest ih =>
      have here : Walks search maxDepth rule.sites (resolveRule search maxDepth rule) :=
        walks_resolveRule rule
      have others := ih fun other member => known other (List.mem_cons_of_mem _ member)
      rw [List.flatMap_cons]
      unfold resolveRules
      cases first : resolveRule search maxDepth rule with
      | error shared =>
          rw [first] at here
          obtain ⟨site, fails⟩ := here
          refine ⟨site, shared, fails.append_left _, ?_⟩
          rw [Rule.owner_of_mem_sites fails.not_decided.1, originNameOf, known rule (by simp)]
      | ok resolved =>
          rw [first] at here
          cases more : table.resolveRules search maxDepth vocabulary rest with
          | error defect =>
              rw [more] at others
              obtain ⟨site, shared, fails, rfl⟩ := others
              exact ⟨site, shared, fails.append_right here, rfl⟩
          | ok rules =>
              rw [more] at others
              exact fun site member =>
                (List.mem_append.mp member).elim (here site) (others site)

/-- A table is refused exactly for the first place at which the branches are not told
apart. -/
theorem resolve_eq_error (distinct : (table.map (·.id)).Nodup) {defect : Defect} :
    table.resolve start maxDepth vocabulary = .error defect ↔
      ∃ site shared, FailsAt (.prepare table start) maxDepth table.sites site shared ∧
        defect = vocabulary.ambiguity (table.originNameOf site.owner) shared := by
  have walks := @walks_resolveRules table maxDepth vocabulary (.prepare table start) table
    fun rule member => rule?_of_mem distinct member
  unfold RuleTable.resolve
  constructor
  · intro failed
    rw [failed] at walks
    exact walks
  · rintro ⟨site, shared, fails, rfl⟩
    cases result : table.resolveRules (.prepare table start) maxDepth vocabulary table with
    | ok rules =>
        rw [result] at walks
        obtain ⟨member, undecided⟩ := fails.not_decided
        exact (undecided (walks site member)).elim
    | error defect =>
        rw [result] at walks
        obtain ⟨other, reported, also, rfl⟩ := walks
        obtain ⟨rfl, rfl⟩ := fails.unique also
        rfl

end

namespace RuleTable

/-- In a table that passes its checks the places are decided as plain look-ahead decides them.
If all are, these are the decisions of the resolved table; otherwise the table is refused for
the first place that is not. -/
theorem resolve_agrees_with_plain {table : RuleTable} {start : RuleId} {maxDepth : Nat}
    {vocabulary : Vocabulary} (wellFormed : table.WellFormed) (known : start ∈ table.map (·.id))
    (recursion : table.checkLeftRecursion = .ok ())
    (productivity : table.checkProductive = .ok ()) :
    (∀ site ∈ table.sites,
      Decision.AgreesWithPlain (.prepare table start) maxDepth site.branches) ∧
    (∀ rules, table.resolve start maxDepth vocabulary = .ok rules → ∀ site decision,
      DecidesAt rules site decision ↔ site ∈ table.sites ∧
        Decision.between (.prepare table start) maxDepth site.branches = .ok decision) ∧
    ∀ defect, table.resolve start maxDepth vocabulary = .error defect ↔
      ∃ site shared, FailsAt (.prepare table start) maxDepth table.sites site shared ∧
        defect = vocabulary.ambiguity (table.originNameOf site.owner) shared := by
  have productive := productive_of_checkProductive wellFormed productivity
  have acyclic := begins_wellFounded recursion
  have distinct := wellFormed.distinct
  refine ⟨fun site member => ?_, fun rules made site decision => ?_, fun defect => ?_⟩
  · have present := (mem_sites distinct).mp member
    exact (describes_site wellFormed productive acyclic known present).agreesWithPlain maxDepth
  · rw [mem_sites distinct]
    constructor
    · exact between_of_decidesAt distinct made
    · rintro ⟨present, between⟩
      obtain ⟨other, decidesAt⟩ := exists_decidesAt made present
      have also := (between_of_decidesAt distinct made decidesAt).2
      obtain rfl := Except.ok.inj (also.symm.trans between)
      exact decidesAt
  · exact resolve_eq_error distinct

/-- `S = S#1? token 0 token 2` and `S#1 = token 0 token 1` -/
def secondTokenTable : RuleTable := [
  { id := 0, name := "S", origin := 0
    alternatives := [[{ symbol := .rule 1, occurs := .optional }, { symbol := .token 0 },
      { symbol := .token 2 }]] },
  { id := 1, name := "S#1", origin := 0, isAuxiliary := true
    alternatives := [[{ symbol := .token 0 }, { symbol := .token 1 }]] }]

theorem wellFormed_secondTokenTable : secondTokenTable.WellFormed where
  distinct := by decide
  resolved := by simp [secondTokenTable]
  bounded := by decide

/-- The place where it is decided whether to take an `S#1` -/
def secondTokenPlace : Site :=
  .loop 0 [] { symbol := .rule 1, occurs := .optional }
    [{ symbol := .token 0 }, { symbol := .token 2 }]

/-- The second token decides, and deeper look-ahead is not tried. -/
theorem secondTokenTable_decided : ∃ decision,
    Decision.between (.prepare secondTokenTable 0) 3 secondTokenPlace.branches = .ok decision ∧
      decision.depth = 2 ∧ decision.select [.token 0, .token 2] = some 1 := by
  obtain ⟨agrees, _⟩ := @resolve_agrees_with_plain secondTokenTable 0 3
    ⟨[], Graph.empty.finish 0⟩ wellFormed_secondTokenTable (by decide) rfl rfl
  have here := agrees secondTokenPlace
    ((mem_sites wellFormed_secondTokenTable.distinct).mpr ⟨by decide, by decide⟩)
  have least : IsLeast {depth | 1 ≤ depth ∧ (Decision.plainConflicts
      (.prepare secondTokenTable 0) secondTokenPlace.branches depth).isEmpty = true} 2 := by
    have shared : (Decision.plainConflicts (.prepare secondTokenTable 0)
      secondTokenPlace.branches 1).isEmpty = false := rfl
    refine ⟨⟨by decide, rfl⟩, fun depth ⟨positive, empty⟩ => ?_⟩
    by_contra less
    obtain rfl : depth = 1 := by omega
    rw [shared] at empty
    cases empty
  obtain ⟨decision, between, depth⟩ := (here.made 2).mpr ⟨by decide, least⟩
  refine ⟨decision, between, depth, here.select decision between 1 _ rfl _ ?_⟩
  rw [depth]
  exact SequenceSet.contains_iff.mp rfl

end RuleTable

end StrongLL
