import StrongLL.Proofs.Rules.Resolved

/-!
# What the analysis of a table refuses

A table is refused only for sequences that two branches of a decision share, and these
are what is reported.
-/

namespace StrongLL.RuleTable

variable {table : RuleTable} {start : RuleId} {maxDepth : Nat} {vocabulary : Vocabulary}

/-- If no decision is made at a place, its branches share a sequence at every depth. -/
theorem not_disjointAt_of_between (wellFormed : table.WellFormed)
    (productive : table.Productive) (acyclic : WellFounded table.Begins)
    (known : start ∈ table.map (·.id)) {site : Site} (present : site.In table)
    (positive : 1 ≤ maxDepth) {shared : SequenceSet}
    (failed : Decision.between (.prepare table start) maxDepth site.branches = .error shared) :
    (∃ depth, 1 ≤ depth ∧ depth ≤ maxDepth ∧ ∀ sequence, sequence ∈ shared →
      Shared (site.Ahead table (table.IsRoot start) firstCopy) depth sequence) ∧
    ∀ depth, 1 ≤ depth → depth ≤ maxDepth →
      ¬ site.DisjointAt table (table.IsRoot start) anyCopy depth := by
  have describes := describes_site wellFormed productive acyclic known present
  have found := Decision.shared_of_resolve describes (Decision.undecided_nil _)
    (by simp only [List.length_nil]; omega) failed
  simp only [List.length_nil, Nat.zero_add] at found
  refine ⟨found.1, fun depth atLeast atMost disjoint => ?_⟩
  obtain ⟨sequence, left, right, order, inLeft, inRight⟩ := found.2 depth atLeast atMost
  have language : ∀ {branch},
      Heads (site.Ahead table (table.IsRoot start) firstCopy) depth branch sequence →
        site.Language table (table.IsRoot start) anyCopy depth branch sequence :=
    fun heads => Site.Language.mono (fun _ isRoot => isRoot) (fun _ _ => trivial) heads
  exact disjoint left right (Nat.ne_of_lt order) sequence (language inLeft) (language inRight)

/-- All look-ahead that is computed is strong LL look-ahead. A table is thus resolved if
at every decision some depth tells the branches apart, and what is reported of a table
that is not resolved are sequences that two branches of a decision really share. -/
theorem lookAhead_sound_resolve_complete (wellFormed : table.WellFormed)
    (known : start ∈ table.map (·.id)) (recursion : table.checkLeftRecursion = .ok ())
    (productivity : table.checkProductive = .ok ()) (positive : 1 ≤ maxDepth) :
    (∀ site : Site, site.In table → ∀ (branch : Nat) stack, site.branches[branch]? = some stack →
      ∀ depth shared sequence, sequence ∈ (Search.prepare table start).lookAhead depth shared stack →
        site.Language table (table.IsRoot start) anyCopy depth branch sequence) ∧
    ((∀ site : Site, site.In table → ∃ depth, 1 ≤ depth ∧ depth ≤ maxDepth ∧
        site.DisjointAt table (table.IsRoot start) anyCopy depth) →
      ∃ rules, table.resolve start maxDepth vocabulary = .ok rules) ∧
    ∀ defect, table.resolve start maxDepth vocabulary = .error defect →
      ∃ rule ∈ table, ∃ site : Site, site.In table ∧ site.owner = rule.id ∧
        ∃ conflicts, defect = .ambiguity (table.originName rule) conflicts ∧
          ∃ depth, 1 ≤ depth ∧ depth ≤ maxDepth ∧ ∀ conflict ∈ conflicts, ∃ sequence,
            conflict = " ".intercalate (sequence.map vocabulary.describeTerminal) ∧
            ∃ left right, left ≠ right ∧
              site.Language table (table.IsRoot start) anyCopy depth left sequence ∧
              site.Language table (table.IsRoot start) anyCopy depth right sequence := by
  have productive := productive_of_checkProductive wellFormed productivity
  have acyclic := begins_wellFounded recursion
  have language : ∀ {site : Site} {depth branch sequence},
      site.Language table (table.IsRoot start) firstCopy depth branch sequence →
        site.Language table (table.IsRoot start) anyCopy depth branch sequence :=
    fun found => found.mono (fun _ isRoot => isRoot) fun _ _ => trivial
  refine ⟨?_, ?_, ?_⟩
  · intro site present branch stack atBranch depth shared sequence member
    exact language ((Search.mem_lookAhead wellFormed productive acyclic known present
      atBranch).mp member).1
  · intro apart
    cases result : table.resolve start maxDepth vocabulary with
    | ok rules => exact ⟨rules, rfl⟩
    | error defect =>
        obtain ⟨_, _, site, present, _, shared, failed, _⟩ :=
          exists_of_resolve_error wellFormed.distinct result
        obtain ⟨depth, atLeast, atMost, disjoint⟩ := apart site present
        exact ((not_disjointAt_of_between wellFormed productive acyclic known present positive
          failed).2 depth atLeast atMost disjoint).elim
  · intro defect failed
    obtain ⟨rule, inTable, site, present, owner, shared, between, rfl⟩ :=
      exists_of_resolve_error wellFormed.distinct failed
    obtain ⟨⟨depth, atLeast, atMost, members⟩, _⟩ :=
      not_disjointAt_of_between wellFormed productive acyclic known present positive between
    refine ⟨rule, inTable, site, present, owner, _, rfl, depth, atLeast, atMost, ?_⟩
    intro conflict reported
    obtain ⟨sequence, member, rfl⟩ := List.mem_map.mp reported
    obtain ⟨left, right, order, inLeft, inRight⟩ :=
      members sequence (List.mem_of_mem_take member)
    exact ⟨sequence, rfl, left, right, Nat.ne_of_lt order, language inLeft, language inRight⟩

/-- `S = S#1? token 1` and `S#1 = token 0` -/
def optionalTable : RuleTable := [
  { id := 0, name := "S", origin := 0
    alternatives := [[{ symbol := .rule 1, occurs := .optional }, { symbol := .token 1 }]] },
  { id := 1, name := "S#1", origin := 0, isAuxiliary := true
    alternatives := [[{ symbol := .token 0 }]] }]

theorem wellFormed_optionalTable : optionalTable.WellFormed where
  distinct := by decide
  resolved := by simp [optionalTable]
  bounded := by decide

/-- The place where it is decided whether to take an `S#1` -/
def optionalPlace : Site :=
  .loop 0 [] { symbol := .rule 1, occurs := .optional } [{ symbol := .token 1 }]

/-- The token that the search finds ahead of one more copy really stands there. -/
theorem optionalTable_lookAhead :
    optionalPlace.Language optionalTable (optionalTable.IsRoot 0) anyCopy 1 0 [.token 0] := by
  obtain ⟨sound, _⟩ := @lookAhead_sound_resolve_complete optionalTable 0 1
    ⟨[], Graph.empty.finish 0⟩ wellFormed_optionalTable (by decide) rfl rfl (Nat.le_refl 1)
  have present : optionalPlace.In optionalTable := ⟨by decide, by decide⟩
  exact sound optionalPlace present 0 _ rfl 1 none [.token 0] (SequenceSet.contains_iff.mp rfl)

end StrongLL.RuleTable
