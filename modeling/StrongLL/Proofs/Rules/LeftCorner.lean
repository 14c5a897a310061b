import Mathlib.Data.Finset.Card
import Mathlib.Data.List.Chain
import Mathlib.Logic.Relation
import StrongLL.Proofs.Rules.Closure

/-!
# Tables without left recursion

The search for a cycle settles productions one by one: when it leaves a
production without a cycle, every chain of beginnings from there comes to an end.
So if it finds none at all, beginning with another production is well founded,
and each production has a rank above those that it can begin with. No rank
exceeds the number of productions.
-/

namespace StrongLL.RuleTable

variable {table : RuleTable}

/-- The production `id` can begin with the production `next`. -/
def Begins (table : RuleTable) (next id : RuleId) : Prop :=
  next ∈ table.beginnings table.nullable id

/-! ## Beginnings -/

private theorem mem_foldl_dedup {next : RuleId} {found others : List RuleId} :
    next ∈ others.foldl
        (fun found next => if found.contains next then found else found ++ [next]) found ↔
      next ∈ found ∨ next ∈ others := by
  induction others generalizing found with
  | nil => simp
  | cons other rest ih =>
      rw [List.foldl_cons, ih]
      by_cases known : other ∈ found
      · rw [if_pos (List.contains_iff_mem.mpr known)]
        constructor
        · rintro (h | h) <;> simp [h]
        · rintro (h | h)
          · exact .inl h
          · rcases List.mem_cons.mp h with rfl | h
            · exact .inl known
            · exact .inr h
      · rw [if_neg (by simpa using known)]
        simp [or_assoc]

theorem mem_beginnings {nullable : List RuleId} {next id : RuleId} :
    next ∈ table.beginnings nullable id ↔
      ∃ alternative ∈ table.alternatives id, next ∈ leftCorners nullable alternative := by
  unfold beginnings
  rw [mem_foldl_dedup]
  simp

theorem mem_leftCorners_cons {nullable : List RuleId} {element : Element}
    {rest : Alternative} {next : RuleId} :
    next ∈ leftCorners nullable (element :: rest) ↔ element.symbol = .rule next ∨
      (element.isSkippable nullable = true ∧ next ∈ leftCorners nullable rest) := by
  rw [leftCorners]
  cases element.symbol with
  | token id => simp
  | rule id => simp only [List.mem_cons, Symbol.rule.injEq, List.mem_ite_nil_right, @eq_comm _ next]

/-- A production stands at the beginning exactly if all elements before some use of it can
be skipped. -/
theorem mem_leftCorners {nullable : List RuleId} {alternative : Alternative} {next : RuleId} :
    next ∈ leftCorners nullable alternative ↔
      ∃ before element rest, alternative = before ++ element :: rest ∧
        element.symbol = .rule next ∧ ∀ other ∈ before, other.isSkippable nullable = true := by
  induction alternative with
  | nil => simp [leftCorners]
  | cons first others ih =>
      rw [mem_leftCorners_cons, ih]
      constructor
      · rintro (refers | ⟨skippable, before, element, rest, rfl, refers, skipped⟩)
        · exact ⟨[], first, others, rfl, refers, by simp⟩
        · exact ⟨first :: before, element, rest, rfl, refers,
            List.forall_mem_cons.mpr ⟨skippable, skipped⟩⟩
      · rintro ⟨before, element, rest, split, refers, skipped⟩
        rcases List.cons_eq_append_iff.mp split with ⟨rfl, same⟩ | ⟨before, rfl, rfl⟩
        · obtain ⟨rfl, rfl⟩ := List.cons.inj same
          exact .inl refers
        · obtain ⟨skippable, skipped⟩ := List.forall_mem_cons.mp skipped
          exact .inr ⟨skippable, before, element, rest, rfl, refers, skipped⟩

theorem begins_of_skippable {before rest : Alternative} {element : Element} {next id : RuleId}
    (use : before ++ element :: rest ∈ table.alternatives id)
    (skippable : ∀ other ∈ before, other.isSkippable table.nullable = true)
    (refers : element.symbol = .rule next) : table.Begins next id :=
  mem_beginnings.mpr ⟨_, use, mem_leftCorners.mpr ⟨_, _, _, rfl, refers, skippable⟩⟩

/-! ## The search for a cycle -/

section

variable {edges : RuleId → List RuleId}

/-- From the productions that were visited and left again, every chain ends. -/
def Settled (edges : RuleId → List RuleId) (path visited : List RuleId) : Prop :=
  ∀ id ∈ visited, id ∉ path → Acc (fun next id => next ∈ edges id) id

/-- What a search without a cycle has done: it visited `target` and forgot
nothing. -/
structure Visits (edges : RuleId → List RuleId) (path visited : List RuleId)
    (target : RuleId) (visited' : List RuleId) : Prop where
  settled : Settled edges path visited'
  kept : ∀ id ∈ visited, id ∈ visited'
  reached : target ∈ visited'

/-- Following edges without a cycle settles all their targets. -/
theorem followEdges_none
    {search : List RuleId → RuleId → List RuleId × Option (List RuleId)}
    {path : List RuleId} {targets : List RuleId}
    (sound : ∀ visited target visited', target ∉ path → Settled edges path visited →
      search visited target = (visited', none) → Visits edges path visited target visited')
    {visited visited' : List RuleId} (settled : Settled edges path visited)
    (none : followEdges search path visited targets = (visited', none)) :
    Settled edges path visited' ∧ (∀ id ∈ visited, id ∈ visited') ∧
      ∀ target ∈ targets, Acc (fun next id => next ∈ edges id) target := by
  induction targets generalizing visited with
  | nil =>
      obtain rfl : visited = visited' := by simpa [followEdges] using none
      exact ⟨settled, fun _ member => member, by simp⟩
  | cons target rest ih =>
      unfold followEdges at none
      split at none
      · simp at none
      · rename_i offPath
        have offPath : target ∉ path := by simpa using offPath
        split at none
        · simp at none
        · rename_i between searched
          have visits := sound _ _ _ offPath settled searched
          obtain ⟨restSettled, restKept, restAcc⟩ := ih visits.settled none
          refine ⟨restSettled, fun id member => restKept id (visits.kept id member), ?_⟩
          intro other member
          rcases List.mem_cons.mp member with rfl | member
          · exact visits.settled _ visits.reached offPath
          · exact restAcc other member

/-- A search from one production that finds no cycle settles it. The fuel is not
used up, since no production stands twice on the path. -/
theorem findCycleFrom_none {ids : List RuleId} (outside : ∀ id, id ∉ ids → edges id = [])
    {fuel : Nat} {path : List RuleId} (distinct : path.Nodup) (known : ∀ id ∈ path, id ∈ ids)
    (enough : ids.length < fuel + path.length) {visited visited' : List RuleId}
    {current : RuleId} (offPath : current ∉ path) (settled : Settled edges path visited)
    (none : findCycleFrom edges fuel path visited current = (visited', none)) :
    Visits edges path visited current visited' := by
  induction fuel generalizing path visited visited' current with
  | zero =>
      have bound := (List.subperm_of_subset distinct known).length_le
      omega
  | succ fuel ih =>
      unfold findCycleFrom at none
      split at none
      · rename_i seen
        obtain rfl : visited = visited' := by simpa using none
        exact ⟨settled, fun _ member => member, by simpa using seen⟩
      · have entered : Settled edges (current :: path) (current :: visited) := by
          intro id member off
          rw [List.mem_cons, not_or] at off
          exact settled id (List.mem_of_ne_of_mem off.1 member) off.2
        have followed : Settled edges (current :: path) visited' ∧
            (∀ id ∈ current :: visited, id ∈ visited') ∧
              ∀ target ∈ edges current, Acc (fun next id => next ∈ edges id) target := by
          by_cases inside : current ∈ ids
          · refine followEdges_none (fun seen target seen' off seenSettled searched => ?_)
              entered none
            apply ih (List.nodup_cons.mpr ⟨offPath, distinct⟩) _ _ off seenSettled searched
            · intro id member
              rcases List.mem_cons.mp member with rfl | member
              · exact inside
              · exact known id member
            · simp only [List.length_cons]
              omega
          · rw [outside current inside] at none ⊢
            obtain rfl : current :: visited = visited' := by simpa [followEdges] using none
            exact ⟨entered, fun _ member => member, by simp⟩
        obtain ⟨left, kept, targets⟩ := followed
        refine ⟨fun id member off => ?_, fun id member => kept id (by simp [member]),
          kept current (by simp)⟩
        by_cases same : id = current
        · subst same
          exact Acc.intro id targets
        · exact left id member (by simp [same, off])

/-- Where no cycle is found, every chain of edges ends. -/
theorem wellFounded_of_findCycle {edges : RuleId → List RuleId}
    (outside : ∀ id, id ∉ table.map (·.id) → edges id = [])
    (none : table.findCycle edges = none) :
    WellFounded fun next id => next ∈ edges id := by
  have searched : followEdges (findCycleFrom edges (table.length + 1) []) [] []
      (table.map (·.id)) = ((followEdges (findCycleFrom edges (table.length + 1) []) [] []
        (table.map (·.id))).1, Option.none) := Prod.ext rfl none
  have search := followEdges_none (fun visited target visited' off settled found =>
    findCycleFrom_none outside List.nodup_nil (by simp) (by simp) off settled found)
    (by simp [Settled]) searched
  constructor
  intro id
  by_cases inside : id ∈ table.map (·.id)
  · exact search.2.2 id inside
  · exact Acc.intro id (by simp [outside id inside])

end

theorem begins_wellFounded (passed : table.checkLeftRecursion = .ok ()) :
    WellFounded table.Begins := by
  cases found : table.leftRecursion? with
  | some cycle => simp [checkLeftRecursion, found] at passed
  | none =>
      refine wellFounded_of_findCycle (fun id outside => ?_) found
      apply List.eq_nil_iff_forall_not_mem.mpr
      intro next member
      obtain ⟨alternative, chosen, _⟩ := mem_beginnings.mp member
      obtain ⟨rule, lookup, _⟩ := exists_rule_of_mem_alternatives chosen
      obtain ⟨inTable, rfl⟩ := mem_of_rule? lookup
      exact outside (List.mem_map_of_mem inTable)

/-! ## Cycles that are found -/

section

variable {edges : RuleId → List RuleId}

/-- Productions of which each leads to the next, from one of them back to itself. -/
def IsCycle (edges : RuleId → List RuleId) (cycle : List RuleId) : Prop :=
  (∃ first inner, cycle = first :: (inner ++ [first])) ∧
    cycle.IsChain fun id next => next ∈ edges id

private theorem takeWhile_ne_prefix_of_mem {path : List RuleId} {target : RuleId}
    (onPath : target ∈ path) : path.takeWhile (· ≠ target) ++ [target] <+: path := by
  induction path with
  | nil => cases onPath
  | cons id path ih =>
      rw [List.takeWhile_cons]
      by_cases same : id = target
      · simp [same]
      · simpa [same] using ih (List.mem_of_ne_of_mem (Ne.symm same) onPath)

/-- An edge from the end of a path back to it closes a cycle. The path is in reverse, so the
cycle is what stands in front of the target, turned round. -/
theorem isCycle_closeCycle {path : List RuleId} {target : RuleId}
    (chain : (target :: path).IsChain fun next id => next ∈ edges id) (onPath : target ∈ path) :
    IsCycle edges (closeCycle target path) := by
  refine ⟨⟨target, _, rfl⟩, ?_⟩
  have turned : closeCycle target path =
      (target :: (path.takeWhile (· ≠ target) ++ [target])).reverse := by
    simp [closeCycle]
  rw [turned, List.isChain_reverse]
  exact chain.prefix (List.prefix_cons_inj target |>.mpr (takeWhile_ne_prefix_of_mem onPath))

/-- Where following edges ends with a cycle it is one, if an edge back to the path closes
one and a search does not end with anything else. -/
theorem isCycle_of_followEdges
    {search : List RuleId → RuleId → List RuleId × Option (List RuleId)}
    {path targets : List RuleId}
    (closes : ∀ target ∈ targets, target ∈ path → IsCycle edges (closeCycle target path))
    (sound : ∀ visited, ∀ target ∈ targets, ∀ cycle, (search visited target).2 = some cycle →
      IsCycle edges cycle)
    {visited cycle : List RuleId}
    (found : (followEdges search path visited targets).2 = some cycle) : IsCycle edges cycle := by
  induction targets generalizing visited with
  | nil => cases found
  | cons target rest ih =>
      unfold followEdges at found
      split at found
      · rename_i onPath
        obtain rfl := Option.some.inj found
        exact closes target (by simp) (List.contains_iff_mem.mp onPath)
      · split at found
        · rename_i searched
          obtain rfl := Option.some.inj found
          exact sound visited target (by simp) _ (by rw [searched])
        · exact ih (fun target member => closes target (List.mem_cons_of_mem _ member))
            (fun visited target member => sound visited target (List.mem_cons_of_mem _ member))
            found

/-- On a path each production leads to the one in front of it, and so the search goes on. -/
theorem isCycle_of_findCycleFrom {fuel : Nat} {path visited cycle : List RuleId}
    {current : RuleId} (chain : (current :: path).IsChain fun next id => next ∈ edges id)
    (found : (findCycleFrom edges fuel path visited current).2 = some cycle) :
    IsCycle edges cycle := by
  induction fuel generalizing path visited cycle current with
  | zero => cases found
  | succ fuel ih =>
      unfold findCycleFrom at found
      split at found
      · cases found
      · have longer : ∀ target ∈ edges current,
            (target :: current :: path).IsChain fun next id => next ∈ edges id :=
          fun target edge => chain.cons_cons edge
        exact isCycle_of_followEdges (fun target edge => isCycle_closeCycle (longer target edge))
          (fun _ target edge _ => ih (longer target edge)) found

theorem isCycle_of_findCycle {cycle : List RuleId} (found : table.findCycle edges = some cycle) :
    IsCycle edges cycle :=
  isCycle_of_followEdges (fun _ _ member => absurd member List.not_mem_nil)
    (fun _ _ _ _ => isCycle_of_findCycleFrom (.singleton _)) found

/-- Along a cycle chains of edges do not end. -/
theorem IsCycle.not_wellFounded {cycle : List RuleId} (isCycle : IsCycle edges cycle) :
    ¬ WellFounded fun next id => next ∈ edges id := by
  intro acyclic
  obtain ⟨⟨first, inner, rfl⟩, chain⟩ := isCycle
  rw [← List.cons_append] at chain
  have back : (first :: inner).reverse.IsChain fun next id => next ∈ edges id := by
    rw [List.isChain_reverse]
    exact chain.left_of_append
  have closing := chain.rel_getLast_head_of_append (by simp) (by simp)
  apply acyclic.asymmetricₙ (by simp) back
  rw [List.getLast_reverse, List.head_reverse]
  simpa using closing

end

/-- The check finds nothing exactly if every chain of beginnings comes to an end. -/
theorem checkLeftRecursion_eq_ok :
    table.checkLeftRecursion = .ok () ↔ WellFounded table.Begins := by
  refine ⟨begins_wellFounded, fun acyclic => ?_⟩
  unfold checkLeftRecursion
  cases found : table.leftRecursion? with
  | none => rfl
  | some cycle => exact absurd acyclic (isCycle_of_findCycle found).not_wellFounded

/-! ## Ranks -/

open Classical in
/-- The number of productions that chains of beginnings lead to. -/
noncomputable def rank (table : RuleTable) (id : RuleId) : Nat :=
  ((table.map (·.id)).toFinset.filter fun other =>
    Relation.TransGen table.Begins other id).card

theorem rank_le_length (id : RuleId) : table.rank id ≤ table.length := by
  classical
  calc table.rank id ≤ (table.map (·.id)).toFinset.card := Finset.card_filter_le _ _
    _ ≤ (table.map (·.id)).length := List.toFinset_card_le _
    _ = table.length := List.length_map _

/-- Without left recursion a production ranks above those it begins with. -/
theorem rank_lt_rank (wellFounded : WellFounded table.Begins) {next id : RuleId}
    (inside : next ∈ table.map (·.id)) (begins : table.Begins next id) :
    table.rank next < table.rank id := by
  classical
  apply Finset.card_lt_card
  refine Finset.ssubset_iff_subset_ne.mpr ⟨?_, ?_⟩
  · intro other member
    obtain ⟨known, chain⟩ := Finset.mem_filter.mp member
    exact Finset.mem_filter.mpr ⟨known, chain.tail begins⟩
  · intro same
    have counted : next ∈ (table.map (·.id)).toFinset.filter
        fun other => Relation.TransGen table.Begins other next := by
      rw [same]
      exact Finset.mem_filter.mpr ⟨List.mem_toFinset.mpr inside, .single begins⟩
    have cycle := (Finset.mem_filter.mp counted).2
    exact wellFounded.transGen.asymmetric _ _ cycle cycle

end StrongLL.RuleTable
