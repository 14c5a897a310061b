import StrongLL.Proofs.LookAhead.Sequences

/-!
# Decisions tell branches apart

A decision is made with the least depth at which no two branches share a sequence.
Each of its levels holds the sequences of that depth which extend a shared sequence
of the level before; whatever two branches share at some depth extends what they
share at lesser depths, so nothing that is shared is lost on the way. Given what is
ahead of a branch, the levels pick this branch.
-/

namespace StrongLL

/-- Two branches have a sequence in common. -/
def Shared (ahead : Nat → List TokenId → Prop) (depth : Nat) (sequence : Terminals) : Prop :=
  ∃ left right, left < right ∧ Heads ahead depth left sequence ∧
    Heads ahead depth right sequence

section

variable {ahead : Nat → List TokenId → Prop}

theorem Heads.take {depth lesser branch : Nat} {sequence : Terminals} (less : lesser ≤ depth)
    (heads : Heads ahead depth branch sequence) :
    Heads ahead lesser branch (sequence.take lesser) := by
  obtain ⟨word, isAhead, rfl⟩ := heads
  exact ⟨word, isAhead, take_firstTerminals less word⟩

/-- What is shared at some depth extends what is shared at lesser depths. -/
theorem Shared.take {depth lesser : Nat} {sequence : Terminals} (less : lesser ≤ depth)
    (shared : Shared ahead depth sequence) : Shared ahead lesser (sequence.take lesser) := by
  obtain ⟨left, right, order, inLeft, inRight⟩ := shared
  exact ⟨left, right, order, inLeft.take less, inRight.take less⟩

/-- What is shared up to the end of input is shared at all greater depths. -/
theorem Shared.of_ended {depth greater : Nat} {sequence : Terminals} (less : depth ≤ greater)
    (ended : sequence.getLast? = some .eof) (shared : Shared ahead depth sequence) :
    Shared ahead greater sequence := by
  have grows : ∀ {branch}, Heads ahead depth branch sequence →
      Heads ahead greater branch sequence := by
    rintro branch ⟨word, isAhead, rfl⟩
    exact ⟨word, isAhead, (firstTerminals_of_getLast?_eof less ended).symm⟩
  obtain ⟨left, right, order, inLeft, inRight⟩ := shared
  exact ⟨left, right, order, grows inLeft, grows inRight⟩

/-- Branches that share nothing are pairwise disjoint. -/
theorem not_shared_iff {depth : Nat} :
    (∀ sequence, ¬ Shared ahead depth sequence) ↔ ∀ left right, left ≠ right →
      ∀ sequence, Heads ahead depth left sequence → ¬ Heads ahead depth right sequence := by
  constructor
  · intro none left right different sequence inLeft inRight
    rcases Nat.lt_or_gt_of_ne different with order | order
    · exact none sequence ⟨left, right, order, inLeft, inRight⟩
    · exact none sequence ⟨right, left, order, inRight, inLeft⟩
  · rintro disjoint sequence ⟨left, right, order, inLeft, inRight⟩
    exact disjoint left right (Nat.ne_of_lt order) sequence inLeft inRight

end

namespace Decision

/-- A search finds what is ahead of branches, restricted to extensions of what is
shared. -/
structure Describes (search : Search) (branches : List Stack)
    (ahead : Nat → List TokenId → Prop) : Prop where
  found : ∀ branch stack, branches[branch]? = some stack → ∀ depth shared sequence,
    sequence ∈ search.lookAhead depth shared stack ↔
      Heads ahead depth branch sequence ∧
        Search.Extends (shared.map (·.members)) depth sequence
  inside : ∀ branch word, ahead branch word → branch < branches.length

/-- The sequences at a level, which stands behind `lesser` others, for each branch. -/
structure Level (ahead : Nat → List TokenId → Prop) (count lesser : Nat)
    (sets : List SequenceSet) : Prop where
  length : sets.length = count
  found : ∀ branch set, sets[branch]? = some set → ∀ sequence, sequence ∈ set ↔
    Heads ahead (lesser + 1) branch sequence ∧
      (lesser = 0 ∨ ∃ other, Shared ahead lesser other ∧ sequence.take lesser <+: other)

/-- A decision is made by its levels, at the least depth at which nothing is
shared. -/
structure Decides (ahead : Nat → List TokenId → Prop) (count : Nat) (decision : Decision) :
    Prop where
  level : ∀ (lesser : Nat) sets, decision.levels[lesser]? = some sets →
    Level ahead count lesser sets
  positive : 0 < decision.depth
  disjoint : ∀ sequence, ¬ Shared ahead decision.depth sequence
  least : ∀ lesser, 0 < lesser → lesser < decision.depth → ∃ sequence, Shared ahead lesser sequence

/-- How far a decision has come: what the levels leave is what the branches share. -/
structure Undecided (ahead : Nat → List TokenId → Prop) (count : Nat)
    (levels : List (List SequenceSet)) (shared : Option SequenceSet) : Prop where
  level : ∀ (lesser : Nat) sets, levels[lesser]? = some sets → Level ahead count lesser sets
  first : levels = [] → shared = none
  later : 0 < levels.length → ∃ set, shared = some set ∧
    (∀ sequence, sequence ∈ set ↔ Shared ahead levels.length sequence) ∧
      ∃ sequence, sequence ∈ set

variable {search : Search} {branches : List Stack} {ahead : Nat → List TokenId → Prop}

theorem Undecided.extends_iff {count : Nat} {levels : List (List SequenceSet)}
    {shared : Option SequenceSet} (undecided : Undecided ahead count levels shared)
    {sequence : Terminals} :
    Search.Extends (shared.map (·.members)) (levels.length + 1) sequence ↔
      levels.length = 0 ∨
        ∃ other, Shared ahead levels.length other ∧ sequence.take levels.length <+: other := by
  rcases Nat.eq_zero_or_pos levels.length with none | some
  · rw [undecided.first (List.length_eq_zero_iff.mp none)]
    simp [Search.Extends, none]
  · obtain ⟨set, rfl, members, _⟩ := undecided.later some
    have notFirst : levels.length ≠ 0 := by omega
    simp [Search.Extends, SequenceSet.mem_members, members, notFirst]

/-- The next level extends what is shared. -/
theorem Undecided.next_level (describes : Describes search branches ahead)
    {levels : List (List SequenceSet)} {shared : Option SequenceSet}
    (undecided : Undecided ahead branches.length levels shared) :
    Level ahead branches.length levels.length
      (branches.map (search.lookAhead (levels.length + 1) shared)) := by
  refine ⟨by simp, fun branch set atBranch sequence => ?_⟩
  rw [List.getElem?_map, Option.map_eq_some_iff] at atBranch
  obtain ⟨stack, found, rfl⟩ := atBranch
  rw [describes.found branch stack found, undecided.extends_iff]

/-- What sets of a level have in common is what the branches share. -/
theorem Level.mem_conflicts (describes : Describes search branches ahead) {lesser : Nat}
    {sets : List SequenceSet} (level : Level ahead branches.length lesser sets)
    {sequence : Terminals} :
    sequence ∈ conflicts sets ↔ Shared ahead (lesser + 1) sequence := by
  rw [Decision.mem_conflicts]
  constructor
  · rintro ⟨left, right, leftSet, rightSet, order, atLeft, atRight, inLeft, inRight⟩
    exact ⟨left, right, order, ((level.found left leftSet atLeft sequence).mp inLeft).1,
      ((level.found right rightSet atRight sequence).mp inRight).1⟩
  · intro shared
    have agrees : lesser = 0 ∨ ∃ other, Shared ahead lesser other ∧
        sequence.take lesser <+: other :=
      .inr ⟨_, shared.take (Nat.le_succ lesser), List.prefix_refl _⟩
    obtain ⟨left, right, order, inLeft, inRight⟩ := shared
    have member : ∀ {branch}, Heads ahead (lesser + 1) branch sequence →
        ∃ set, sets[branch]? = some set ∧ sequence ∈ set := by
      intro branch heads
      have inside : branch < sets.length := by
        obtain ⟨word, isAhead, _⟩ := heads
        rw [level.length]
        exact describes.inside branch word isAhead
      exact ⟨_, List.getElem?_eq_getElem inside,
        (level.found branch _ (List.getElem?_eq_getElem inside) sequence).mpr ⟨heads, agrees⟩⟩
    obtain ⟨leftSet, atLeft, inLeft⟩ := member inLeft
    obtain ⟨rightSet, atRight, inRight⟩ := member inRight
    exact ⟨left, right, leftSet, rightSet, order, atLeft, atRight, inLeft, inRight⟩

/-! ## Making a decision -/

theorem undecided_nil (count : Nat) : Undecided ahead count [] none :=
  ⟨by simp, fun _ => rfl, by simp⟩

theorem Undecided.level_append {count : Nat} {levels : List (List SequenceSet)}
    {shared : Option SequenceSet} (undecided : Undecided ahead count levels shared)
    {sets : List SequenceSet} (level : Level ahead count levels.length sets) (lesser : Nat)
    (found : List SequenceSet) (atLesser : (levels ++ [sets])[lesser]? = some found) :
    Level ahead count lesser found := by
  rcases Nat.lt_or_ge lesser levels.length with before | behind
  · rw [List.getElem?_append_left before] at atLesser
    exact undecided.level lesser found atLesser
  · have inside := (List.getElem?_eq_some_iff.mp atLesser).1
    simp only [List.length_append, List.length_singleton] at inside
    obtain rfl : lesser = levels.length := by omega
    obtain rfl : sets = found := by simpa using atLesser
    exact level

/-- A further level whose sets share something leaves the decision open. -/
theorem Undecided.next (describes : Describes search branches ahead)
    {levels : List (List SequenceSet)} {shared : Option SequenceSet}
    (undecided : Undecided ahead branches.length levels shared) {sets : List SequenceSet}
    (made : sets = branches.map (search.lookAhead (levels.length + 1) shared))
    (some : (conflicts sets).isEmpty = false) :
    Undecided ahead branches.length (levels ++ [sets]) (Option.some (conflicts sets)) := by
  have level : Level ahead branches.length levels.length sets :=
    made ▸ undecided.next_level describes
  refine ⟨undecided.level_append level, by simp, fun _ => ⟨_, rfl, fun sequence => ?_, ?_⟩⟩
  · simpa using level.mem_conflicts describes
  · by_contra none
    have empty := SequenceSet.isEmpty_iff.mpr fun sequence member => none ⟨sequence, member⟩
    simp [empty] at some

theorem Undecided.exists_shared {count : Nat} {levels : List (List SequenceSet)}
    {shared : Option SequenceSet} (undecided : Undecided ahead count levels shared)
    {lesser : Nat} (positive : 0 < lesser) (less : lesser ≤ levels.length) :
    ∃ sequence, Shared ahead lesser sequence := by
  obtain ⟨set, _, members, sequence, member⟩ := undecided.later (by omega)
  exact ⟨_, ((members sequence).mp member).take less⟩

/-- A decision that is made tells the branches apart, at the least depth possible. -/
theorem decides_of_resolve (describes : Describes search branches ahead) {depths : Nat}
    {levels : List (List SequenceSet)} {shared : Option SequenceSet}
    (undecided : Undecided ahead branches.length levels shared) {decision : Decision}
    (made : resolve search branches depths levels shared = .ok decision) :
    Decides ahead branches.length decision ∧ decision.depth ≤ levels.length + depths := by
  induction depths generalizing levels shared with
  | zero => simp [resolve] at made
  | succ depths ih =>
      simp only [resolve] at made
      have level := undecided.next_level describes
      split at made
      · rename_i empty
        obtain rfl := Except.ok.inj made
        have depth : Decision.depth ⟨levels ++
            [branches.map (search.lookAhead (levels.length + 1) shared)]⟩ =
              levels.length + 1 := by
          simp [Decision.depth]
        refine ⟨⟨undecided.level_append level, by omega, ?_, ?_⟩, by omega⟩
        · intro sequence inBoth
          rw [depth] at inBoth
          exact SequenceSet.isEmpty_iff.mp empty sequence
            ((level.mem_conflicts describes).mpr inBoth)
        · intro lesser positive less
          exact undecided.exists_shared positive (by omega)
      · rename_i notEmpty
        split at made
        · simp at made
        · have open' := undecided.next describes rfl (Bool.eq_false_iff.mpr notEmpty)
          obtain ⟨decides, bound⟩ := ih open' made
          refine ⟨decides, ?_⟩
          simp only [List.length_append, List.length_singleton] at bound
          omega

/-- If no decision is made, branches share something at every depth, and all that is
reported is shared at one. -/
theorem shared_of_resolve (describes : Describes search branches ahead) {depths : Nat}
    {levels : List (List SequenceSet)} {shared : Option SequenceSet}
    (undecided : Undecided ahead branches.length levels shared)
    (positive : 0 < levels.length + depths) {reported : SequenceSet}
    (failed : resolve search branches depths levels shared = .error reported) :
    (∃ depth, 0 < depth ∧ depth ≤ levels.length + depths ∧
      ∀ sequence, sequence ∈ reported → Shared ahead depth sequence) ∧
    ∀ depth, 0 < depth → depth ≤ levels.length + depths →
      ∃ sequence, Shared ahead depth sequence := by
  induction depths generalizing levels shared with
  | zero =>
      obtain ⟨set, rfl, members, _⟩ := undecided.later positive
      obtain rfl := Except.error.inj failed
      refine ⟨⟨levels.length, positive, by omega, fun sequence => (members sequence).mp⟩, ?_⟩
      intro depth notZero less
      exact undecided.exists_shared notZero less
  | succ depths ih =>
      simp only [resolve] at failed
      have level := undecided.next_level describes
      split at failed
      · simp at failed
      · rename_i notEmpty
        have open' := undecided.next describes rfl (Bool.eq_false_iff.mpr notEmpty)
        split at failed
        · rename_i stuck
          obtain rfl := Except.error.inj failed
          refine ⟨⟨levels.length + 1, by omega, by omega,
            fun sequence => (level.mem_conflicts describes).mp⟩, ?_⟩
          intro depth notZero _
          by_cases less : depth ≤ levels.length + 1
          · exact open'.exists_shared notZero (by simpa using less)
          · -- All that is shared reaches the end of input, so it stays shared.
            obtain ⟨set, same, _, sequence, member⟩ := open'.later (by simp)
            obtain rfl := Option.some.inj same
            have ended : sequence.getLast? = some .eof := by
              simpa using List.all_eq_true.mp stuck sequence member
            exact ⟨sequence,
              ((level.mem_conflicts describes).mp member).of_ended (by omega) ended⟩
        · have further := ih open' (by simp only [List.length_append, List.length_singleton]; omega) failed
          have sum : (levels ++ [branches.map
              (search.lookAhead (levels.length + 1) shared)]).length + depths =
                levels.length + (depths + 1) := by
            simp only [List.length_append, List.length_singleton]
            omega
          rwa [sum] at further

/-! ## Picking a branch -/

theorem mem_matching {sequence : Terminals} {index place : Nat} {sets : List SequenceSet} :
    place ∈ matching sequence index sets ↔
      ∃ branch set, place = index + branch ∧ sets[branch]? = some set ∧ sequence ∈ set := by
  induction sets generalizing index with
  | nil => simp [matching]
  | cons set rest ih =>
      have behind : place ∈ matching sequence (index + 1) rest ↔ ∃ branch found,
          place = index + (branch + 1) ∧ rest[branch]? = some found ∧ sequence ∈ found := by
        rw [ih]
        simp only [Nat.add_assoc, Nat.add_comm 1]
      have whole : place ∈ matching sequence index (set :: rest) ↔
          (place = index ∧ sequence ∈ set) ∨ place ∈ matching sequence (index + 1) rest := by
        simp only [matching]
        split
        · rename_i member
          simp [SequenceSet.contains_iff.mp member]
        · rename_i other
          have other : ¬ sequence ∈ set := fun member => other (SequenceSet.contains_iff.mpr member)
          simp [other]
      rw [whole, behind]
      constructor
      · rintro (⟨rfl, member⟩ | ⟨branch, found, rfl, atBranch, member⟩)
        · exact ⟨0, set, rfl, rfl, member⟩
        · exact ⟨branch + 1, found, rfl, by simpa using atBranch, member⟩
      · rintro ⟨branch, found, rfl, atBranch, member⟩
        cases branch with
        | zero =>
            obtain rfl : set = found := by simpa using atBranch
            exact .inl ⟨rfl, member⟩
        | succ branch => exact .inr ⟨branch, found, rfl, by simpa using atBranch, member⟩

/-- The places are given in ascending order. -/
theorem matching_ascending (sequence : Terminals) (index : Nat) (sets : List SequenceSet) :
    (matching sequence index sets).Pairwise (· < ·) := by
  induction sets generalizing index with
  | nil => exact .nil
  | cons set rest ih =>
      simp only [matching]
      split
      · refine List.pairwise_cons.mpr ⟨fun place member => ?_, ih (index + 1)⟩
        obtain ⟨branch, _, rfl, _⟩ := mem_matching.mp member
        omega
      · exact ih (index + 1)

section

variable {count : Nat} {input : Terminals}

/-- The sets that match are those of the branches that can have the input ahead, as long as
what was looked at before is shared. -/
theorem Level.mem_matching {lesser : Nat} {sets : List SequenceSet}
    (level : Level ahead count lesser sets)
    (inside : ∀ branch word, ahead branch word → branch < count)
    (agrees : lesser = 0 ∨ Shared ahead lesser (input.take lesser)) {branch : Nat} :
    branch ∈ matching (input.take (lesser + 1)) 0 sets ↔
      Heads ahead (lesser + 1) branch (input.take (lesser + 1)) := by
  rw [Decision.mem_matching]
  constructor
  · rintro ⟨place, set, rfl, atPlace, member⟩
    rw [Nat.zero_add]
    exact ((level.found place set atPlace _).mp member).1
  · intro heads
    have known : branch < sets.length := by
      obtain ⟨word, isAhead, _⟩ := heads
      rw [level.length]
      exact inside branch word isAhead
    have shorter : (input.take (lesser + 1)).take lesser = input.take lesser := by
      rw [List.take_take, Nat.min_eq_left (Nat.le_succ lesser)]
    have found := level.found branch _ (List.getElem?_eq_getElem known)
    refine ⟨branch, _, (Nat.zero_add branch).symm, List.getElem?_eq_getElem known, ?_⟩
    refine (found _).mpr ⟨heads, ?_⟩
    rw [shorter]
    exact agrees.imp id fun shared => ⟨_, shared, List.prefix_refl _⟩

/-- Sets that match at two places share the input. -/
theorem shared_of_matching {depth left right : Nat} {others : List Nat} {sets : List SequenceSet}
    {sequence : Terminals} (found : matching sequence 0 sets = left :: right :: others)
    (heads : ∀ branch, branch ∈ matching sequence 0 sets → Heads ahead depth branch sequence) :
    Shared ahead depth sequence := by
  have ascending := matching_ascending sequence 0 sets
  rw [found] at ascending heads
  have order : left < right := (List.pairwise_cons.mp ascending).1 right (by simp)
  exact ⟨left, right, order, heads left (by simp), heads right (by simp)⟩

/-- A decision looks at a level after the other, as long as branches share the input. It stops
with the first terminal that they do not share, and picks the branch that can have it ahead. -/
theorem Decides.exists_stop {decision : Decision} (decides : Decides ahead count decision)
    (inside : ∀ branch word, ahead branch word → branch < count) (input : Terminals) :
    ∃ stop, stop < decision.depth ∧ (stop = 0 ∨ Shared ahead stop (input.take stop)) ∧
      ∀ branch, Heads ahead (stop + 1) branch (input.take (stop + 1)) ↔
        decision.select input = some branch := by
  -- While levels are left, all that was looked at so far is shared.
  have stops : ∀ (deeper : List (List SequenceSet)) (lesser : Nat),
      decision.levels.drop lesser = deeper → lesser < decision.depth →
      (lesser = 0 ∨ Shared ahead lesser (input.take lesser)) →
      ∃ stop, stop < decision.depth ∧ (stop = 0 ∨ Shared ahead stop (input.take stop)) ∧
        ∀ branch, Heads ahead (stop + 1) branch (input.take (stop + 1)) ↔
          selectFrom input lesser deeper = some branch := by
    intro deeper
    induction deeper with
    | nil =>
        intro lesser rest less _
        exact absurd less (Nat.not_lt.mpr (List.drop_eq_nil_iff.mp rest))
    | cons sets deeper ih =>
        intro lesser rest less agrees
        have atLesser : decision.levels[lesser]? = some sets := by
          rw [← List.head?_drop, rest]
          rfl
        have matches' : ∀ branch, branch ∈ matching (input.take (lesser + 1)) 0 sets ↔
            Heads ahead (lesser + 1) branch (input.take (lesser + 1)) :=
          fun branch => (decides.level lesser sets atLesser).mem_matching inside agrees
        simp only [selectFrom]
        split
        · rename_i none
          refine ⟨lesser, less, agrees, fun branch => ?_⟩
          rw [← matches', none]
          simp
        · rename_i only found
          refine ⟨lesser, less, agrees, fun branch => ?_⟩
          rw [← matches', found, List.mem_singleton, Option.some.injEq]
          exact eq_comm
        · rename_i notNone notOne
          have shared : Shared ahead (lesser + 1) (input.take (lesser + 1)) := by
            match found : matching (input.take (lesser + 1)) 0 sets with
            | [] => exact (notNone found).elim
            | [only] => exact (notOne only found).elim
            | left :: right :: others =>
                exact shared_of_matching found fun branch => (matches' branch).mp
          have further : lesser + 1 < decision.depth := by
            apply Nat.lt_of_le_of_ne less
            intro last
            have shared : Shared ahead decision.depth (input.take (lesser + 1)) := last ▸ shared
            exact decides.disjoint _ shared
          have behind : decision.levels.drop (lesser + 1) = deeper := by
            rw [← List.tail_drop, rest]
            rfl
          exact ih (lesser + 1) behind further (.inr shared)
  exact stops decision.levels 0 rfl decides.positive (.inl rfl)

/-- What is ahead of a branch picks this branch. -/
theorem Decides.select {decision : Decision} (decides : Decides ahead count decision)
    (inside : ∀ branch word, ahead branch word → branch < count) {branch : Nat}
    (heads : Heads ahead decision.depth branch input) : decision.select input = some branch := by
  obtain ⟨stop, less, _, picks⟩ := decides.exists_stop inside input
  exact (picks branch).mp (heads.take less)

end

end Decision

end StrongLL
