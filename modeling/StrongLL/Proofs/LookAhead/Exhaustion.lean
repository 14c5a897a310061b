import StrongLL.Proofs.LookAhead.Worklist

/-!
# The worklist ends with the look-ahead

What a single worklist for all terminals has found when it is empty is what the search
finds one terminal at a time: a path through its states reads off what a stack shows, and
whatever begins like an admitted sequence is admitted, so that no such path is cut short.
-/

namespace StrongLL.Search

open RuleTable

variable {table : RuleTable} {start : RuleId} {depth : Nat} {shared : Option SequenceSet}

/-! ## Paths read off what is shown -/

theorem admits_some {set : SequenceSet} {sequence : Terminals} :
    admits depth (some set) sequence = true ↔
      ∃ other ∈ set.members, sequence.take (depth - 1) <+: other := by
  simp [admits]

theorem admits_append {read rest : Terminals}
    (admitted : admits depth shared (read ++ rest) = true) : admits depth shared read = true := by
  cases shared with
  | none => rfl
  | some set =>
      obtain ⟨other, member, agrees⟩ := admits_some.mp admitted
      have part := (List.prefix_append read rest).take (depth - 1)
      exact admits_some.mpr ⟨other, member, part.trans agrees⟩

/-- What the worklist admits extends what is shared; at depth one there is nothing to
agree with, only something has to be shared at all. -/
theorem admits_iff_extends
    (filled : ∀ set, shared = some set → depth ≤ 1 → set.isEmpty = false) {sequence : Terminals} :
    admits depth shared sequence = true ↔ Extends (shared.map (·.members)) depth sequence := by
  cases shared with
  | none => simp [admits, Extends]
  | some set =>
      rw [admits_some]
      constructor
      · exact .inr
      · rintro (low | agrees)
        · obtain ⟨other, member⟩ : ∃ other, other ∈ set.members :=
            List.exists_mem_of_ne_nil _ (by simpa [SequenceSet.isEmpty] using filled set rfl low)
          refine ⟨other, member, ?_⟩
          rw [Nat.sub_eq_zero_of_le low]
          exact List.nil_prefix
        · exact agrees

/-- What a state shows, its origin shows behind what was read. -/
theorem Arises.shows {origin : Stack} {spot : Spot}
    (arises : Arises table start depth shared origin spot) {more : Nat} {rest : Terminals}
    (whole : spot.read.length + more = depth)
    (ahead : Shows table start more spot.stack rest) :
    Shows table start depth origin (spot.read ++ rest) := by
  induction arises generalizing more rest with
  | refl =>
      obtain rfl : more = depth := by simpa using whole
      exact ahead
  | tail _ leads ih =>
      cases leads with
      | silent move => exact ih whole (.silent move ahead)
      | shift move =>
          rw [List.append_assoc]
          refine ih ?_ (.shift move ahead)
          simp only [List.length_append, List.length_singleton] at whole ⊢
          omega

theorem Arises.short {origin : Stack} {spot : Spot} (positive : 1 ≤ depth)
    (arises : Arises table start depth shared origin spot) : spot.read.length < depth := by
  induction arises with
  | refl => exact positive
  | tail _ leads ih =>
      cases leads with
      | silent => exact ih
      | shift _ _ short => simpa using short

/-- What a state completes, its origin shows. -/
theorem shows_of_completes {origin : Stack} (positive : 1 ≤ depth) {spot : Spot}
    (arises : Arises table start depth shared origin spot) {sequence : Terminals}
    (ends : Completes table start depth shared spot sequence) :
    Shows table start depth origin sequence ∧ admits depth shared sequence = true := by
  have short := arises.short positive
  cases ends with
  | @shift stack target token read move admitted long =>
      have whole : read.length + 1 = depth := Nat.le_antisymm short long
      exact ⟨arises.shows whole (.shift move (.enough target)), admitted⟩
  | @finish stack read move admitted =>
      have whole : read.length + (depth - read.length - 1 + 1) = depth := by
        simp only at short
        omega
      exact ⟨arises.shows whole (.finish move), admitted⟩

/-- From a state on the way, the rest of what is shown is read off. -/
theorem Shows.exists_completes {origin stack : Stack} {more : Nat} {rest : Terminals}
    (ahead : Shows table start more stack rest) {read : Terminals}
    (arises : Arises table start depth shared origin ⟨stack, read⟩) (further : 1 ≤ more)
    (whole : read.length + more = depth) (admitted : admits depth shared (read ++ rest) = true) :
    ∃ spot, Arises table start depth shared origin spot ∧
      Completes table start depth shared spot (read ++ rest) := by
  induction ahead generalizing read with
  | enough => omega
  | silent move _ ih => exact ih (arises.tail (.silent move)) further whole admitted
  | @shift more stack target token rest move ahead ih =>
      have split : read ++ .token token :: rest = (read ++ [.token token]) ++ rest := by simp
      rw [split] at admitted ⊢
      -- The token is the last one, or the path goes on behind it.
      cases more with
      | zero =>
          obtain rfl := ahead.eq_nil
          rw [List.append_nil] at admitted ⊢
          exact ⟨_, arises, .shift move admitted whole.ge⟩
      | succ more =>
          have next := arises.tail (.shift move (admits_append admitted) (by omega))
          exact ih next (by omega) (by simp only [List.length_append, List.length_singleton]; omega)
            admitted
  | finish move => exact ⟨_, arises, .finish move admitted⟩

/-- The states of a search complete what its origin shows and is admitted. -/
theorem exists_completes_iff {origin : Stack} (positive : 1 ≤ depth) {sequence : Terminals} :
    (∃ spot, Arises table start depth shared origin spot ∧
        Completes table start depth shared spot sequence) ↔
      Shows table start depth origin sequence ∧ admits depth shared sequence = true := by
  constructor
  · rintro ⟨spot, arises, ends⟩
    exact shows_of_completes positive arises ends
  · rintro ⟨ahead, admitted⟩
    exact ahead.exists_completes .refl positive (Nat.zero_add _) admitted

/-! ## The worklist of a branch -/

/-- The worklist of a prepared search runs empty. -/
theorem exists_turns_empty (wellFormed : table.WellFormed) (known : start ∈ table.map (·.id))
    (acyclic : WellFounded table.Begins) {origin : Stack} (sound : StackSound table origin)
    (begun : 1 ≤ origin.frames.length) (positive : 1 ≤ depth) (shared : Option SequenceSet) :
    ∃ count, ((prepare table start).turns depth shared origin count).pending = [] :=
  (Searching.initial origin).exists_empty wellFormed known fun _ arises =>
    (arises.inBounds wellFormed acyclic sound begun positive).mem_spotsWithin

/-- When the worklist is empty, the look-ahead was found. -/
theorem mem_found_iff_mem_lookAhead (wellFormed : table.WellFormed)
    (known : start ∈ table.map (·.id)) (acyclic : WellFounded table.Begins) {origin : Stack}
    (sound : StackSound table origin) (positive : 1 ≤ depth)
    (filled : ∀ set, shared = some set → depth ≤ 1 → set.isEmpty = false) {count : Nat}
    (empty : ((prepare table start).turns depth shared origin count).pending = [])
    {sequence : Terminals} :
    sequence ∈ ((prepare table start).turns depth shared origin count).found ↔
      sequence ∈ (prepare table start).lookAhead depth shared origin := by
  have single : ∀ other ∈ [origin], StackSound table other := by simpa using sound
  rw [(searching_turns wellFormed known origin count).found_of_empty empty,
    exists_completes_iff positive, lookAhead, SequenceSet.mem_ofList,
    mem_sequences_iff_shows wellFormed acyclic known (List.cons_ne_nil _ _) single,
    admits_iff_extends filled]
  simp

/-- The worklist for a branch of a decision runs empty, whatever the table refers to in
circles. Only finitely many states are ever pending: fewer than `depth` terminals are read,
a stack gains no more than a frame for each production and one more from one terminal to the
next, the copies that are counted stay within bounds, and what lies behind a use replaces
a stack of which nothing but the production at the bottom is left. The sequences that
the worklist ends with are the look-ahead of the branch. Only left recursion has to be
refused; a copy that takes no token leads back to a state that was seen. -/
theorem worklist_runs_empty (wellFormed : table.WellFormed) (known : start ∈ table.map (·.id))
    (recursion : table.checkLeftRecursion = .ok ()) {site : Site} (present : site.In table)
    {branch : Nat} {origin : Stack} (atBranch : site.branches[branch]? = some origin)
    {depth : Nat} (positive : 1 ≤ depth) (shared : Option SequenceSet) :
    {spot | ∃ count,
      spot ∈ ((prepare table start).turns depth shared origin count).pending}.Finite ∧
    (∀ count, ∀ spot ∈ ((prepare table start).turns depth shared origin count).pending,
      spot.read.length < depth ∧
      spot.stack.frames.length ≤
        origin.frames.length + (spot.read.length + 1) * (table.length + 1) ∧
      (∀ frame ∈ spot.stack.frames, frame.count ≤ frame.limit) ∧
      ∀ next ∈ (prepare table start).pushes depth shared spot,
        (spot.stack.frames = [] → next.stack.frames.length = 1 ∧ next.read = spot.read) ∧
        (spot.stack.frames ≠ [] → next.stack.owner = spot.stack.owner)) ∧
    ∃ count, ((prepare table start).turns depth shared origin count).pending = [] ∧
      ((∀ set, shared = some set → depth ≤ 1 → set.isEmpty = false) → ∀ sequence,
        sequence ∈ ((prepare table start).turns depth shared origin count).found ↔
          sequence ∈ (prepare table start).lookAhead depth shared origin) := by
  have acyclic := begins_wellFounded recursion
  have sound := Site.branch_sound wellFormed present atBranch
  have begun := Site.branch_begun atBranch
  have searching : ∀ count, Searching table start depth shared origin
      ((prepare table start).turns depth shared origin count) :=
    searching_turns wellFormed known origin
  have bounds : ∀ {spot}, Arises table start depth shared origin spot →
      spot.InBounds table origin depth :=
    fun arises => arises.inBounds wellFormed acyclic sound begun positive
  refine ⟨?_, ?_, ?_⟩
  · refine (List.finite_toSet (spotsWithin table origin depth)).subset ?_
    rintro spot ⟨count, pending⟩
    exact (bounds ((searching count).reached spot (.inr pending))).mem_spotsWithin
  · intro count spot pending
    have inBounds := bounds ((searching count).reached spot (.inr pending))
    have low := inBounds.stack.climbs.length_le
    rw [← heightAfter_succ] at low
    refine ⟨inBounds.short, low, fun frame member => (inBounds.stack.sound.frames frame member).count,
      fun next pushed => ?_⟩
    have leads := (mem_pushes wellFormed known).mp pushed
    exact ⟨leads.replaces, leads.owner⟩
  · obtain ⟨count, empty⟩ :=
      exists_turns_empty wellFormed known acyclic sound begun positive shared
    exact ⟨count, empty, fun filled _ =>
      mem_found_iff_mem_lookAhead wellFormed known acyclic sound positive filled empty⟩

/-- `S = token 0 S token 1 | token 2` -/
def nestingRule : Rule where
  id := 0
  name := "S"
  origin := 0
  alternatives := [
    [{ symbol := .token 0 }, { symbol := .rule 0 }, { symbol := .token 1 }],
    [{ symbol := .token 2 }]]

/-- A production that nests in itself without bound -/
def nestingTable : RuleTable := [nestingRule]

theorem wellFormed_nestingTable : nestingTable.WellFormed where
  distinct := by decide
  resolved := by simp [nestingTable, nestingRule]
  bounded := by decide

/-- The choice between its alternatives -/
def nestingPlace : Site := .choice nestingRule

/-- Ahead of the first alternative, the worklist runs empty with two terminals found that
begin as is shared. -/
theorem nestingTable_runs_empty : ∃ origin count, nestingPlace.branches[0]? = some origin ∧
    ((prepare nestingTable 0).turns 2 (some (.only [.token 0])) origin count).pending = [] ∧
    [.token 0, .token 2] ∈
      ((prepare nestingTable 0).turns 2 (some (.only [.token 0])) origin count).found := by
  have present : nestingPlace.In nestingTable := ⟨by decide, by decide⟩
  obtain ⟨_, _, count, empty, found⟩ := @worklist_runs_empty nestingTable 0
    wellFormed_nestingTable (by decide) rfl nestingPlace present 0 _ rfl 2 (by decide)
    (some (.only [.token 0]))
  have filled : ∀ set, some (SequenceSet.only [.token 0]) = some set → 2 ≤ 1 →
      set.isEmpty = false := by
    intro set _ low
    omega
  exact ⟨_, count, rfl, empty, (found filled _).mpr (SequenceSet.contains_iff.mp rfl)⟩

end StrongLL.Search
