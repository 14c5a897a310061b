import StrongLL.Proofs.LookAhead.Bounds

/-!
# The search is complete

Each step of the search notes the moves of a stack that it did not see before. As
all stacks that silent moves lead to lie within bounds, and no more of them can be
seen than the search has fuel, the search sees them all.
-/

namespace StrongLL.Search

open RuleTable

variable {table : RuleTable} {start : RuleId}

/-- Silent moves lead to a stack from one of several. -/
def Leads (table : RuleTable) (start : RuleId) (sources : List Stack) (target : Stack) : Prop :=
  ∃ first ∈ sources, Relation.ReflTransGen (Silent table start) first target

/-! ## Noting moves -/

/-- What noting moves adds to a walk. -/
structure Noted (walk : Walk) (moves : List Move) (noted : Walk) : Prop where
  pending : ∀ target, target ∈ noted.pending ↔
    target ∈ walk.pending ∨ .silent target ∈ moves
  seen : noted.seen = walk.seen
  shifts : ∀ token target, (token, target) ∈ noted.shifts ↔
    (token, target) ∈ walk.shifts ∨ .shift token target ∈ moves
  finishes : noted.finishes = true ↔ walk.finishes = true ∨ .finish ∈ moves

theorem noted_foldl (moves : List Move) (walk : Walk) :
    Noted walk moves (moves.foldl Walk.note walk) := by
  induction moves generalizing walk with
  | nil => constructor <;> simp
  | cons move rest ih =>
      obtain ⟨pending, seen, shifts, finishes⟩ := ih (walk.note move)
      rw [List.foldl_cons]
      cases move with
      | silent target =>
          refine ⟨fun other => ?_, seen, fun token other => ?_, ?_⟩
          · rw [pending]
            simp only [Walk.note, List.mem_cons, Move.silent.injEq]
            tauto
          · rw [shifts]
            simp [Walk.note]
          · rw [finishes]
            simp [Walk.note]
      | shift token target =>
          refine ⟨fun other => ?_, seen, fun token other => ?_, ?_⟩
          · rw [pending]
            simp [Walk.note]
          · rw [shifts]
            simp only [Walk.note, List.mem_cons, Prod.mk.injEq, Move.shift.injEq]
            tauto
          · rw [finishes]
            simp [Walk.note]
      | finish =>
          refine ⟨fun other => ?_, seen, fun token other => ?_, ?_⟩
          · rw [pending]
            simp [Walk.note]
          · rw [shifts]
            simp [Walk.note]
          · rw [finishes]
            simp [Walk.note]

/-! ## The walk -/

/-- Where a walk from several stacks stands: what was seen leads to what was seen or
is pending, and all other moves of what was seen are noted. -/
structure Exploring (table : RuleTable) (start : RuleId) (sources : List Stack)
    (walk : Walk) : Prop where
  distinct : walk.seen.Nodup
  begun : ∀ stack ∈ sources, stack ∈ walk.seen ∨ stack ∈ walk.pending
  sound : ∀ stack, stack ∈ walk.seen ∨ stack ∈ walk.pending → Leads table start sources stack
  closed : ∀ stack ∈ walk.seen, ∀ target, Silent table start stack target →
    target ∈ walk.seen ∨ target ∈ walk.pending
  shifts : ∀ token target, (token, target) ∈ walk.shifts ↔
    ∃ stack ∈ walk.seen, Moves table start stack (.shift token target)
  finishes : walk.finishes = true ↔ ∃ stack ∈ walk.seen, Moves table start stack .finish

/-- What a walk finds: all that silent moves lead to, and how it goes on. -/
structure Explored (table : RuleTable) (start : RuleId) (sources : List Stack)
    (walk : Walk) : Prop where
  shifts : ∀ token target, (token, target) ∈ walk.shifts ↔
    ∃ stack, Leads table start sources stack ∧ Moves table start stack (.shift token target)
  finishes : walk.finishes = true ↔
    ∃ stack, Leads table start sources stack ∧ Moves table start stack .finish

/-- One step sees a stack that was not seen before. -/
theorem Exploring.step (wellFormed : table.WellFormed) (known : start ∈ table.map (·.id))
    {sources : List Stack} {walk : Walk} (exploring : Exploring table start sources walk)
    {stack : Stack} {rest : List Stack}
    (left : walk.pending.dropWhile walk.seen.contains = stack :: rest) :
    Exploring table start sources (((prepare table start).moves stack).foldl Walk.note
      { walk with pending := rest, seen := stack :: walk.seen }) := by
  obtain ⟨isNew, among, kept⟩ := of_dropWhile_seen left
  have isLed : Leads table start sources stack :=
    exploring.sound stack (.inr (among stack (List.mem_cons_self ..)))
  obtain ⟨pending, seen, shifts, finishes⟩ := noted_foldl ((prepare table start).moves stack)
    { walk with pending := rest, seen := stack :: walk.seen }
  simp only [mem_moves wellFormed known] at pending shifts finishes
  simp only at seen
  constructor
  · rw [seen]
    exact List.nodup_cons.mpr ⟨isNew, exploring.distinct⟩
  · intro other member
    rw [seen, pending]
    exact (kept other (exploring.begun other member)).imp_right .inl
  · intro other member
    rw [seen, pending] at member
    rcases member with isSeen | late | step
    · rcases List.mem_cons.mp isSeen with rfl | isSeen
      · exact isLed
      · exact exploring.sound other (.inl isSeen)
    · exact exploring.sound other (.inr (among other (List.mem_cons_of_mem _ late)))
    · obtain ⟨first, member, path⟩ := isLed
      exact ⟨first, member, path.tail step⟩
  · intro other member target step
    rw [seen] at member
    rw [seen, pending]
    rcases List.mem_cons.mp member with rfl | member
    · exact .inr (.inr step)
    · exact (kept target (exploring.closed other member target step)).imp_right .inl
  · intro token target
    rw [shifts, seen, exploring.shifts]
    simp only [List.mem_cons, exists_eq_or_imp]
    exact Or.comm
  · rw [finishes, seen, exploring.finishes]
    simp only [List.mem_cons, exists_eq_or_imp]
    exact Or.comm

/-- When all that is pending was seen, everything was. -/
theorem Exploring.explored {sources : List Stack} {walk : Walk}
    (exploring : Exploring table start sources walk)
    (done : ∀ stack ∈ walk.pending, stack ∈ walk.seen) : Explored table start sources walk := by
  have all : ∀ stack, stack ∈ walk.seen ↔ Leads table start sources stack := by
    intro stack
    constructor
    · exact fun member => exploring.sound stack (.inl member)
    · rintro ⟨first, member, path⟩
      induction path with
      | refl => exact (exploring.begun first member).elim id (done first)
      | tail _ step ih => exact (exploring.closed _ ih _ step).elim id (done _)
  refine ⟨fun token target => ?_, ?_⟩
  · simp only [exploring.shifts, all]
  · simp only [exploring.finishes, all]

theorem explored_follow (wellFormed : table.WellFormed) (known : start ∈ table.map (·.id))
    {sources bound : List Stack}
    (within : ∀ stack, Leads table start sources stack → stack ∈ bound)
    {fuel : Nat} {walk : Walk} (exploring : Exploring table start sources walk)
    (enough : bound.length ≤ fuel + walk.seen.length) :
    Explored table start sources ((prepare table start).follow fuel walk) := by
  induction fuel generalizing walk with
  | zero =>
      -- As many stacks were seen as there are, so those that are pending were seen, too.
      have part : walk.seen.Subperm bound := List.subperm_of_subset exploring.distinct
        fun stack member => within stack (exploring.sound stack (.inl member))
      have same := part.perm_of_length_le (by omega)
      exact exploring.explored fun stack member =>
        same.mem_iff.mpr (within stack (exploring.sound stack (.inr member)))
  | succ fuel ih =>
      unfold follow
      cases left : walk.pending.dropWhile walk.seen.contains with
      | nil =>
          have explored := exploring.explored (of_dropWhile_seen_eq_nil left)
          exact ⟨explored.shifts, explored.finishes⟩
      | cons stack rest =>
          have step := exploring.step wellFormed known left
          have counted : (((prepare table start).moves stack).foldl Walk.note
              { walk with pending := rest, seen := stack :: walk.seen }).seen.length =
                walk.seen.length + 1 := by
            rw [(noted_foldl _ _).seen]
            rfl
          exact ih step (by omega)

/-- The search from sound stacks finds all that silent moves lead to. -/
theorem explored_explore (wellFormed : table.WellFormed) (acyclic : WellFounded table.Begins)
    (known : start ∈ table.map (·.id)) {sources : List Stack}
    (sound : ∀ stack ∈ sources, StackSound table stack) :
    Explored table start sources ((prepare table start).explore sources) := by
  let alternatives := table.flatMap (·.alternatives) ++
    sources.flatMap fun stack => stack.frames.map (·.rest)
  let height := (sources.map (·.frames.length)).foldl max 1
  have heights := @le_foldl_max Nat id (sources.map (·.frames.length)) 1
  have all : ∀ id, ∀ alternative ∈ table.alternatives id, alternative ∈ alternatives :=
    fun _ _ chosen => List.mem_append_left _ (mem_flatMap_alternatives chosen)
  have begun : ∀ stack ∈ sources, Within table alternatives height stack := by
    intro stack member
    have low := heights.2 _ (List.mem_map_of_mem member)
    refine ⟨sound stack member, fun frame inside => ?_, .low low, .inl low⟩
    refine ⟨frame.rest, List.mem_append_right _ ?_, List.suffix_refl _⟩
    exact List.mem_flatMap.mpr ⟨stack, member, List.mem_map_of_mem inside⟩
  have within : ∀ stack, Leads table start sources stack →
      stack ∈ stacksWithin table alternatives height := by
    rintro stack ⟨first, member, path⟩
    have stays : Within table alternatives height stack := by
      induction path with
      | refl => exact begun first member
      | tail _ move ih => exact ih.silent wellFormed acyclic heights.1 all move
    exact stays.mem_stacksWithin
  have enough : (stacksWithin table alternatives height).length ≤
      (prepare table start).stackBound sources := by
    refine (length_stacksWithin_le alternatives height).trans ?_
    refine Nat.mul_le_mul (by simp only [prepare]; omega) ?_
    calc (frameCount (greatestBound alternatives) alternatives + 1) ^ (height + table.length + 1)
        ≤ (frameCount (greatestBound alternatives) alternatives + 2) ^
            (height + table.length + 1) := Nat.pow_le_pow_left (by omega) _
      _ ≤ (frameCount (greatestBound alternatives) alternatives + 2) ^
            (height + table.length + 1 + 1) := Nat.pow_le_pow_right (by omega) (by omega)
  refine explored_follow wellFormed known within ⟨List.nodup_nil, ?_, ?_, by simp, by simp, by simp⟩
    (by simpa using enough)
  · exact fun stack member => .inr member
  · rintro stack (seen | pending)
    · simp at seen
    · exact ⟨stack, pending, .refl⟩

end StrongLL.Search
