import Mathlib.Data.List.Perm.Subperm
import StrongLL.Proofs.LookAhead.Follow
import StrongLL.Proofs.Prelude

/-!
# The moves of the search

All that a stack can do in a prepared search, once and for all: it ends or goes
on behind a use when its frames are used up, and otherwise it passes the element
on top or begins another copy of it. The roots of a prepared search are the start
production and those that it does not reach.
-/

namespace StrongLL.Search

variable {table : RuleTable} {start : RuleId}

/-! ## Roots -/

theorem mem_references {id target : RuleId} :
    target ∈ references table id ↔ table.Refers id target := by
  simp only [references, List.mem_filterMap, List.mem_flatten]
  constructor
  · rintro ⟨element, ⟨alternative, chosen, inside⟩, found⟩
    refine ⟨alternative, chosen, element, inside, ?_⟩
    cases symbol : element.symbol with
    | token id => simp [symbol] at found
    | rule id => simpa [symbol] using found
  · rintro ⟨alternative, chosen, element, inside, symbol⟩
    exact ⟨element, ⟨alternative, chosen, inside⟩, by simp [symbol]⟩

/-- Where a search for productions stands: what was reached leads to what was
reached or is pending. -/
structure Reaching (table : RuleTable) (reached pending : List RuleId) : Prop where
  distinct : reached.Nodup
  known : ∀ id, id ∈ reached ∨ id ∈ pending → id ∈ table.map (·.id)
  closed : ∀ id ∈ reached, ∀ next, table.Refers id next → next ∈ reached ∨ next ∈ pending

/-- What a search from the pending productions finds. -/
structure Reached (table : RuleTable) (reached pending found : List RuleId) : Prop where
  kept : ∀ id, id ∈ reached ∨ id ∈ pending → id ∈ found
  closed : ∀ id ∈ found, ∀ next, table.Refers id next → next ∈ found
  sound : ∀ id ∈ found, id ∈ reached ∨
    ∃ first ∈ pending, Relation.ReflTransGen table.Refers first id

/-- One step reaches a production that was not reached before. -/
theorem Reaching.step (wellFormed : table.WellFormed) {reached pending : List RuleId}
    (reaching : Reaching table reached pending) {id : RuleId} {rest : List RuleId}
    (left : pending.dropWhile reached.contains = id :: rest) :
    Reaching table (id :: reached) (references table id ++ rest) := by
  obtain ⟨isNew, among, kept⟩ := of_dropWhile_seen left
  constructor
  · exact List.nodup_cons.mpr ⟨isNew, reaching.distinct⟩
  · rintro other (member | member)
    · rcases List.mem_cons.mp member with rfl | member
      · exact reaching.known _ (.inr (among _ (List.mem_cons_self ..)))
      · exact reaching.known _ (.inl member)
    · rcases List.mem_append.mp member with member | member
      · obtain ⟨alternative, chosen, element, inside, symbol⟩ := mem_references.mp member
        exact (wellFormed.of_mem_alternatives chosen inside).2 _ symbol
      · exact reaching.known _ (.inr (among other (List.mem_cons_of_mem _ member)))
  · intro other member next refers
    rcases List.mem_cons.mp member with rfl | member
    · exact .inr (List.mem_append_left _ (mem_references.mpr refers))
    · have known := kept next (reaching.closed other member next refers)
      exact known.imp_right (List.mem_append_right _)

/-- When all that is pending was reached, everything was. -/
theorem Reaching.done {reached pending : List RuleId} (reaching : Reaching table reached pending)
    (done : ∀ id ∈ pending, id ∈ reached) : Reached table reached pending reached where
  kept id known := known.elim (·) (done id)
  closed id member next refers := (reaching.closed id member next refers).elim (·) (done next)
  sound _ member := .inl member

/-- What is found from behind a step is found from in front of it. -/
theorem Reached.of_step {reached pending found rest : List RuleId} {id : RuleId}
    (left : pending.dropWhile reached.contains = id :: rest)
    (behind : Reached table (id :: reached) (references table id ++ rest) found) :
    Reached table reached pending found := by
  obtain ⟨-, among, kept⟩ := of_dropWhile_seen left
  have isPending : id ∈ pending := among id (List.mem_cons_self ..)
  refine ⟨fun other known => ?_, behind.closed, fun other member => ?_⟩
  · exact behind.kept other ((kept other known).imp_right (List.mem_append_right _))
  · rcases behind.sound other member with known | ⟨first, waiting, path⟩
    · rcases List.mem_cons.mp known with rfl | known
      · exact .inr ⟨other, isPending, .refl⟩
      · exact .inl known
    · rcases List.mem_append.mp waiting with referred | waiting
      · exact .inr ⟨id, isPending, .head (mem_references.mp referred) path⟩
      · exact .inr ⟨first, among first (List.mem_cons_of_mem _ waiting), path⟩

theorem reached_reach (wellFormed : table.WellFormed) {fuel : Nat}
    {reached pending : List RuleId} (reaching : Reaching table reached pending)
    (enough : table.length < fuel + reached.length) :
    Reached table reached pending (reach table fuel reached pending) := by
  induction fuel generalizing reached pending with
  | zero =>
      have bound := (List.subperm_of_subset reaching.distinct
        (fun id member => reaching.known id (.inl member))).length_le
      simp only [List.length_map] at bound
      omega
  | succ fuel ih =>
      unfold reach
      split
      · rename_i left
        exact reaching.done (of_dropWhile_seen_eq_nil left)
      · rename_i id rest left
        have further := reaching.step wellFormed left
        exact .of_step left (ih further (by simp only [List.length_cons]; omega))

/-- The search for productions finds exactly those that can be reached. -/
theorem mem_reach (wellFormed : table.WellFormed) (known : start ∈ table.map (·.id))
    {id : RuleId} : id ∈ reach table (table.length + 1) [] [start] ↔
      Relation.ReflTransGen table.Refers start id := by
  have begun : Reaching table [] [start] := ⟨List.nodup_nil, by simpa using known, by simp⟩
  have found := reached_reach wellFormed begun (by simp : table.length < table.length + 1 + 0)
  constructor
  · intro member
    simpa using found.sound id member
  · intro path
    induction path with
    | refl => exact found.kept start (by simp)
    | tail _ refers ih => exact found.closed _ ih _ refers

theorem mem_rootsOf (wellFormed : table.WellFormed) (known : start ∈ table.map (·.id))
    {id : RuleId} : id ∈ rootsOf table start ↔ id ∈ table.map (·.id) ∧ table.IsRoot start id := by
  rw [rootsOf, List.mem_filter, Bool.or_eq_true, beq_iff_eq, Bool.not_eq_true',
    ← Bool.not_eq_true, List.contains_iff_mem, mem_reach wellFormed known]
  rfl

/-! ## Places behind uses -/

theorem mem_returnsIn {target owner : RuleId} {alternative : Alternative} {stack : Stack} :
    stack ∈ returnsIn target owner alternative ↔
      ∃ before element rest, alternative = before ++ element :: rest ∧
        element.symbol = .rule target ∧
        stack = ⟨[⟨element :: rest, element.occurs.nextCount 0⟩], owner⟩ := by
  induction alternative with
  | nil => simp [returnsIn]
  | cons first others ih =>
      have behind : stack ∈ returnsIn target owner others → ∃ before element rest,
          first :: others = before ++ element :: rest ∧ element.symbol = .rule target ∧
            stack = ⟨[⟨element :: rest, element.occurs.nextCount 0⟩], owner⟩ := by
        intro member
        obtain ⟨before, element, rest, rfl, symbol, rfl⟩ := ih.mp member
        exact ⟨first :: before, element, rest, rfl, symbol, rfl⟩
      constructor
      · intro member
        unfold returnsIn at member
        split at member
        · rename_i symbol
          rcases List.mem_cons.mp member with rfl | member
          · exact ⟨[], first, others, rfl, symbol, rfl⟩
          · exact behind member
        · exact behind member
      · rintro ⟨before, element, rest, shape, symbol, rfl⟩
        cases before with
        | nil =>
            obtain ⟨rfl, rfl⟩ := List.cons.inj shape
            simp [returnsIn, symbol]
        | cons other before =>
            obtain ⟨rfl, rfl⟩ := List.cons.inj shape
            have inOthers := ih.mpr ⟨before, element, rest, rfl, symbol, rfl⟩
            unfold returnsIn
            split
            · exact List.mem_cons_of_mem _ inOthers
            · exact inOthers

theorem mem_behind (wellFormed : table.WellFormed) {target : RuleId} {stack : Stack} :
    stack ∈ (prepare table start).behind target ↔
      ∃ owner before element rest, before ++ element :: rest ∈ table.alternatives owner ∧
        element.symbol = .rule target ∧
        stack = ⟨[⟨element :: rest, element.occurs.nextCount 0⟩], owner⟩ := by
  have everywhere : stack ∈ returnsOf table target ↔
      ∃ owner before element rest, before ++ element :: rest ∈ table.alternatives owner ∧
        element.symbol = .rule target ∧
        stack = ⟨[⟨element :: rest, element.occurs.nextCount 0⟩], owner⟩ := by
    simp only [returnsOf, List.mem_flatMap, mem_returnsIn]
    constructor
    · rintro ⟨rule, inTable, _, chosen, before, element, rest, rfl, symbol, rfl⟩
      have lookup := RuleTable.alternatives_of_rule?
        (RuleTable.rule?_of_mem wellFormed.distinct inTable)
      exact ⟨rule.id, before, element, rest, lookup ▸ chosen, symbol, rfl⟩
    · rintro ⟨owner, before, element, rest, chosen, symbol, rfl⟩
      obtain ⟨rule, found, inRule⟩ := RuleTable.exists_rule_of_mem_alternatives chosen
      obtain ⟨inTable, rfl⟩ := RuleTable.mem_of_rule? found
      exact ⟨rule, inTable, _, inRule, before, element, rest, rfl, symbol, rfl⟩
  have lookup : (prepare table start).behind target =
      if target ∈ table.map (·.id) then returnsOf table target else [] := by
    unfold behind prepare
    simp only
    cases found : (table.map fun rule => (rule.id, returnsOf table rule.id)).find?
        (·.1 == target) with
    | none =>
        have absent : target ∉ table.map (·.id) := by
          intro member
          obtain ⟨rule, inTable, rfl⟩ := List.mem_map.mp member
          have differs := List.find?_eq_none.mp found _ (List.mem_map_of_mem inTable)
          simp at differs
        rw [if_neg absent]
    | some entry =>
        obtain ⟨rule, inTable, rfl⟩ := List.mem_map.mp (List.mem_of_find?_eq_some found)
        have same : rule.id = target := by simpa using List.find?_some found
        subst same
        rw [if_pos (List.mem_map_of_mem inTable)]
  rw [lookup]
  split
  · exact everywhere
  · rename_i absent
    constructor
    · intro member
      simp at member
    · rintro ⟨owner, before, element, rest, chosen, symbol, rfl⟩
      exact absent.elim ((wellFormed.of_mem_alternatives chosen (by simp)).2 _ symbol)

/-! ## Moves -/

/-- What a stack can do. -/
inductive Moves (table : RuleTable) (start : RuleId) : Stack → Move → Prop where
  /-- The input ends behind a root. -/
  | finish {owner : RuleId} (known : owner ∈ table.map (·.id))
      (isRoot : table.IsRoot start owner) :
      Moves table start ⟨[], owner⟩ .finish
  /-- A production goes on behind its first copy in a use. -/
  | behind {owner target : RuleId} {before rest : Alternative} {element : Element}
      (use : before ++ element :: rest ∈ table.alternatives owner)
      (refers : element.symbol = .rule target) :
      Moves table start ⟨[], target⟩
        (.silent ⟨[⟨element :: rest, element.occurs.nextCount 0⟩], owner⟩)
  /-- A frame without elements is left. -/
  | leave {count : Nat} {below : List Frame} {owner : RuleId} :
      Moves table start ⟨⟨[], count⟩ :: below, owner⟩ (.silent ⟨below, owner⟩)
  /-- An element of which there are enough copies is passed. -/
  | pass {element : Element} {rest : Alternative} {count : Nat} {below : List Frame}
      {owner : RuleId} (reached : element.occurs.min ≤ count) :
      Moves table start ⟨⟨element :: rest, count⟩ :: below, owner⟩
        (.silent ⟨⟨rest, 0⟩ :: below, owner⟩)
  /-- A token is one more copy. -/
  | token {element : Element} {rest : Alternative} {count : Nat} {below : List Frame}
      {owner : RuleId} {id : TokenId} (notFull : element.occurs.isFull count = false)
      (symbol : element.symbol = .token id) :
      Moves table start ⟨⟨element :: rest, count⟩ :: below, owner⟩
        (.shift id ⟨⟨element :: rest, element.occurs.nextCount count⟩ :: below, owner⟩)
  /-- One more copy of a production is begun. -/
  | rule {element : Element} {rest : Alternative} {count : Nat} {below : List Frame}
      {owner id : RuleId} {alternative : Alternative}
      (notFull : element.occurs.isFull count = false)
      (symbol : element.symbol = .rule id) (chosen : alternative ∈ table.alternatives id) :
      Moves table start ⟨⟨element :: rest, count⟩ :: below, owner⟩
        (.silent ⟨⟨alternative, 0⟩ :: ⟨element :: rest, element.occurs.nextCount count⟩ :: below,
          owner⟩)

theorem mem_begin {symbol : Symbol} {stack : Stack} {move : Move} :
    move ∈ (prepare table start).begin symbol stack ↔
      (∃ id, symbol = .token id ∧ move = .shift id stack) ∨
        ∃ id alternative, symbol = .rule id ∧ alternative ∈ table.alternatives id ∧
          move = .silent { stack with frames := ⟨alternative, 0⟩ :: stack.frames } := by
  cases symbol with
  | token id => simp [begin]
  | rule id =>
      simp only [begin, prepare, List.mem_map, reduceCtorEq, false_and, exists_false, false_or,
        Symbol.rule.injEq]
      constructor
      · rintro ⟨alternative, chosen, rfl⟩
        exact ⟨id, alternative, rfl, chosen, rfl⟩
      · rintro ⟨_, alternative, rfl, chosen, rfl⟩
        exact ⟨alternative, chosen, rfl⟩

theorem mem_moves (wellFormed : table.WellFormed) (known : start ∈ table.map (·.id))
    {stack : Stack} {move : Move} :
    move ∈ (prepare table start).moves stack ↔ Moves table start stack move := by
  have roots : ∀ id, id ∈ (prepare table start).roots ↔
      id ∈ table.map (·.id) ∧ table.IsRoot start id := fun _ => mem_rootsOf wellFormed known
  obtain ⟨frames, owner⟩ := stack
  match frames with
  | [] =>
      simp only [moves, List.mem_append, List.mem_map, mem_behind wellFormed]
      constructor
      · rintro (member | ⟨_, ⟨parent, before, element, rest, use, refers, rfl⟩, rfl⟩)
        · split at member
          · rename_i isRoot
            obtain rfl := List.mem_singleton.mp member
            obtain ⟨inside, isRoot⟩ := (roots owner).mp (List.contains_iff_mem.mp isRoot)
            exact .finish inside isRoot
          · simp at member
        · exact .behind use refers
      · intro step
        cases step with
        | finish inside isRoot =>
            have member := List.contains_iff_mem.mpr ((roots owner).mpr ⟨inside, isRoot⟩)
            exact .inl (by rw [if_pos member]; simp)
        | behind use refers => exact .inr ⟨_, ⟨_, _, _, _, use, refers, rfl⟩, rfl⟩
  | ⟨[], count⟩ :: below =>
      simp only [moves, List.mem_singleton]
      constructor
      · rintro rfl
        exact .leave
      · intro step
        cases step
        rfl
  | ⟨element :: rest, count⟩ :: below =>
      simp only [moves, List.mem_append]
      constructor
      · rintro (member | member)
        · split at member
          · rename_i reached
            obtain rfl := List.mem_singleton.mp member
            exact .pass reached
          · simp at member
        · split at member
          · simp at member
          · rename_i notFull
            have notFull := Bool.eq_false_iff.mpr notFull
            rcases mem_begin.mp member with ⟨id, symbol, rfl⟩ | ⟨id, alternative, symbol, chosen, rfl⟩
            · exact .token notFull symbol
            · exact .rule notFull symbol chosen
      · intro step
        cases step with
        | pass reached => exact .inl (by rw [if_pos reached]; simp)
        | token notFull symbol =>
            exact .inr (by rw [notFull]; exact mem_begin.mpr (.inl ⟨_, symbol, rfl⟩))
        | rule notFull symbol chosen =>
            exact .inr (by
              rw [notFull]
              exact mem_begin.mpr (.inr ⟨_, _, symbol, chosen, rfl⟩))

end StrongLL.Search
