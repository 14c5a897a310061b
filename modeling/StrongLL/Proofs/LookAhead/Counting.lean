import StrongLL.Proofs.LookAhead.Exhaustion

/-!
# Ways to count copies

The search counts the copies of an unbounded element no further than to its lower bound.
That is one of several ways to count: with any of them a grammar is prepared, its decisions
have branches, and stacks have moves. A stack of a search that counts all copies is
collapsed by lowering each count to where the search would have stopped. Collapsed, it
moves as before, since no move depends on the copies above the lower bound.
-/

namespace StrongLL

/-- What the number of copies of an element becomes with one more. -/
abbrev Counting : Type := Occurs → Nat → Nat

namespace Occurs

/-- Count each copy. -/
def countUp : Counting := fun _ count => count + 1

/-- What the search counts when there are so many copies. -/
def collapse (occurs : Occurs) (count : Nat) : Nat :=
  match occurs.max with
  | some _ => count
  | none => Nat.min count occurs.min

theorem collapse_of_max {occurs : Occurs} {max : Nat} (bound : occurs.max = some max)
    (count : Nat) : occurs.collapse count = count := by
  simp [collapse, bound]

theorem collapse_of_unbounded {occurs : Occurs} (unbounded : occurs.max = none) (count : Nat) :
    occurs.collapse count = if count ≤ occurs.min then count else occurs.min := by
  simp only [collapse, unbounded]
  exact Nat.min_def

/-- Collapsing before a copy is counted makes no difference. -/
theorem nextCount_collapse (occurs : Occurs) (count : Nat) :
    occurs.nextCount (occurs.collapse count) = occurs.collapse (count + 1) := by
  cases bound : occurs.max with
  | none =>
      have next : ∀ count, occurs.nextCount count = occurs.collapse (count + 1) := by
        simp [nextCount, collapse, bound]
      simp only [next, collapse_of_unbounded bound]
      grind
  | some max => simp [collapse, nextCount, bound]

theorem collapse_zero (occurs : Occurs) : occurs.collapse 0 = 0 := by
  cases bound : occurs.max with
  | none => rw [collapse_of_unbounded bound, if_pos (Nat.zero_le _)]
  | some max => exact collapse_of_max bound 0

theorem collapse_min (occurs : Occurs) : occurs.collapse occurs.min = occurs.min := by
  cases bound : occurs.max with
  | none => rw [collapse_of_unbounded bound, if_pos (Nat.le_refl _)]
  | some max => exact collapse_of_max bound _

/-- Whether there are enough copies can be told when they are collapsed. -/
theorem min_le_collapse {occurs : Occurs} {count : Nat} :
    occurs.min ≤ occurs.collapse count ↔ occurs.min ≤ count := by
  cases bound : occurs.max with
  | none =>
      rw [collapse_of_unbounded bound]
      split <;> omega
  | some max => rw [collapse_of_max bound]

/-- Whether there is room for one more copy can be told when they are collapsed. -/
theorem isFull_collapse (occurs : Occurs) (count : Nat) :
    occurs.isFull (occurs.collapse count) = occurs.isFull count := by
  cases bound : occurs.max with
  | none => simp [isFull, bound]
  | some max => rw [collapse_of_max bound]

end Occurs

/-- Collapse the copies of the first element. -/
def Frame.collapse : Frame → Frame
  | ⟨[], count⟩ => ⟨[], count⟩
  | ⟨element :: rest, count⟩ => ⟨element :: rest, element.occurs.collapse count⟩

@[simp] theorem Frame.collapse_fresh (rest : Alternative) :
    Frame.collapse ⟨rest, 0⟩ = ⟨rest, 0⟩ := by
  cases rest with
  | nil => rfl
  | cons element rest => rw [Frame.collapse, Occurs.collapse_zero]

@[simp] theorem Frame.collapse_rest (frame : Frame) : frame.collapse.rest = frame.rest := by
  obtain ⟨rest, count⟩ := frame
  cases rest <;> rfl

/-- Collapse the copies in all frames. -/
def Stack.collapse (stack : Stack) : Stack where
  frames := stack.frames.map Frame.collapse
  owner := stack.owner

namespace Search

/-! ## A search that counts -/

/-- The places in an alternative of `owner` behind an occurrence of `target`. -/
def returnsInBy (counting : Counting) (target owner : RuleId) : Alternative → List Stack
  | [] => []
  | element :: rest =>
      let behind := returnsInBy counting target owner rest
      if element.symbol = .rule target then
        ⟨[⟨element :: rest, counting element.occurs 0⟩], owner⟩ :: behind
      else behind

/-- The places in a grammar behind the uses of a production. -/
def returnsOfBy (counting : Counting) (table : RuleTable) (target : RuleId) : List Stack :=
  table.flatMap fun rule => rule.alternatives.flatMap (returnsInBy counting target rule.id)

/-- Prepare a grammar. -/
def prepareBy (counting : Counting) (table : RuleTable) (start : RuleId) : Search where
  table
  roots := rootsOf table start
  returns := table.map fun rule => (rule.id, returnsOfBy counting table rule.id)

/-- All moves of a stack. -/
def movesBy (counting : Counting) (search : Search) (stack : Stack) : List Move :=
  match stack.frames with
  | [] =>
      (if search.roots.contains stack.owner then [.finish] else []) ++
        (search.behind stack.owner).map .silent
  | ⟨[], _⟩ :: below => [.silent { stack with frames := below }]
  | ⟨element :: rest, count⟩ :: below =>
      (if element.occurs.min ≤ count then
        [.silent { stack with frames := ⟨rest, 0⟩ :: below }] else []) ++
      (if element.occurs.isFull count then []
        else
          search.begin element.symbol
            { stack with frames := ⟨element :: rest, counting element.occurs count⟩ :: below })

/-- The worklist of a prepared grammar after so many turns. -/
def turnsBy (counting : Counting) (table : RuleTable) (start : RuleId) (depth : Nat)
    (shared : Option SequenceSet) (origin : Stack) (count : Nat) : Worklist :=
  turnsWith (movesBy counting (prepareBy counting table start)) depth shared origin count

end Search

/-- The stacks that the search begins with at a decision. -/
def Site.branchesBy (counting : Counting) : Site → List Stack
  | .choice rule => Decision.choiceBranches rule
  | .loop owner _ element rest =>
      let again : Frame := ⟨element :: rest, counting element.occurs element.occurs.min⟩
      [⟨[⟨[{ symbol := element.symbol }], 0⟩, again], owner⟩, ⟨[⟨rest, 0⟩], owner⟩]

namespace Search

variable {table : RuleTable} {start : RuleId} {counting : Counting}

/-! ## The search counts in one of the ways

With the way that the search counts, all of this is what the search has. -/

theorem returnsInBy_nextCount (target owner : RuleId) (alternative : Alternative) :
    returnsInBy Occurs.nextCount target owner alternative = returnsIn target owner alternative := by
  induction alternative with
  | nil => rfl
  | cons element rest ih => rw [returnsInBy, returnsIn, ih]

theorem prepareBy_nextCount (table : RuleTable) (start : RuleId) :
    prepareBy Occurs.nextCount table start = prepare table start := by
  have same : returnsInBy Occurs.nextCount = returnsIn := by
    funext target owner alternative
    exact returnsInBy_nextCount target owner alternative
  have returns : returnsOfBy Occurs.nextCount table = returnsOf table := by
    funext target
    rw [returnsOfBy, returnsOf, same]
  rw [prepareBy, prepare, returns]

theorem movesBy_nextCount (search : Search) : movesBy Occurs.nextCount search = search.moves :=
  rfl

theorem turnsBy_nextCount (table : RuleTable) (start : RuleId) (depth : Nat)
    (shared : Option SequenceSet) (origin : Stack) (count : Nat) :
    turnsBy Occurs.nextCount table start depth shared origin count =
      (prepare table start).turns depth shared origin count := by
  rw [turnsBy, prepareBy_nextCount, movesBy_nextCount, turns_eq_turnsWith]

theorem branchesBy_nextCount (site : Site) : site.branchesBy Occurs.nextCount = site.branches := by
  cases site <;> rfl

/-! ## Collapsed stacks move as before -/

theorem returnsIn_eq_collapse (target owner : RuleId) (alternative : Alternative) :
    returnsIn target owner alternative =
      (returnsInBy Occurs.countUp target owner alternative).map Stack.collapse := by
  induction alternative with
  | nil => rfl
  | cons element rest ih =>
      have one : element.occurs.nextCount 0 = element.occurs.collapse 1 := by
        rw [← Occurs.nextCount_collapse, Occurs.collapse_zero]
      rw [returnsIn, returnsInBy, ih, one]
      split <;> rfl

/-- The places behind a use are looked up among the productions. -/
theorem behind_prepareBy (id : RuleId) : (prepareBy counting table start).behind id =
    ((table.find? (·.id == id)).map fun rule => returnsOfBy counting table rule.id).getD [] := by
  have lookup : (prepareBy counting table start).returns.find? (·.1 == id) =
      (table.find? (·.id == id)).map fun rule => (rule.id, returnsOfBy counting table rule.id) := by
    rw [prepareBy, List.find?_map]
    rfl
  rw [behind, lookup]
  cases table.find? (·.id == id) <;> rfl

theorem behind_eq_collapse (id : RuleId) : (prepare table start).behind id =
    ((prepareBy Occurs.countUp table start).behind id).map Stack.collapse := by
  have returns : ∀ target, returnsOfBy Occurs.nextCount table target =
      (returnsOfBy Occurs.countUp table target).map Stack.collapse := by
    intro target
    have each : ∀ owner, returnsInBy Occurs.nextCount target owner =
        fun alternative => (returnsInBy Occurs.countUp target owner alternative).map
          Stack.collapse := by
      intro owner
      funext alternative
      rw [returnsInBy_nextCount, returnsIn_eq_collapse]
    simp only [returnsOfBy, each, List.map_flatMap]
  rw [← prepareBy_nextCount, behind_prepareBy, behind_prepareBy]
  cases table.find? (·.id == id) with
  | none => rfl
  | some rule => exact returns rule.id

theorem begin_collapse (symbol : Symbol) (stack : Stack) :
    (prepare table start).begin symbol stack.collapse =
      ((prepareBy counting table start).begin symbol stack).map (.fold Stack.collapse) := by
  cases symbol with
  | token id => rfl
  | rule id =>
      simp only [begin, List.map_map]
      refine List.map_congr_left fun alternative _ => ?_
      simp [Move.fold, Stack.collapse]

/-- A collapsed stack has the moves of the stack, collapsed. -/
theorem moves_collapse (stack : Stack) : (prepare table start).moves stack.collapse =
    (movesBy Occurs.countUp (prepareBy Occurs.countUp table start) stack).map
      (.fold Stack.collapse) := by
  obtain ⟨frames, owner⟩ := stack
  match frames with
  | [] =>
      have behind := @behind_eq_collapse table start owner
      simp only [Stack.collapse, List.map_nil, moves, movesBy, List.map_append, List.map_map,
        apply_ite (List.map (Move.fold Stack.collapse)), behind]
      rfl
  | ⟨[], count⟩ :: below => rfl
  | ⟨element :: rest, count⟩ :: below =>
      have begins := @begin_collapse table start Occurs.countUp element.symbol
        ⟨⟨element :: rest, count + 1⟩ :: below, owner⟩
      simp only [Stack.collapse, List.map_cons, Frame.collapse] at begins
      simp only [Stack.collapse, List.map_cons, Frame.collapse, moves, movesBy, List.map_append,
        Occurs.min_le_collapse, Occurs.isFull_collapse, Occurs.nextCount_collapse, begins,
        apply_ite (List.map (Move.fold Stack.collapse)), Occurs.countUp, List.map_nil]
      simp [Move.fold, Stack.collapse]

theorem branches_eq_collapse (site : Site) :
    site.branches = (site.branchesBy Occurs.countUp).map Stack.collapse := by
  cases site with
  | choice rule =>
      simp [Site.branches, Site.branchesBy, Decision.choiceBranches, Stack.collapse]
  | loop owner before element rest =>
      have again : element.occurs.nextCount element.occurs.min =
          element.occurs.collapse (element.occurs.min + 1) := by
        rw [← Occurs.nextCount_collapse, Occurs.collapse_min]
      simp only [Site.branches, Site.branchesBy, Decision.loopBranches, again, List.map_cons,
        List.map_nil, Stack.collapse, Frame.collapse_fresh]
      rfl

end Search

end StrongLL
