import StrongLL.Proofs.LookAhead.Counting

/-!
# Collapsing counts is harmless

A search that counts all copies finds what the search finds that collapses them. As
collapsed stacks move as before, it is left to show that counting all copies comes to an
end, too. It would not if a copy could be empty: but then the table is refused. Otherwise
between two copies of an unbounded element a terminal is read, so that the copies in a
frame exceed the terminals that were read by no more than the lower bound, the copy that
a repetition begins with and the one that is under way.
-/

namespace StrongLL

open RuleTable

variable {table : RuleTable}

/-! ## Frames -/

/-- Whether a frame can be left without a terminal. -/
def Frame.CanVanish (table : RuleTable) : Frame → Prop
  | ⟨[], _⟩ => True
  | ⟨element :: rest, count⟩ =>
      (element.occurs.min ≤ count ∨ element.isSkippable table.nullable = true) ∧
        ∀ other ∈ rest, other.isSkippable table.nullable = true

theorem Frame.canVanish_fresh {rest : Alternative} :
    Frame.CanVanish table ⟨rest, 0⟩ ↔
      ∀ element ∈ rest, element.isSkippable table.nullable = true := by
  cases rest with
  | nil => simp [CanVanish]
  | cons element rest =>
      have optional : element.occurs.min ≤ 0 → element.isSkippable table.nullable = true := by
        intro none
        simp [Element.isSkippable, Nat.le_zero.mp none]
      simp only [CanVanish, List.forall_mem_cons, or_iff_right_of_imp optional]

/-- If the production of a copy can be empty, so can the copies that are missing. -/
theorem Frame.CanVanish.of_copy {element : Element} {rest alternative : Alternative}
    {count copies : Nat} {id : RuleId} (symbol : element.symbol = .rule id)
    (chosen : alternative ∈ table.alternatives id) (copy : Frame.CanVanish table ⟨alternative, 0⟩)
    (behind : Frame.CanVanish table ⟨element :: rest, copies⟩) :
    Frame.CanVanish table ⟨element :: rest, count⟩ := by
  have inNullable := mem_nullable chosen (Frame.canVanish_fresh.mp copy)
  exact ⟨.inr (by simp [Element.isSkippable, symbol, inNullable]), behind.2⟩

/-- An unbounded element has no more copies than its lower bound and so many. -/
def Frame.ExceedsBy (frame : Frame) (surplus : Nat) : Prop :=
  ∀ element rest, frame.rest = element :: rest → element.occurs.max = none →
    frame.count ≤ element.occurs.min + surplus

theorem Frame.exceedsBy_fresh (rest : Alternative) (surplus : Nat) :
    Frame.ExceedsBy ⟨rest, 0⟩ surplus :=
  fun _ _ _ _ => Nat.zero_le _

theorem Frame.ExceedsBy.mono {frame : Frame} {lesser greater : Nat} (less : lesser ≤ greater)
    (exceeds : frame.ExceedsBy lesser) : frame.ExceedsBy greater :=
  fun element rest same unbounded =>
    (exceeds element rest same unbounded).trans (Nat.add_le_add_left less _)

theorem Frame.ExceedsBy.oneMore {rest : Alternative} {count surplus : Nat}
    (exceeds : Frame.ExceedsBy ⟨rest, count⟩ surplus) :
    Frame.ExceedsBy ⟨rest, count + 1⟩ (surplus + 1) :=
  fun element others same unbounded => Nat.succ_le_succ (exceeds element others same unbounded)

/-- No element of an alternative repeats without bound what can be empty. -/
def LoopFree (table : RuleTable) (alternative : Alternative) : Prop :=
  ∀ element ∈ alternative, element.isIdleLoop table.nullable = false

theorem loopFree_of_checkLoops (passed : table.checkLoops = .ok ()) {alternative : Alternative}
    (inTable : alternative ∈ table.flatMap (·.alternatives)) : LoopFree table alternative := by
  obtain ⟨rule, member, chosen⟩ := List.mem_flatMap.mp inTable
  intro element inside
  have allowed := checkLoops_eq_ok.mp passed rule member
  simp only [List.any_eq_false, Bool.not_eq_true] at allowed
  exact allowed alternative chosen element inside

/-- Where nothing empty repeats without bound, a production that an unbounded element begins
takes a terminal. -/
theorem LoopFree.not_canVanish {element : Element} {rest alternative : Alternative} {id : RuleId}
    (allowed : LoopFree table (element :: rest)) (unbounded : element.occurs.max = none)
    (symbol : element.symbol = .rule id) (chosen : alternative ∈ table.alternatives id) :
    ¬ Frame.CanVanish table ⟨alternative, 0⟩ := by
  intro vanishes
  have inNullable := mem_nullable chosen (Frame.canVanish_fresh.mp vanishes)
  have notIdle := allowed element (List.mem_cons_self ..)
  simp [Element.isIdleLoop, symbol, unbounded, inNullable] at notIdle

/-- Where a move leads, and how many terminals it reads. -/
def Move.target? : Move → Option (Stack × Nat)
  | .silent target => some (target, 0)
  | .shift _ target => some (target, 1)
  | .finish => none

namespace Search

variable {start : RuleId} {depth : Nat} {shared : Option SequenceSet} {counting : Counting}

/-! ## What a step does to the frames -/

/-- A step from frames to frames, and the number of terminals that it reads. -/
inductive Steps (counting : Counting) (table : RuleTable) :
    List Frame → List Frame → (reads : Nat) → Prop where
  | behind (element : Element) (rest : Alternative) :
      Steps counting table [] [⟨element :: rest, counting element.occurs 0⟩] 0
  | leave (count : Nat) (below : List Frame) : Steps counting table (⟨[], count⟩ :: below) below 0
  | pass {element : Element} {rest : Alternative} {count : Nat} {below : List Frame}
      (reached : element.occurs.min ≤ count) :
      Steps counting table (⟨element :: rest, count⟩ :: below) (⟨rest, 0⟩ :: below) 0
  | token (element : Element) (rest : Alternative) (count : Nat) (below : List Frame) :
      Steps counting table (⟨element :: rest, count⟩ :: below)
        (⟨element :: rest, counting element.occurs count⟩ :: below) 1
  | rule {element : Element} {rest : Alternative} {count : Nat} {below : List Frame}
      {id : RuleId} {alternative : Alternative} (symbol : element.symbol = .rule id)
      (chosen : alternative ∈ table.alternatives id) :
      Steps counting table (⟨element :: rest, count⟩ :: below)
        (⟨alternative, 0⟩ :: ⟨element :: rest, counting element.occurs count⟩ :: below) 0

theorem mem_returnsInBy {target owner : RuleId} {alternative : Alternative} {stack : Stack}
    (member : stack ∈ returnsInBy counting target owner alternative) :
    ∃ element rest, stack.frames = [⟨element :: rest, counting element.occurs 0⟩] := by
  induction alternative with
  | nil => simp [returnsInBy] at member
  | cons element rest ih =>
      unfold returnsInBy at member
      split at member
      · rcases List.mem_cons.mp member with rfl | member
        · exact ⟨element, rest, rfl⟩
        · exact ih member
      · exact ih member

theorem mem_behind_prepareBy {id : RuleId} {stack : Stack}
    (member : stack ∈ (prepareBy counting table start).behind id) :
    ∃ element rest, stack.frames = [⟨element :: rest, counting element.occurs 0⟩] := by
  rw [behind_prepareBy] at member
  cases found : table.find? (·.id == id) with
  | none => simp [found] at member
  | some rule =>
      simp only [found, Option.map_some, Option.getD_some, returnsOfBy, List.mem_flatMap] at member
      obtain ⟨_, _, _, _, inAlternative⟩ := member
      exact mem_returnsInBy inAlternative

theorem steps_of_mem_movesBy {stack target : Stack} {move : Move} {reads : Nat}
    (step : move ∈ movesBy counting (prepareBy counting table start) stack)
    (leads : move.target? = some (target, reads)) :
    Steps counting table stack.frames target.frames reads := by
  obtain ⟨frames, owner⟩ := stack
  match frames with
  | [] =>
      simp only [movesBy, List.mem_append, List.mem_map] at step
      rcases step with ends | ⟨place, found, rfl⟩
      · split at ends
        · obtain rfl := List.mem_singleton.mp ends
          cases leads
        · simp at ends
      · obtain ⟨element, rest, same⟩ := mem_behind_prepareBy found
        cases leads
        rw [same]
        exact .behind element rest
  | ⟨[], count⟩ :: below =>
      obtain rfl := List.mem_singleton.mp step
      cases leads
      exact .leave count below
  | ⟨element :: rest, count⟩ :: below =>
      simp only [movesBy, List.mem_append] at step
      rcases step with passed | begun
      · split at passed
        · rename_i reached
          obtain rfl := List.mem_singleton.mp passed
          cases leads
          exact .pass reached
        · simp at passed
      · split at begun
        · simp at begun
        · cases symbol : element.symbol with
          | token id =>
              rw [symbol] at begun
              obtain rfl := List.mem_singleton.mp begun
              cases leads
              exact .token element rest count below
          | rule id =>
              rw [symbol] at begun
              obtain ⟨alternative, chosen, rfl⟩ := List.mem_map.mp begun
              cases leads
              exact .rule symbol chosen

/-- Where a state leads, its frames make a step. -/
theorem steps_of_mem_pushesWith {spot next : Spot}
    (pushed : next ∈
      pushesWith (movesBy counting (prepareBy counting table start)) depth shared spot) :
    ∃ reads, Steps counting table spot.stack.frames next.stack.frames reads ∧
      next.read.length = spot.read.length + reads := by
  obtain ⟨move, step, leads⟩ := List.mem_filterMap.mp pushed
  cases move with
  | silent target =>
      obtain rfl := Option.some.inj leads
      exact ⟨0, steps_of_mem_movesBy step rfl, rfl⟩
  | shift token target =>
      simp only [Spot.push, Option.ite_none_right_eq_some] at leads
      obtain rfl := Option.some.inj leads.2
      exact ⟨1, steps_of_mem_movesBy step rfl, by simp⟩
  | finish => simp [Spot.push] at leads

/-! ## Copies and terminals -/

/-- How many copies frames count when so many terminals were read. In a frame above which a
copy is under way that needs a terminal, the copy is counted ahead of it; in a frame that is
`free` of such copies it is not. -/
inductive Counted (table : RuleTable) (read : Nat) : (free : Prop) → List Frame → Prop where
  | nil {free : Prop} : Counted table read free []
  | cons {free : Prop} {frame : Frame} {below : List Frame}
      (ahead : frame.ExceedsBy (read + 2)) (atRest : free → frame.ExceedsBy (read + 1))
      (more : Counted table read (free ∧ frame.CanVanish table) below) :
      Counted table read free (frame :: below)

theorem Counted.top {read : Nat} {free : Prop} {frame : Frame} {below : List Frame}
    (exceeds : frame.ExceedsBy (read + 1))
    (more : Counted table read (free ∧ frame.CanVanish table) below) :
    Counted table read free (frame :: below) :=
  .cons (exceeds.mono (Nat.le_succ _)) (fun _ => exceeds) more

theorem Counted.imp {read : Nat} {free free' : Prop} {frames : List Frame}
    (fewer : free' → free) (counted : Counted table read free frames) :
    Counted table read free' frames := by
  induction counted generalizing free' with
  | nil => exact .nil
  | cons ahead atRest _ ih =>
      exact .cons ahead (fun isFree => atRest (fewer isFree)) (ih (And.imp_left fewer))

/-- A terminal makes up for a copy under way. -/
theorem Counted.read {read : Nat} {free : Prop} {frames : List Frame}
    (counted : Counted table read free frames) (free' : Prop) :
    Counted table (read + 1) free' frames := by
  induction counted generalizing free' with
  | nil => exact .nil
  | cons ahead _ _ ih => exact .top ahead (ih _)

theorem Counted.exceedsBy {read : Nat} {free : Prop} {frames : List Frame}
    (counted : Counted table read free frames) :
    ∀ frame ∈ frames, frame.ExceedsBy (read + 2) := by
  induction counted with
  | nil => simp
  | cons ahead _ _ ih => exact List.forall_mem_cons.mpr ⟨ahead, ih⟩

/-- Each step keeps copies and terminals in proportion. -/
theorem Counted.steps {read reads : Nat} {frames next : List Frame}
    (counted : Counted table read True frames)
    (allowed : ∀ frame ∈ frames, LoopFree table frame.rest)
    (step : Steps Occurs.countUp table frames next reads) :
    Counted table (read + reads) True next := by
  cases step with
  | behind element rest =>
      have none : Frame.ExceedsBy ⟨element :: rest, 0⟩ read := Frame.exceedsBy_fresh _ _
      exact .top none.oneMore .nil
  | leave count below =>
      obtain _ | ⟨_, _, more⟩ := counted
      exact more.imp fun _ => ⟨trivial, trivial⟩
  | pass reached =>
      obtain _ | ⟨_, _, more⟩ := counted
      refine .top (Frame.exceedsBy_fresh _ _) (more.imp ?_)
      rintro ⟨_, vanishes⟩
      exact ⟨trivial, .inl reached, Frame.canVanish_fresh.mp vanishes⟩
  | token element rest count below =>
      obtain _ | ⟨_, atRest, more⟩ := counted
      exact .top (atRest trivial).oneMore (more.read _)
  | @rule element rest count below id alternative symbol chosen =>
      obtain _ | ⟨_, atRest, more⟩ := counted
      refine .top (Frame.exceedsBy_fresh _ _)
        (.cons (atRest trivial).oneMore ?_ (more.imp ?_))
      · -- The copy that is begun needs a terminal if there is no bound to their number.
        rintro ⟨_, vanishes⟩ _ _ ⟨⟩ unbounded
        exact absurd vanishes
          ((allowed _ (List.mem_cons_self ..)).not_canVanish unbounded symbol chosen)
      · rintro ⟨⟨_, copy⟩, behind⟩
        exact ⟨trivial, .of_copy symbol chosen copy behind⟩

/-- The branches of a decision begin with no more than one copy above the lower bound. -/
theorem counted_branchesBy {site : Site} {branch : Nat} {origin : Stack}
    (atBranch : (site.branchesBy Occurs.countUp)[branch]? = some origin) :
    Counted table 0 True origin.frames := by
  have fresh : ∀ rest, Counted table 0 True [⟨rest, 0⟩] := fun rest =>
    .top (Frame.exceedsBy_fresh _ _) .nil
  cases site with
  | choice rule =>
      simp only [Site.branchesBy, Decision.choiceBranches, List.getElem?_map,
        Option.map_eq_some_iff] at atBranch
      obtain ⟨alternative, _, rfl⟩ := atBranch
      exact fresh alternative
  | loop owner before element rest =>
      rcases branch with _ | _ | branch
      · obtain rfl := Option.some.inj atBranch
        have again : Frame.ExceedsBy ⟨element :: rest, element.occurs.min + 1⟩ 1 := by
          rintro _ _ ⟨⟩ _
          exact Nat.le_refl _
        exact .top (Frame.exceedsBy_fresh _ _) (.top again .nil)
      · obtain rfl := Option.some.inj atBranch
        exact fresh rest
      · simp [Site.branchesBy] at atBranch

/-- The frames of a search come from where no element is refused. -/
theorem loopFree_sources (passed : table.checkLoops = .ok ()) {site : Site}
    (present : site.In table) {branch : Nat} {origin : Stack}
    (atBranch : site.branches[branch]? = some origin) :
    ∀ alternative ∈ sources table origin, LoopFree table alternative := by
  intro alternative member
  rcases List.mem_append.mp member with inTable | inOrigin
  · exact loopFree_of_checkLoops passed inTable
  · obtain ⟨frame, inside, rfl⟩ := List.mem_map.mp inOrigin
    cases Site.startsWith_of_getElem? atBranch with
    | choice chosen =>
        obtain rfl := List.mem_singleton.mp inside
        exact loopFree_of_checkLoops passed
          (List.mem_flatMap.mpr ⟨_, present.1, List.mem_of_getElem? chosen⟩)
    | again owner before element rest =>
        have whole := loopFree_of_checkLoops passed (mem_flatMap_alternatives present.1)
        rcases List.mem_cons.mp inside with rfl | inside
        · -- The copy that a repetition begins with is one of an element that is there once.
          intro other member
          obtain rfl := List.mem_singleton.mp member
          cases symbol : element.symbol with
          | token id => rfl
          | rule id => rfl
        · obtain rfl := List.mem_singleton.mp inside
          exact fun other member => whole other (List.mem_append_right _ member)
    | done owner before element rest =>
        have whole := loopFree_of_checkLoops passed (mem_flatMap_alternatives present.1)
        obtain rfl := List.mem_singleton.mp inside
        exact fun other member =>
          whole other (List.mem_append_right _ (List.mem_cons_of_mem _ member))

/-! ## Finitely many states -/

/-- What the search that counts all copies comes to, collapsed. -/
theorem Reaches.arises_collapse (wellFormed : table.WellFormed)
    (known : start ∈ table.map (·.id)) {origin : Stack} {spot : Spot}
    (reaches : Reaches (movesBy Occurs.countUp (prepareBy Occurs.countUp table start)) depth shared
      origin spot) :
    Arises table start depth shared origin.collapse (spot.fold Stack.collapse) := by
  have folded : Reaches (prepare table start).moves depth shared origin.collapse
      (spot.fold Stack.collapse) := Reaches.fold moves_collapse reaches
  exact Relation.ReflTransGen.mono (fun _ _ => (mem_pushes wellFormed known).mp) _ _ folded

/-- What all states of a search that counts all copies have in common. -/
structure Spot.Bounded (table : RuleTable) (origin : Stack) (depth : Nat) (spot : Spot) :
    Prop where
  folded : (spot.fold Stack.collapse).InBounds table origin.collapse depth
  counted : Counted table spot.read.length True spot.stack.frames

theorem Reaches.bounded (wellFormed : table.WellFormed) (known : start ∈ table.map (·.id))
    (acyclic : WellFounded table.Begins) {origin : Stack}
    (sound : StackSound table origin.collapse) (begun : 1 ≤ origin.frames.length)
    (allowed : ∀ alternative ∈ sources table origin.collapse, LoopFree table alternative)
    (counted : Counted table 0 True origin.frames) (positive : 1 ≤ depth) {spot : Spot}
    (reaches : Reaches (movesBy Occurs.countUp (prepareBy Occurs.countUp table start)) depth shared
      origin spot) :
    spot.Bounded table origin depth := by
  have begun : 1 ≤ origin.collapse.frames.length := by simpa [Stack.collapse] using begun
  refine ⟨(reaches.arises_collapse wellFormed known).inBounds wellFormed acyclic sound begun
    positive, ?_⟩
  induction reaches with
  | refl => exact counted
  | @tail spot next reaches pushed ih =>
      have folded := (Reaches.arises_collapse wellFormed known reaches).inBounds wellFormed acyclic
        sound begun positive
      obtain ⟨reads, step, further⟩ := steps_of_mem_pushesWith pushed
      rw [further]
      refine ih.steps (fun frame member => ?_) step
      obtain ⟨alternative, isSource, suffix⟩ :=
        folded.stack.parts frame.collapse (List.mem_map_of_mem member)
      rw [Frame.collapse_rest] at suffix
      exact fun element inside => allowed alternative isSource element (suffix.subset inside)

/-- No more copies are counted in any state of a search. -/
def copiesUpTo (table : RuleTable) (origin : Stack) (depth : Nat) : Nat :=
  greatestBound (sources table origin) + depth + 2

/-- All states of a search that counts all copies, and more. -/
def spotsUpTo (table : RuleTable) (origin : Stack) (depth : Nat) : List Spot :=
  (table.map (·.id)).flatMap fun owner =>
    (listsUpTo (framesOf (copiesUpTo table origin depth) (sources table origin))
      (heightAfter table origin depth)).flatMap fun frames =>
        (listsUpTo (tokensIn (sources table origin)) depth).map fun read => ⟨⟨frames, owner⟩, read⟩

theorem Spot.Bounded.count_le {origin : Stack} {spot : Spot}
    (bounded : spot.Bounded table origin depth) {frame : Frame}
    (member : frame ∈ spot.stack.frames) :
    frame.count ≤ copiesUpTo table origin.collapse depth := by
  have inFolded : frame.collapse ∈ (spot.fold Stack.collapse).stack.frames :=
    List.mem_map_of_mem member
  have sound := bounded.folded.stack.sound.frames _ inFolded
  obtain ⟨alternative, isSource, suffix⟩ := bounded.folded.stack.parts _ inFolded
  have exceeds := bounded.counted.exceedsBy frame member
  have short : spot.read.length < depth := bounded.folded.short
  obtain ⟨rest, count⟩ := frame
  cases rest with
  | nil => exact (show count ≤ 0 from sound.count).trans (Nat.zero_le _)
  | cons element rest =>
      have inSource : element ∈ alternative := suffix.subset (List.mem_cons_self ..)
      have limit := le_greatestBound isSource inSource
      unfold copiesUpTo
      cases bound : element.occurs.max with
      | none =>
          have surplus := exceeds element rest rfl bound
          simp only [bound, Option.getD_none] at limit
          simp only at surplus ⊢
          omega
      | some max =>
          have atMost := sound.count
          simp only [Frame.collapse, Frame.limit, Occurs.collapse_of_max bound, bound,
            Option.getD_some] at atMost limit
          simp only
          omega

theorem Spot.Bounded.mem_spotsUpTo {origin : Stack} {spot : Spot}
    (bounded : spot.Bounded table origin depth) :
    spot ∈ spotsUpTo table origin.collapse depth := by
  have low : spot.stack.frames.length ≤ heightAfter table origin.collapse depth := by
    have higher : heightAfter table origin.collapse spot.read.length + table.length + 1 ≤
        heightAfter table origin.collapse depth := by
      rw [← heightAfter_succ]
      exact heightAfter_mono bounded.folded.short
    have climbed := bounded.folded.stack.climbs.length_le
    simp only [Spot.fold, Stack.collapse, List.length_map] at climbed
    exact climbed.trans higher
  refine List.mem_flatMap.mpr ⟨spot.stack.owner, bounded.folded.stack.sound.owner,
    List.mem_flatMap.mpr ⟨spot.stack.frames, mem_listsUpTo low fun frame member => ?_,
      List.mem_map.mpr ⟨spot.read, mem_listsUpTo bounded.folded.short.le bounded.folded.read,
        rfl⟩⟩⟩
  obtain ⟨alternative, isSource, suffix⟩ :=
    bounded.folded.stack.parts frame.collapse (List.mem_map_of_mem member)
  rw [Frame.collapse_rest] at suffix
  exact mem_framesOf.mpr ⟨bounded.count_le member, alternative, isSource, suffix⟩

/-- The worklist of a search that counts all copies runs empty. -/
theorem exists_turnsBy_empty (wellFormed : table.WellFormed) (known : start ∈ table.map (·.id))
    (acyclic : WellFounded table.Begins) {origin : Stack}
    (sound : StackSound table origin.collapse) (begun : 1 ≤ origin.frames.length)
    (allowed : ∀ alternative ∈ sources table origin.collapse, LoopFree table alternative)
    (counted : Counted table 0 True origin.frames) (positive : 1 ≤ depth)
    (shared : Option SequenceSet) :
    ∃ count, (turnsBy Occurs.countUp table start depth shared origin count).pending = [] :=
  (Stands.initial origin).exists_empty realizes_self fun _ reaches =>
    (Reaches.bounded wellFormed known acyclic sound begun allowed counted positive
      reaches).mem_spotsUpTo

/-! ## The same look-ahead -/

/-- Collapsing the counts of copies is harmless. At every branch of every decision of a
table that passes the checks for endless loops, and for any depth and any shared sequences,
a worklist of states that count all copies runs empty like the one of the search; and the
sets that both end with are the same, the look-ahead of the branch. -/
theorem counts_collapse (wellFormed : table.WellFormed) (known : start ∈ table.map (·.id))
    (recursion : table.checkLeftRecursion = .ok ()) (loops : table.checkLoops = .ok ())
    {site : Site} (present : site.In table) {branch : Nat} {origin : Stack}
    (atBranch : site.branches[branch]? = some origin) (depth : Nat)
    (shared : Option SequenceSet) :
    ∃ counted, (site.branchesBy Occurs.countUp)[branch]? = some counted ∧
      (∃ count, ((prepare table start).turns depth shared origin count).pending = []) ∧
      (∃ count, (turnsBy Occurs.countUp table start depth shared counted count).pending = []) ∧
      ∀ count countAll,
        ((prepare table start).turns depth shared origin count).pending = [] →
        (turnsBy Occurs.countUp table start depth shared counted countAll).pending = [] →
        SequenceSet.ofList ((prepare table start).turns depth shared origin count).found =
          .ofList (turnsBy Occurs.countUp table start depth shared counted countAll).found ∧
        (1 ≤ depth → (∀ set, shared = some set → depth ≤ 1 → set.isEmpty = false) →
          .ofList (turnsBy Occurs.countUp table start depth shared counted countAll).found =
            (prepare table start).lookAhead depth shared origin) := by
  have acyclic := begins_wellFounded recursion
  have sound := Site.branch_sound wellFormed present atBranch
  have begun := Site.branch_begun atBranch
  have allowed := loopFree_sources loops present atBranch
  -- A depth of zero is none at all.
  obtain ⟨deep, positive, asDeep⟩ : ∃ deep, 1 ≤ deep ∧ ∀ moves origin count,
      turnsWith moves depth shared origin count = turnsWith moves deep shared origin count := by
    cases depth with
    | zero => exact ⟨1, Nat.le_refl 1, fun moves => turnsWith_zero moves shared⟩
    | succ depth => exact ⟨depth + 1, Nat.succ_pos depth, fun _ _ _ => rfl⟩
  obtain ⟨counted, atCounted, rfl⟩ :
      ∃ counted, (site.branchesBy Occurs.countUp)[branch]? = some counted ∧
        counted.collapse = origin := by
    rwa [branches_eq_collapse, List.getElem?_map, Option.map_eq_some_iff] at atBranch
  refine ⟨counted, atCounted, ?_, ?_, ?_⟩
  · obtain ⟨count, empty⟩ :=
      exists_turns_empty wellFormed known acyclic sound begun positive shared
    exact ⟨count, by rwa [turns_eq_turnsWith, asDeep]⟩
  · obtain ⟨count, empty⟩ := exists_turnsBy_empty wellFormed known acyclic sound
      (by simpa [Stack.collapse] using begun) allowed (counted_branchesBy atCounted) positive
      shared
    exact ⟨count, by rwa [turnsBy, asDeep]⟩
  · intro count countAll empty emptyAll
    have same : SequenceSet.ofList ((prepare table start).turns depth shared
        counted.collapse count).found =
          .ofList (turnsBy Occurs.countUp table start depth shared counted countAll).found := by
      refine SequenceSet.ext_mem fun sequence => ?_
      rw [SequenceSet.mem_ofList, SequenceSet.mem_ofList]
      exact (mem_found_fold moves_collapse emptyAll empty).symm
    refine ⟨same, fun positive filled => SequenceSet.ext_mem fun sequence => ?_⟩
    rw [← same, SequenceSet.mem_ofList]
    exact mem_found_iff_mem_lookAhead wellFormed known acyclic sound positive filled empty

/-- `S = A* token 1` -/
def repeatingRule : Rule where
  id := 0
  name := "S"
  origin := 0
  alternatives := [
    [{ symbol := .rule 1, occurs := .zeroOrMore }, { symbol := .token 1 }]]

/-- `A = token 0` -/
def repeatedRule : Rule where
  id := 1
  name := "A"
  origin := 1
  alternatives := [[{ symbol := .token 0 }]]

/-- A production that repeats another one without bound -/
def repeatingTable : RuleTable := [repeatingRule, repeatedRule]

theorem wellFormed_repeatingTable : repeatingTable.WellFormed where
  distinct := by decide
  resolved := by simp [repeatingTable, repeatingRule, repeatedRule]
  bounded := by decide

/-- The decision about one more copy -/
def repeatingPlace : Site :=
  .loop 0 [] { symbol := .rule 1, occurs := .zeroOrMore } [{ symbol := .token 1 }]

/-- Ahead of one more copy there can be three of them, for both ways to count. -/
theorem repeatingTable_counts_collapse : ∃ origin counted count countAll,
    repeatingPlace.branches[0]? = some origin ∧
    (repeatingPlace.branchesBy Occurs.countUp)[0]? = some counted ∧
    ((prepare repeatingTable 0).turns 3 none origin count).pending = [] ∧
    (turnsBy Occurs.countUp repeatingTable 0 3 none counted countAll).pending = [] ∧
    [.token 0, .token 0, .token 0] ∈
      (turnsBy Occurs.countUp repeatingTable 0 3 none counted countAll).found := by
  have present : repeatingPlace.In repeatingTable := ⟨by decide, by decide⟩
  obtain ⟨counted, atCounted, ⟨count, empty⟩, ⟨countAll, emptyAll⟩, same⟩ :=
    @counts_collapse repeatingTable 0 wellFormed_repeatingTable (by decide) rfl rfl
      repeatingPlace present 0 _ rfl 3 none
  refine ⟨_, counted, count, countAll, rfl, atCounted, empty, emptyAll, ?_⟩
  have set := (same count countAll empty emptyAll).2 (by decide) (by simp)
  rw [← SequenceSet.mem_ofList, set]
  exact SequenceSet.contains_iff.mp rfl

end Search

end StrongLL
