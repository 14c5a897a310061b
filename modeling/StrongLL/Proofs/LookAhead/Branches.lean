import StrongLL.Proofs.LookAhead.Runs

/-!
# The branches of decisions

The stacks with which a decision begins its search run through exactly what can be
ahead of its branches. The search restarts behind the least number of copies that
are needed; any greater number that leaves a choice has the same continuations,
since an element repeats without regard to its copies except for the bounds.
-/

namespace StrongLL

open RuleTable Search

variable {table : RuleTable} {start : RuleId}

/-- The stacks that the search begins with at a decision. -/
def Site.branches : Site → List Stack
  | .choice rule => Decision.choiceBranches rule
  | .loop owner _ element rest => Decision.loopBranches owner element rest

namespace Search

/-! ## Sound stacks go on -/

theorem FrameSound.exists_yields (productive : table.Productive) {frame : Frame}
    (sound : FrameSound table frame) : ∃ word, FrameYields table frame word := by
  obtain ⟨elements, count⟩ := frame
  cases elements with
  | nil => exact ⟨[], .nothing count⟩
  | cons element rest =>
      have valid := sound.bounded element (by simp)
      have admitted : element.occurs.Admits (count + (element.occurs.min - count)) := by
        refine Occurs.admits_iff.mpr ⟨by omega, fun max bound => ?_⟩
        have leastFits := (Occurs.admits_iff.mp (Occurs.admits_min valid)).2 max bound
        have countFits := sound.count_le_max bound
        omega
      obtain ⟨first, copies⟩ := exists_derives_copies
        (productive.exists_derives_symbol (sound.resolved element (by simp)))
        (element.occurs.min - count)
      obtain ⟨others, back⟩ : ∃ others, table.Derives (.row rest) others :=
        productive.exists_derives_row
          (fun other member => sound.bounded other (by simp [member]))
          (fun other member => sound.resolved other (by simp [member]))
      exact ⟨first ++ others, .element admitted copies back⟩

/-- Every sound stack runs through some word. -/
theorem StackSound.exists_runs (wellFormed : table.WellFormed) (productive : table.Productive)
    {stack : Stack} (sound : StackSound table stack) :
    ∃ word, Runs table start stack word := by
  obtain ⟨frames, owner⟩ := stack
  have frameWords : ∃ inner, FramesYield table frames inner := by
    have each := sound.frames
    clear sound
    induction frames with
    | nil => exact ⟨[], .nil⟩
    | cons frame below ih =>
        obtain ⟨first, yields⟩ := (each frame (by simp)).exists_yields productive
        obtain ⟨others, more⟩ := ih (fun other member => each other (by simp [member]))
        exact ⟨first ++ others, .cons yields more⟩
  obtain ⟨inner, yields⟩ := frameWords
  obtain ⟨outer, follows⟩ := exists_follows wellFormed productive start owner
  exact ⟨inner ++ outer, runs_of_yields sound.owner ⟨inner, outer, yields, follows, rfl⟩⟩

theorem framesYield_single {frame : Frame} {word : List TokenId} :
    FramesYield table [frame] word ↔ FrameYields table frame word := by
  constructor
  · intro yields
    cases yields with
    | cons top below =>
        cases below
        simpa using top
  · intro yields
    simpa using FramesYield.cons yields .nil

/-- An element with bounds of once yields what its symbol derives. -/
theorem frameYields_symbol {symbol : Symbol} {word : List TokenId} :
    FrameYields table ⟨[{ symbol }], 0⟩ word ↔ table.Derives (.symbol symbol) word := by
  constructor
  · intro yields
    cases yields with
    | @element _ _ _ more first others admitted copies back =>
        cases back
        have once := Occurs.admits_iff.mp admitted
        have atLeast : 1 ≤ 0 + more := once.1
        have atMost : 0 + more ≤ 1 := once.2 1 rfl
        obtain rfl : more = 1 := by omega
        cases copies with
        | oneMore copy none =>
            cases none
            simpa using copy
  · intro copy
    rw [frameYields_zero]
    simpa using derives_row_once copy .nothing

end Search

namespace Site

/-- The production of a decision is in the table. -/
theorem In.owner_known {site : Site} (present : site.In table) :
    site.owner ∈ table.map (·.id) := by
  cases site with
  | choice rule => exact List.mem_map_of_mem present.1
  | loop owner before element rest =>
      obtain ⟨rule, found, _⟩ := exists_rule_of_mem_alternatives present.1
      obtain ⟨inTable, same⟩ := mem_of_rule? found
      exact same ▸ List.mem_map_of_mem inTable

/-- A repetition that leaves a choice does so behind its mandatory copies. -/
theorem min_lt_max {occurs : Occurs} (valid : occurs.isValid = true)
    (isVariable : occurs.isVariable = true) {max : Nat} (bound : occurs.max = some max) :
    occurs.min < max := by
  simp [Occurs.isValid, bound] at valid
  simp [Occurs.isVariable, bound] at isVariable
  omega

/-- The stack that a branch starts with: an alternative, one more copy of an element, or
what stands behind the copies. -/
inductive StartsWith : Site → (branch : Nat) → Stack → Prop where
  | choice {rule : Rule} {branch : Nat} {alternative : Alternative}
      (chosen : rule.alternatives[branch]? = some alternative) :
      StartsWith (.choice rule) branch ⟨[⟨alternative, 0⟩], rule.id⟩
  | again (owner : RuleId) (before : Alternative) (element : Element) (rest : Alternative) :
      StartsWith (.loop owner before element rest) 0
        ⟨[⟨[{ symbol := element.symbol }], 0⟩,
          ⟨element :: rest, element.occurs.nextCount element.occurs.min⟩], owner⟩
  | done (owner : RuleId) (before : Alternative) (element : Element) (rest : Alternative) :
      StartsWith (.loop owner before element rest) 1 ⟨[⟨rest, 0⟩], owner⟩

theorem startsWith_of_getElem? {site : Site} {branch : Nat} {stack : Stack}
    (atBranch : site.branches[branch]? = some stack) : site.StartsWith branch stack := by
  cases site with
  | choice rule =>
      simp only [branches, Decision.choiceBranches, List.getElem?_map, Option.map_eq_some_iff]
        at atBranch
      obtain ⟨alternative, chosen, rfl⟩ := atBranch
      exact .choice chosen
  | loop owner before element rest =>
      match branch with
      | 0 =>
          obtain rfl := Option.some.inj atBranch
          exact .again owner before element rest
      | 1 =>
          obtain rfl := Option.some.inj atBranch
          exact .done owner before element rest
      | branch + 2 => simp [branches, Decision.loopBranches] at atBranch

theorem branch_owner {site : Site} {branch : Nat} {stack : Stack}
    (atBranch : site.branches[branch]? = some stack) : stack.owner = site.owner := by
  cases startsWith_of_getElem? atBranch with
  | choice => rfl
  | again => rfl
  | done => rfl

/-- A branch starts with at least one frame. -/
theorem branch_begun {site : Site} {branch : Nat} {stack : Stack}
    (atBranch : site.branches[branch]? = some stack) : 1 ≤ stack.frames.length := by
  cases startsWith_of_getElem? atBranch with
  | choice => exact Nat.le_refl 1
  | again => exact Nat.le_succ 1
  | done => exact Nat.le_refl 1

/-- The search begins with sound stacks. -/
theorem branch_sound (wellFormed : table.WellFormed) {site : Site} (present : site.In table)
    {branch : Nat} {stack : Stack} (atBranch : site.branches[branch]? = some stack) :
    StackSound table stack := by
  refine ⟨?_, branch_owner atBranch ▸ present.owner_known⟩
  cases startsWith_of_getElem? atBranch with
  | @choice rule branch alternative chosen =>
      have lookup := alternatives_of_rule? (rule?_of_mem wellFormed.distinct present.1)
      have inRule : alternative ∈ table.alternatives rule.id :=
        lookup ▸ List.mem_of_getElem? chosen
      intro frame member
      obtain rfl := List.mem_singleton.mp member
      exact frameSound_of_mem wellFormed inRule _ fun _ inside => inside
  | again owner before element rest =>
      obtain ⟨use, isVariable⟩ := present
      have fromUse := frameSound_of_mem wellFormed use (element :: rest)
        (fun other member => List.mem_append_right before member)
      have valid := fromUse.bounded element (by simp)
      have again : FrameSound table
          ⟨element :: rest, element.occurs.nextCount element.occurs.min⟩ := by
        have atMin : FrameSound table ⟨element :: rest, element.occurs.min⟩ :=
          { fromUse with
            count := by
              simp only [Frame.limit]
              cases bound : element.occurs.max with
              | none => exact Nat.le_refl _
              | some max => exact Nat.le_of_lt (min_lt_max valid isVariable bound) }
        apply atMin.nextCount
        apply Occurs.isFull_eq_false_iff.mpr
        intro max bound
        exact min_lt_max valid isVariable bound
      have copy : FrameSound table ⟨[{ symbol := element.symbol }], 0⟩ := by
        refine ⟨?_, ?_, Nat.zero_le _⟩
        · intro other member
          obtain rfl := List.mem_singleton.mp member
          rfl
        · intro other member id symbol
          obtain rfl := List.mem_singleton.mp member
          exact fromUse.resolved element (by simp) id symbol
      intro frame inside
      rcases List.mem_cons.mp inside with rfl | inside
      · exact copy
      · obtain rfl := List.mem_singleton.mp inside
        exact again
  | done owner before element rest =>
      intro frame inside
      obtain rfl := List.mem_singleton.mp inside
      exact frameSound_of_mem wellFormed present.1 rest fun other member => by simp [member]

/-- Something stands before the decision about a further copy. -/
theorem exists_derives_before (wellFormed : table.WellFormed) (productive : table.Productive)
    {owner : RuleId} {before rest : Alternative} {element : Element}
    (use : before ++ element :: rest ∈ table.alternatives owner) :
    (∃ front, table.Derives (.row before) front) ∧
      ∃ past, table.Derives (.copies element.symbol element.occurs.min) past := by
  have facts := wellFormed.of_mem_alternatives use
    (show element ∈ before ++ element :: rest by simp)
  exact ⟨exists_derives_part wellFormed productive use before fun other member => by simp [member],
    exists_derives_copies (productive.exists_derives_symbol facts.2) element.occurs.min⟩

/-- The frames of a branch yield what the branch derives inside the production. -/
theorem framesYield_branch (wellFormed : table.WellFormed) (productive : table.Productive)
    {site : Site} (present : site.In table) {branch : Nat} {stack : Stack}
    (atBranch : site.branches[branch]? = some stack) {word : List TokenId} :
    FramesYield table stack.frames word ↔ site.Inner table branch word := by
  cases startsWith_of_getElem? atBranch with
  | choice chosen =>
      rw [framesYield_single, frameYields_zero]
      constructor
      · intro derived
        exact .choice chosen derived
      · intro inner
        cases inner with
        | choice chosen' derived =>
            obtain rfl := Option.some.inj (chosen.symm.trans chosen')
            exact derived
  | again owner before element rest =>
      obtain ⟨⟨front, frontDerived⟩, past, pastDerived⟩ :=
        exists_derives_before wellFormed productive present.1
      constructor
      · intro yields
        cases yields with
        | cons top below =>
            have copy := frameYields_symbol.mp top
            cases framesYield_single.mp below with
            | @element _ _ _ more _ _ admitted copies back =>
                rw [← List.append_assoc]
                exact .again frontDerived pastDerived (Nat.le_refl _)
                  (Occurs.admits_nextCount_add.mp admitted) (.oneMore copy copies) back
      · intro inner
        cases inner with
        | @again _ _ _ _ count later _ _ first others _ _ reached admitted more back =>
            cases more with
            | oneMore copy copies =>
                rw [List.append_assoc]
                refine .cons (frameYields_symbol.mpr copy)
                  (framesYield_single.mpr (.element ?_ copies back))
                apply Occurs.admits_nextCount_add.mpr
                refine Occurs.admits_iff.mpr ⟨by omega, fun max bound => ?_⟩
                have atMost := (Occurs.admits_iff.mp admitted).2 max bound
                omega
  | done owner before element rest =>
      obtain ⟨use, isVariable⟩ := present
      obtain ⟨⟨front, frontDerived⟩, past, pastDerived⟩ :=
        exists_derives_before wellFormed productive use
      have valid := (wellFormed.of_mem_alternatives use
        (show element ∈ before ++ element :: rest by simp)).1
      rw [framesYield_single, frameYields_zero]
      constructor
      · intro derived
        refine .done frontDerived pastDerived (Nat.le_refl _) ?_ derived
        apply Occurs.isFull_eq_false_iff.mpr
        intro max bound
        exact min_lt_max valid isVariable bound
      · intro inner
        cases inner with
        | done _ _ _ _ back => exact back

/-- From a branch the search runs through exactly what can be ahead of it. -/
theorem runs_branch (wellFormed : table.WellFormed) (productive : table.Productive)
    {site : Site} (present : site.In table) {branch : Nat} {stack : Stack}
    (atBranch : site.branches[branch]? = some stack) {word : List TokenId} :
    Runs table start stack word ↔ site.Ahead table (table.IsRoot start) firstCopy branch word := by
  have sound := branch_sound wellFormed present atBranch
  constructor
  · intro run
    obtain ⟨inner, outer, frames, follows, rfl⟩ :=
      yields_of_runs wellFormed productive sound run
    exact ⟨inner, outer, (framesYield_branch wellFormed productive present atBranch).mp frames,
      branch_owner atBranch ▸ follows, rfl⟩
  · rintro ⟨inner, outer, inside, follows, rfl⟩
    exact runs_of_yields sound.owner ⟨inner, outer,
      (framesYield_branch wellFormed productive present atBranch).mpr inside,
      (branch_owner atBranch).symm ▸ follows, rfl⟩

end Site

end StrongLL
