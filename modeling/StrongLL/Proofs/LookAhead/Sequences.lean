import StrongLL.Proofs.LookAhead.Explore
import StrongLL.Proofs.LookAhead.SequenceSet

/-!
# The sequences that the search finds

The search finds exactly the first terminals of the words that its stacks run
through. If it is restricted to sequences that were shared at a lesser depth, it
finds those that extend a shared sequence.
-/

namespace StrongLL.Search

open RuleTable

variable {table : RuleTable} {start : RuleId}

/-! ## What a stack shows -/

/-- A sequence of `depth` terminals, or fewer at the end of input, that moves of a stack
take one after the other. -/
inductive Shows (table : RuleTable) (start : RuleId) : (depth : Nat) → Stack → Terminals → Prop where
  | enough (stack : Stack) : Shows table start 0 stack []
  | silent {depth : Nat} {stack target : Stack} {sequence : Terminals}
      (move : Silent table start stack target)
      (ahead : Shows table start depth target sequence) : Shows table start depth stack sequence
  | shift {depth : Nat} {stack target : Stack} {token : TokenId} {rest : Terminals}
      (move : Moves table start stack (.shift token target))
      (ahead : Shows table start depth target rest) :
      Shows table start (depth + 1) stack (.token token :: rest)
  | finish {depth : Nat} {stack : Stack} (move : Moves table start stack .finish) :
      Shows table start (depth + 1) stack [.eof]

theorem Shows.eq_nil {stack : Stack} {sequence : Terminals}
    (ahead : Shows table start 0 stack sequence) : sequence = [] := by
  generalize none : 0 = depth at ahead
  induction ahead with
  | enough => rfl
  | silent _ _ ih => exact ih none
  | shift => omega
  | finish => omega

theorem Shows.of_path {depth : Nat} {stack target : Stack} {sequence : Terminals}
    (path : Relation.ReflTransGen (Silent table start) stack target)
    (ahead : Shows table start depth target sequence) :
    Shows table start depth stack sequence := by
  induction path using Relation.ReflTransGen.head_induction_on with
  | refl => exact ahead
  | head move _ ih => exact .silent move ih

/-- Silent moves lead to where the first terminal is taken. -/
theorem Shows.exists_first {depth : Nat} {first : Stack} {sequence : Terminals}
    (ahead : Shows table start (depth + 1) first sequence) :
    ∃ stack, Relation.ReflTransGen (Silent table start) first stack ∧
      ((∃ token target rest, Moves table start stack (.shift token target) ∧
          Shows table start depth target rest ∧ sequence = .token token :: rest) ∨
        (Moves table start stack .finish ∧ sequence = [.eof])) := by
  generalize deep : depth + 1 = full at ahead
  induction ahead with
  | enough => omega
  | silent move _ ih =>
      obtain ⟨stack, path, last⟩ := ih deep
      exact ⟨stack, .head move path, last⟩
  | @shift _ stack _ _ _ move ahead =>
      obtain rfl := Nat.succ.inj deep
      exact ⟨stack, .refl, .inl ⟨_, _, _, move, ahead, rfl⟩⟩
  | @finish _ stack move => exact ⟨stack, .refl, .inr ⟨move, rfl⟩⟩

theorem Runs.shows {stack : Stack} {word : List TokenId} (run : Runs table start stack word)
    (depth : Nat) : Shows table start depth stack (firstTerminals depth word) := by
  induction run generalizing depth with
  | @finish stack move =>
      cases depth with
      | zero =>
          rw [firstTerminals_zero]
          exact .enough stack
      | succ depth =>
          rw [firstTerminals_nil]
          exact .finish move
  | silent move _ ih => exact .silent move (ih depth)
  | @shift stack _ _ _ move _ ih =>
      cases depth with
      | zero =>
          rw [firstTerminals_zero]
          exact .enough stack
      | succ depth =>
          rw [firstTerminals_cons]
          exact .shift move (ih depth)

/-- What a sound stack shows are the first terminals of words that it runs through. -/
theorem shows_iff_runs (wellFormed : table.WellFormed) (productive : table.Productive)
    {depth : Nat} {stack : Stack} (sound : StackSound table stack) {sequence : Terminals} :
    Shows table start depth stack sequence ↔
      ∃ word, Runs table start stack word ∧ sequence = firstTerminals depth word := by
  constructor
  · intro ahead
    induction ahead with
    | enough stack =>
        obtain ⟨word, run⟩ := sound.exists_runs wellFormed productive
        exact ⟨word, run, rfl⟩
    | silent move _ ih =>
        obtain ⟨word, run, same⟩ := ih (move.sound wellFormed (.inl rfl) sound)
        exact ⟨word, .silent move run, same⟩
    | @shift _ _ _ token _ move _ ih =>
        obtain ⟨word, run, rfl⟩ := ih (move.sound wellFormed (.inr ⟨token, rfl⟩) sound)
        exact ⟨token :: word, .shift move run, by simp⟩
    | finish move => exact ⟨[], .finish move, by simp⟩
  · rintro ⟨word, run, rfl⟩
    exact run.shows depth

/-- Some of several stacks run through a word. -/
def SomeRuns (table : RuleTable) (start : RuleId) (sources : List Stack)
    (word : List TokenId) : Prop :=
  ∃ stack ∈ sources, Runs table start stack word

/-! ## One terminal -/

theorem mem_tokensOf {shifts : List (TokenId × Stack)} {next : Terminal} :
    next ∈ tokensOf shifts ↔ ∃ token target, next = .token token ∧ (token, target) ∈ shifts := by
  unfold tokensOf
  rw [List.mem_flatten]
  constructor
  · rintro ⟨sequence, member, inside⟩
    obtain ⟨⟨token, target⟩, taken, rfl⟩ :=
      List.mem_map.mp (SequenceSet.mem_ofList.mp member)
    exact ⟨token, target, List.mem_singleton.mp inside, taken⟩
  · rintro ⟨token, target, rfl, taken⟩
    exact ⟨[.token token], SequenceSet.mem_ofList.mpr (List.mem_map.mpr ⟨_, taken, rfl⟩),
      by simp⟩

theorem mem_stacksAfter {shifts : List (TokenId × Stack)} {token : TokenId} {target : Stack} :
    target ∈ stacksAfter (.token token) shifts ↔ (token, target) ∈ shifts := by
  simp only [stacksAfter, List.mem_filterMap, Option.ite_none_right_eq_some, Option.some.injEq,
    Terminal.token.injEq]
  constructor
  · rintro ⟨⟨_, _⟩, taken, rfl, rfl⟩
    exact taken
  · intro taken
    exact ⟨_, taken, rfl, rfl⟩

/-- A sequence extends one that is shared, up to its last terminal. -/
def Extends (shared : Option (List Terminals)) (depth : Nat) (sequence : Terminals) : Prop :=
  match shared with
  | none => True
  | some sequences => depth ≤ 1 ∨ ∃ other ∈ sequences, sequence.take (depth - 1) <+: other

theorem mem_behindFirst {sequences : List Terminals} {next : Terminal} {rest : Terminals} :
    rest ∈ sequences.filterMap (behindFirst next) ↔ next :: rest ∈ sequences := by
  rw [List.mem_filterMap]
  constructor
  · rintro ⟨sequence, member, found⟩
    cases sequence with
    | nil => simp [behindFirst] at found
    | cons terminal rest =>
        simp only [behindFirst, Option.ite_none_right_eq_some, Option.some.injEq] at found
        obtain ⟨rfl, rfl⟩ := found
        exact member
  · exact fun member => ⟨_, member, by simp [behindFirst]⟩

/-- Narrowing keeps what the rest of a sequence may extend. -/
theorem extends_cons {depth : Nat} {shared : Option (List Terminals)} {next : Terminal}
    {rest : Terminals} :
    Extends shared (depth + 1) (next :: rest) ↔
      ∃ narrowed, narrow depth shared next = some narrowed ∧ Extends narrowed depth rest := by
  cases depth with
  | zero => cases shared <;> simp [narrow, Extends]
  | succ depth =>
      cases shared with
      | none => simp [narrow, Extends]
      | some sequences =>
          have agrees : Extends (some sequences) (depth + 1 + 1) (next :: rest) ↔
              ∃ other, next :: other ∈ sequences ∧ rest.take depth <+: other := by
            simp only [Extends, Nat.add_sub_cancel, List.take_succ_cons]
            constructor
            · rintro (low | ⟨sequence, member, agrees⟩)
              · omega
              · obtain ⟨other, rfl, restAgrees⟩ := List.cons_prefix_iff.mp agrees
                exact ⟨other, member, restAgrees⟩
            · rintro ⟨other, member, agrees⟩
              exact .inr ⟨_, member, List.cons_prefix_cons.mpr ⟨rfl, agrees⟩⟩
          rw [agrees]
          simp only [narrow]
          split
          · rename_i empty
            have none : ∀ other, next :: other ∉ sequences := by
              intro other member
              have found := mem_behindFirst.mpr member
              rw [empty] at found
              exact List.not_mem_nil found
            simp [none]
          · rename_i rests notEmpty
            simp only [Option.some.injEq, exists_eq_left', Extends, Nat.add_sub_cancel,
              mem_behindFirst]
            constructor
            · rintro ⟨other, member, agrees⟩
              exact .inr ⟨other, member, agrees⟩
            · rintro (low | found)
              · obtain rfl : depth = 0 := by omega
                obtain ⟨other, member⟩ := List.exists_mem_of_ne_nil _ notEmpty
                exact ⟨other, mem_behindFirst.mp member, by simp⟩
              · exact found

theorem ne_nil_of_narrow {depth : Nat} {shared : Option (List Terminals)} {next : Terminal}
    {rests : List Terminals} (narrowing : narrow depth shared next = some (some rests)) :
    rests ≠ [] := by
  unfold narrow at narrowing
  split at narrowing
  · simp at narrowing
  · simp at narrowing
  · split at narrowing
    · simp at narrowing
    · rename_i notEmpty
      obtain rfl := Option.some.inj (Option.some.inj narrowing)
      exact notEmpty

/-- At the end of input nothing is left that would have to agree. -/
theorem extends_nil {depth : Nat} {shared narrowed : Option (List Terminals)}
    {next : Terminal} (narrowing : narrow depth shared next = some narrowed) :
    Extends narrowed depth [] := by
  cases narrowed with
  | none => trivial
  | some rests =>
      obtain ⟨rest, member⟩ := List.exists_mem_of_ne_nil rests (ne_nil_of_narrow narrowing)
      exact .inr ⟨rest, member, by simp⟩

/-! ## All terminals -/

/-- Silent moves lead from sound stacks to sound stacks. -/
theorem sound_of_leads (wellFormed : table.WellFormed) {sources : List Stack}
    (sound : ∀ stack ∈ sources, StackSound table stack) {stack : Stack}
    (led : Leads table start sources stack) : StackSound table stack := by
  obtain ⟨first, member, path⟩ := led
  induction path with
  | refl => exact sound first member
  | tail _ move ih => exact move.sound wellFormed (.inl rfl) ih

/-- Taking a token leads from sound stacks to sound stacks. -/
theorem sound_of_mem_stacksAfter (wellFormed : table.WellFormed) {sources : List Stack}
    (sound : ∀ stack ∈ sources, StackSound table stack) {walk : Walk}
    (explored : Explored table start sources walk) {token : TokenId} {stack : Stack}
    (after : stack ∈ stacksAfter (.token token) walk.shifts) : StackSound table stack := by
  obtain ⟨origin, led, move⟩ := (explored.shifts token stack).mp (mem_stacksAfter.mp after)
  exact move.sound wellFormed (.inr ⟨token, rfl⟩) (sound_of_leads wellFormed sound led)

/-- The search finds all that is shown, if all but the last terminal agree with what is
shared. -/
theorem mem_sequences_iff_shows (wellFormed : table.WellFormed)
    (acyclic : WellFounded table.Begins) (known : start ∈ table.map (·.id)) {depth : Nat}
    {shared : Option (List Terminals)} {sources : List Stack} (notEmpty : sources ≠ [])
    (sound : ∀ stack ∈ sources, StackSound table stack) {sequence : Terminals} :
    sequence ∈ (prepare table start).sequences depth shared sources ↔
      (∃ stack ∈ sources, Shows table start depth stack sequence) ∧
        Extends shared depth sequence := by
  induction depth generalizing shared sources sequence with
  | zero =>
      simp only [sequences, List.mem_singleton]
      constructor
      · rintro rfl
        obtain ⟨stack, member⟩ := List.exists_mem_of_ne_nil _ notEmpty
        refine ⟨⟨stack, member, .enough stack⟩, ?_⟩
        cases shared <;> simp [Extends]
      · rintro ⟨⟨_, _, ahead⟩, _⟩
        exact ahead.eq_nil
  | succ depth ih =>
      have explored := explored_explore wellFormed acyclic known sound
      simp only [sequences, List.mem_append, List.mem_flatMap]
      constructor
      · rintro (⟨next, taken, member⟩ | member)
        · obtain ⟨token, target, rfl, shift⟩ := mem_tokensOf.mp taken
          cases narrowing : narrow depth shared (.token token) with
          | none => simp [narrowing] at member
          | some narrowed =>
              simp only [narrowing, List.mem_map] at member
              obtain ⟨rest, inRest, rfl⟩ := member
              obtain ⟨⟨stack, inAfter, ahead⟩, agrees⟩ :=
                (ih (List.ne_nil_of_mem (mem_stacksAfter.mpr shift))
                  (fun _ => sound_of_mem_stacksAfter wellFormed sound explored)).mp inRest
              obtain ⟨origin, ⟨first, isSource, path⟩, move⟩ :=
                (explored.shifts token stack).mp (mem_stacksAfter.mp inAfter)
              exact ⟨⟨first, isSource, .of_path path (.shift move ahead)⟩,
                extends_cons.mpr ⟨narrowed, narrowing, agrees⟩⟩
        · split at member
          · rename_i ends
            obtain ⟨finishes, narrowing⟩ := Bool.and_eq_true_iff.mp ends
            obtain ⟨narrowed, narrowing⟩ := Option.isSome_iff_exists.mp narrowing
            obtain rfl := List.mem_singleton.mp member
            obtain ⟨stack, ⟨first, isSource, path⟩, move⟩ := explored.finishes.mp finishes
            exact ⟨⟨first, isSource, .of_path path (.finish move)⟩,
              extends_cons.mpr ⟨narrowed, narrowing, extends_nil narrowing⟩⟩
          · simp at member
      · rintro ⟨⟨first, isSource, ahead⟩, agrees⟩
        obtain ⟨stack, path, ⟨token, target, rest, move, restAhead, rfl⟩ | ⟨move, rfl⟩⟩ :=
          ahead.exists_first
        · obtain ⟨narrowed, narrowing, restAgrees⟩ := extends_cons.mp agrees
          have shift := (explored.shifts token target).mpr ⟨stack, ⟨first, isSource, path⟩, move⟩
          have inRest := (ih (List.ne_nil_of_mem (mem_stacksAfter.mpr shift))
            (fun _ => sound_of_mem_stacksAfter wellFormed sound explored)).mpr
            ⟨⟨target, mem_stacksAfter.mpr shift, restAhead⟩, restAgrees⟩
          refine .inl ⟨.token token, mem_tokensOf.mpr ⟨token, target, rfl, shift⟩, ?_⟩
          simp only [narrowing, List.mem_map]
          exact ⟨_, inRest, rfl⟩
        · obtain ⟨narrowed, narrowing, _⟩ := extends_cons.mp agrees
          have finishes := explored.finishes.mpr ⟨stack, ⟨first, isSource, path⟩, move⟩
          right
          rw [if_pos (Bool.and_eq_true_iff.mpr ⟨finishes, by rw [narrowing]; rfl⟩)]
          simp

/-- The search finds the first terminals of all runs, of which all but the last
agree with what is shared. -/
theorem mem_sequences (wellFormed : table.WellFormed) (productive : table.Productive)
    (acyclic : WellFounded table.Begins) (known : start ∈ table.map (·.id)) {depth : Nat}
    {shared : Option (List Terminals)} {sources : List Stack} (notEmpty : sources ≠ [])
    (sound : ∀ stack ∈ sources, StackSound table stack) {sequence : Terminals} :
    sequence ∈ (prepare table start).sequences depth shared sources ↔
      (∃ word, SomeRuns table start sources word ∧ sequence = firstTerminals depth word) ∧
        Extends shared depth sequence := by
  rw [mem_sequences_iff_shows wellFormed acyclic known notEmpty sound]
  refine and_congr_left fun _ => ?_
  constructor
  · rintro ⟨stack, member, ahead⟩
    obtain ⟨word, run, same⟩ :=
      (shows_iff_runs wellFormed productive (sound stack member)).mp ahead
    exact ⟨word, ⟨stack, member, run⟩, same⟩
  · rintro ⟨word, ⟨stack, member, run⟩, rfl⟩
    exact ⟨stack, member, run.shows depth⟩

/-- The look-ahead of a branch is that of its derivations behind first copies. -/
theorem mem_lookAhead (wellFormed : table.WellFormed) (productive : table.Productive)
    (acyclic : WellFounded table.Begins) (known : start ∈ table.map (·.id)) {site : Site}
    (present : site.In table) {branch : Nat} {stack : Stack}
    (atBranch : site.branches[branch]? = some stack) {depth : Nat}
    {shared : Option SequenceSet} {sequence : Terminals} :
    sequence ∈ (prepare table start).lookAhead depth shared stack ↔
      site.Language table (table.IsRoot start) firstCopy depth branch sequence ∧
        Extends (shared.map (·.members)) depth sequence := by
  have sound : ∀ other ∈ [stack], StackSound table other := by
    intro other member
    obtain rfl := List.mem_singleton.mp member
    exact Site.branch_sound wellFormed present atBranch
  rw [lookAhead, SequenceSet.mem_ofList, mem_sequences wellFormed productive acyclic known
    (List.cons_ne_nil _ _) sound]
  refine and_congr_left fun _ => exists_congr fun word => and_congr_left fun _ => ?_
  rw [← Site.runs_branch wellFormed productive present atBranch]
  simp [SomeRuns]

end StrongLL.Search
