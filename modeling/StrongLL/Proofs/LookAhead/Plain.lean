import Mathlib.Order.Bounds.Basic
import StrongLL.Proofs.LookAhead.Decisions

/-!
# Looking ahead level by level

A decision is made with sets that only extend what the level before shares. Without this
restriction every level would be larger, but nothing would be decided otherwise: the least
depth at which the plain sets have nothing in common is the depth of the decision.
-/

namespace StrongLL

/-- Beginnings that are not cut off are not the beginning of anything else. -/
theorem firstTerminals_eq_of_extends {depth : Nat} {word other : List TokenId}
    (isPrefix : firstTerminals depth word <+: firstTerminals depth other) :
    firstTerminals depth word = firstTerminals depth other := by
  induction depth generalizing word other with
  | zero => rfl
  | succ depth ih =>
      cases word with
      | nil =>
          cases other with
          | nil => rfl
          | cons token rest => simp at isPrefix
      | cons token rest =>
          cases other with
          | nil => simp at isPrefix
          | cons first others =>
              rw [firstTerminals_cons, firstTerminals_cons] at isPrefix ⊢
              obtain ⟨same, isPrefix⟩ := List.cons_prefix_cons.mp isPrefix
              rw [same, ih isPrefix]

namespace Decision

/-- What the branches have in common when they look `depth` terminals ahead, whatever they
have in common at lesser depths. -/
def plainConflicts (search : Search) (branches : List Stack) (depth : Nat) : SequenceSet :=
  conflicts (branches.map (search.lookAhead depth none))

variable {search : Search} {branches : List Stack} {ahead : Nat → List TokenId → Prop}

theorem Describes.mem_plain (describes : Describes search branches ahead) {branch : Nat}
    {stack : Stack} (atBranch : branches[branch]? = some stack) {depth : Nat}
    {sequence : Terminals} :
    sequence ∈ search.lookAhead depth none stack ↔ Heads ahead depth branch sequence :=
  (describes.found branch stack atBranch depth none sequence).trans (and_iff_left trivial)

theorem Describes.mem_plainConflicts (describes : Describes search branches ahead) {depth : Nat}
    {sequence : Terminals} :
    sequence ∈ plainConflicts search branches depth ↔ Shared ahead depth sequence := by
  rw [plainConflicts, Decision.mem_conflicts]
  constructor
  · rintro ⟨left, right, leftSet, rightSet, order, atLeft, atRight, inLeft, inRight⟩
    rw [List.getElem?_map, Option.map_eq_some_iff] at atLeft atRight
    obtain ⟨leftStack, atLeft, rfl⟩ := atLeft
    obtain ⟨rightStack, atRight, rfl⟩ := atRight
    exact ⟨left, right, order, (describes.mem_plain atLeft).mp inLeft,
      (describes.mem_plain atRight).mp inRight⟩
  · rintro ⟨left, right, order, inLeft, inRight⟩
    have atBranch : ∀ {branch}, Heads ahead depth branch sequence →
        ∃ stack, branches[branch]? = some stack := by
      rintro branch ⟨word, isAhead, _⟩
      exact ⟨_, List.getElem?_eq_getElem (describes.inside branch word isAhead)⟩
    obtain ⟨leftStack, atLeft⟩ := atBranch inLeft
    obtain ⟨rightStack, atRight⟩ := atBranch inRight
    exact ⟨left, right, _, _, order, by simp [atLeft], by simp [atRight],
      (describes.mem_plain atLeft).mpr inLeft, (describes.mem_plain atRight).mpr inRight⟩

/-- The depths at which branches have nothing in common. -/
theorem Describes.isEmpty_plainConflicts (describes : Describes search branches ahead)
    {depth : Nat} : (plainConflicts search branches depth).isEmpty = true ↔
      ∀ sequence, ¬ Shared ahead depth sequence := by
  rw [SequenceSet.isEmpty_iff]
  simp only [describes.mem_plainConflicts]

/-- A level holds what is plainly ahead of a branch and begins with what was shared before. -/
theorem Describes.mem_level (describes : Describes search branches ahead) {lesser : Nat}
    {sets : List SequenceSet} (level : Level ahead branches.length lesser sets) {branch : Nat}
    {stack : Stack} {set : SequenceSet} (atBranch : branches[branch]? = some stack)
    (found : sets[branch]? = some set) {sequence : Terminals} : sequence ∈ set ↔
      sequence ∈ search.lookAhead (lesser + 1) none stack ∧
        (lesser = 0 ∨ sequence.take lesser ∈ plainConflicts search branches lesser) := by
  rw [level.found branch set found, describes.mem_plain atBranch, describes.mem_plainConflicts]
  refine and_congr_right fun heads => or_congr_right ⟨?_, fun shared => ?_⟩
  · rintro ⟨other, shared, isPrefix⟩
    obtain ⟨word, _, rfl⟩ := heads
    obtain ⟨_, _, _, ⟨more, _, rfl⟩, _⟩ := id shared
    rw [take_firstTerminals (Nat.le_succ lesser)] at isPrefix ⊢
    rwa [firstTerminals_eq_of_extends isPrefix]
  · exact ⟨_, shared, List.prefix_refl _⟩

/-- A decision has the least depth at which the branches have nothing in common. -/
theorem Describes.isLeast_depth (describes : Describes search branches ahead)
    {decision : Decision} (decides : Decides ahead branches.length decision) :
    IsLeast {depth | 1 ≤ depth ∧ (plainConflicts search branches depth).isEmpty = true}
      decision.depth := by
  refine ⟨⟨decides.positive, describes.isEmpty_plainConflicts.mpr decides.disjoint⟩, ?_⟩
  rintro depth ⟨positive, empty⟩
  by_contra less
  obtain ⟨sequence, shared⟩ := decides.least depth positive (Nat.lt_of_not_le less)
  exact describes.isEmpty_plainConflicts.mp empty sequence shared

/-- A decision is made exactly if the branches have nothing in common at some depth that is
allowed, and then at the least one. -/
theorem Describes.between_eq_ok (describes : Describes search branches ahead)
    {maxDepth depth : Nat} :
    (∃ decision, between search maxDepth branches = .ok decision ∧ decision.depth = depth) ↔
      depth ≤ maxDepth ∧
        IsLeast {depth | 1 ≤ depth ∧ (plainConflicts search branches depth).isEmpty = true}
          depth := by
  constructor
  · rintro ⟨decision, made, rfl⟩
    obtain ⟨decides, atMost⟩ := decides_of_resolve describes (undecided_nil _) made
    exact ⟨by simpa using atMost, describes.isLeast_depth decides⟩
  · rintro ⟨atMost, least⟩
    obtain ⟨positive, empty⟩ := least.1
    cases result : between search maxDepth branches with
    | ok decision =>
        obtain ⟨decides, _⟩ := decides_of_resolve describes (undecided_nil _) result
        exact ⟨decision, rfl, (describes.isLeast_depth decides).unique least⟩
    | error shared =>
        have everywhere := (shared_of_resolve describes (undecided_nil _)
          (by simp only [List.length_nil]; omega) result).2
        obtain ⟨sequence, inBoth⟩ := everywhere depth positive (by simpa using atMost)
        exact (describes.isEmpty_plainConflicts.mp empty sequence inBoth).elim

/-- No decision is made exactly if the branches have something in common at each depth that
is allowed. -/
theorem Describes.between_eq_error (describes : Describes search branches ahead)
    {maxDepth : Nat} (positive : 1 ≤ maxDepth) :
    (∃ shared, between search maxDepth branches = .error shared) ↔
      ∀ depth, 1 ≤ depth → depth ≤ maxDepth →
        (plainConflicts search branches depth).isEmpty = false := by
  constructor
  · rintro ⟨shared, failed⟩ depth atLeast atMost
    have everywhere := (shared_of_resolve describes (undecided_nil _)
      (by simp only [List.length_nil]; omega) failed).2
    obtain ⟨sequence, inBoth⟩ := everywhere depth atLeast (by simpa using atMost)
    rw [Bool.eq_false_iff]
    exact fun empty => describes.isEmpty_plainConflicts.mp empty sequence inBoth
  · intro everywhere
    cases result : between search maxDepth branches with
    | error shared => exact ⟨shared, rfl⟩
    | ok decision =>
        obtain ⟨atMost, ⟨atLeast, empty⟩, _⟩ :=
          describes.between_eq_ok.mp ⟨decision, result, rfl⟩
        rw [everywhere decision.depth atLeast atMost] at empty
        cases empty

/-- Decisions between branches are those of plain look-ahead, with at most `maxDepth`
terminals. A decision has the least depth at which the branches have nothing in common, and
none is made if there is no such depth; without any depth allowed nothing is tried. Each level
keeps what begins with a conflict of the level before, and a decision picks the branch whose
look-ahead it is given. -/
structure AgreesWithPlain (search : Search) (maxDepth : Nat) (branches : List Stack) : Prop where
  made : ∀ depth,
    (∃ decision, between search maxDepth branches = .ok decision ∧ decision.depth = depth) ↔
      depth ≤ maxDepth ∧
        IsLeast {depth | 1 ≤ depth ∧ (plainConflicts search branches depth).isEmpty = true} depth
  failed : 1 ≤ maxDepth → ((∃ shared, between search maxDepth branches = .error shared) ↔
    ¬ ∃ depth, 1 ≤ depth ∧ depth ≤ maxDepth ∧
      (plainConflicts search branches depth).isEmpty = true)
  level : ∀ decision, between search maxDepth branches = .ok decision →
    ∀ (lesser : Nat) sets, decision.levels[lesser]? = some sets →
      sets.length = branches.length ∧ ∀ (branch : Nat) stack set,
        branches[branch]? = some stack → sets[branch]? = some set → ∀ sequence, sequence ∈ set ↔
          sequence ∈ search.lookAhead (lesser + 1) none stack ∧
            (lesser = 0 ∨ sequence.take lesser ∈ plainConflicts search branches lesser)
  select : ∀ decision, between search maxDepth branches = .ok decision →
    ∀ (branch : Nat) stack, branches[branch]? = some stack →
      ∀ sequence ∈ search.lookAhead decision.depth none stack,
        decision.select sequence = some branch

theorem Describes.agreesWithPlain (describes : Describes search branches ahead)
    (maxDepth : Nat) : AgreesWithPlain search maxDepth branches where
  made _ := describes.between_eq_ok
  failed positive := by
    rw [describes.between_eq_error positive]
    simp only [not_exists, not_and, Bool.not_eq_true]
  level decision made lesser sets atLesser := by
    have level := (decides_of_resolve describes (undecided_nil _) made).1.level lesser sets atLesser
    exact ⟨level.length, fun branch stack set atBranch found _ =>
      describes.mem_level level atBranch found⟩
  select decision made branch stack atBranch sequence member := by
    have decides := (decides_of_resolve describes (undecided_nil _) made).1
    exact decides.select describes.inside ((describes.mem_plain atBranch).mp member)

end Decision

end StrongLL
