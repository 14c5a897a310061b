import Mathlib.Data.Set.Finite.Basic
import StrongLL.Proofs.LookAhead.Sequences
import StrongLL.Proofs.LookAhead.Turns

/-!
# One worklist for all terminals

The sequences ahead of a branch can be found with a single worklist, a state of which
is a stack together with the terminals that were read on the way to it. Nothing shrinks
from state to state: stacks grow with recursion, and behind the end of a production its
uses begin. Still there are only finitely many states. Without left recursion a stack
gains no more than one frame for each production before the next terminal; the stack
behind a use replaces the one that is used up; the copies of an element are counted up
to its bounds. As a state is searched once, the worklist runs empty.
-/

namespace StrongLL.Search

open RuleTable

variable {table : RuleTable} {start : RuleId} {depth : Nat} {shared : Option SequenceSet}

/-! ## The worklist -/

/-- The states that a state leads to. -/
def pushes (search : Search) (depth : Nat) (shared : Option SequenceSet) (spot : Spot) :
    List Spot :=
  (search.moves spot.stack).filterMap (spot.push depth shared)

/-- The sequences that a state completes. -/
def completes (search : Search) (depth : Nat) (shared : Option SequenceSet) (spot : Spot) :
    List Terminals :=
  (search.moves spot.stack).filterMap (spot.complete depth shared)

/-- Take the state that was pushed last, and search it unless that was done before. -/
def turn (search : Search) (depth : Nat) (shared : Option SequenceSet) (work : Worklist) :
    Worklist :=
  match work.pending with
  | [] => work
  | spot :: rest =>
      if spot ∈ work.seen then { work with pending := rest }
      else
        { pending := (search.pushes depth shared spot).reverse ++ rest
          seen := spot :: work.seen
          found := search.completes depth shared spot ++ work.found }

/-- The worklist after so many turns. -/
def turns (search : Search) (depth : Nat) (shared : Option SequenceSet) (origin : Stack)
    (count : Nat) : Worklist :=
  (search.turn depth shared)^[count] (.initial origin)

theorem turns_eq_turnsWith (search : Search) (depth : Nat) (shared : Option SequenceSet)
    (origin : Stack) (count : Nat) : search.turns depth shared origin count =
      turnsWith search.moves depth shared origin count := rfl

/-! ## What a state leads to -/

/-- One state leads to another. -/
inductive Pushes (table : RuleTable) (start : RuleId) (depth : Nat)
    (shared : Option SequenceSet) : Spot → Spot → Prop where
  | silent {stack target : Stack} {read : Terminals} (move : Silent table start stack target) :
      Pushes table start depth shared ⟨stack, read⟩ ⟨target, read⟩
  | shift {stack target : Stack} {token : TokenId} {read : Terminals}
      (move : Moves table start stack (.shift token target))
      (admitted : admits depth shared (read ++ [.token token]) = true)
      (short : read.length + 1 < depth) :
      Pushes table start depth shared ⟨stack, read⟩ ⟨target, read ++ [.token token]⟩

/-- A state completes a sequence. -/
inductive Completes (table : RuleTable) (start : RuleId) (depth : Nat)
    (shared : Option SequenceSet) : Spot → Terminals → Prop where
  | shift {stack target : Stack} {token : TokenId} {read : Terminals}
      (move : Moves table start stack (.shift token target))
      (admitted : admits depth shared (read ++ [.token token]) = true)
      (long : depth ≤ read.length + 1) :
      Completes table start depth shared ⟨stack, read⟩ (read ++ [.token token])
  | finish {stack : Stack} {read : Terminals} (move : Moves table start stack .finish)
      (admitted : admits depth shared (read ++ [.eof]) = true) :
      Completes table start depth shared ⟨stack, read⟩ (read ++ [.eof])

theorem isComplete_token {read : Terminals} {token : TokenId} :
    Terminals.isComplete (read ++ [.token token]) depth = true ↔ depth ≤ read.length + 1 := by
  simp [Terminals.isComplete]

theorem isComplete_eof {read : Terminals} :
    Terminals.isComplete (read ++ [.eof]) depth = true := by
  simp [Terminals.isComplete]

theorem mem_pushes (wellFormed : table.WellFormed) (known : start ∈ table.map (·.id))
    {spot next : Spot} :
    next ∈ (prepare table start).pushes depth shared spot ↔
      Pushes table start depth shared spot next := by
  obtain ⟨stack, read⟩ := spot
  simp only [pushes, List.mem_filterMap, mem_moves wellFormed known]
  constructor
  · rintro ⟨move, step, leads⟩
    cases move with
    | silent target =>
        obtain rfl := Option.some.inj leads
        exact .silent step
    | shift token target =>
        simp only [Spot.push, Option.ite_none_right_eq_some, Bool.and_eq_true,
          Bool.not_eq_true', ← Bool.not_eq_true, isComplete_token] at leads
        obtain ⟨⟨admitted, short⟩, same⟩ := leads
        obtain rfl := Option.some.inj same
        exact .shift step admitted (Nat.lt_of_not_le short)
    | finish => simp [Spot.push] at leads
  · intro leads
    cases leads with
    | silent step => exact ⟨_, step, rfl⟩
    | shift step admitted short =>
        refine ⟨_, step, ?_⟩
        simp only [Spot.push, Option.ite_none_right_eq_some, Bool.and_eq_true,
          Bool.not_eq_true', ← Bool.not_eq_true, isComplete_token, and_true]
        exact ⟨admitted, Nat.not_le_of_lt short⟩

theorem mem_completes (wellFormed : table.WellFormed) (known : start ∈ table.map (·.id))
    {spot : Spot} {sequence : Terminals} :
    sequence ∈ (prepare table start).completes depth shared spot ↔
      Completes table start depth shared spot sequence := by
  obtain ⟨stack, read⟩ := spot
  simp only [completes, List.mem_filterMap, mem_moves wellFormed known, Spot.complete,
    Option.filter_eq_some_iff, Option.map_eq_some_iff, Bool.and_eq_true]
  constructor
  · rintro ⟨move, step, ⟨terminal, taken, rfl⟩, admitted, complete⟩
    cases move with
    | silent target => simp [terminal?] at taken
    | shift token target =>
        obtain rfl := Option.some.inj taken
        exact .shift step admitted (isComplete_token.mp complete)
    | finish =>
        obtain rfl := Option.some.inj taken
        exact .finish step admitted
  · intro ends
    cases ends with
    | shift step admitted long =>
        exact ⟨_, step, ⟨_, rfl, rfl⟩, admitted, isComplete_token.mpr long⟩
    | finish step admitted => exact ⟨_, step, ⟨_, rfl, rfl⟩, admitted, isComplete_eof⟩

/-- What lies behind a use takes the place of a stack that is used up. -/
theorem Pushes.replaces {spot next : Spot} (leads : Pushes table start depth shared spot next)
    (usedUp : spot.stack.frames = []) :
    next.stack.frames.length = 1 ∧ next.read = spot.read := by
  cases leads with
  | silent move =>
      cases move with
      | behind => exact ⟨rfl, rfl⟩
      | leave => cases usedUp
      | pass => cases usedUp
      | rule => cases usedUp
  | shift move =>
      cases move with
      | token => cases usedUp

/-- Below the frames of a stack nothing changes. -/
theorem Pushes.owner {spot next : Spot} (leads : Pushes table start depth shared spot next)
    (frames : spot.stack.frames ≠ []) : next.stack.owner = spot.stack.owner := by
  cases leads with
  | silent move =>
      cases move with
      | behind => exact absurd rfl frames
      | leave => rfl
      | pass => rfl
      | rule => rfl
  | shift move =>
      cases move with
      | token => rfl

/-! ## Finitely many states -/

/-- The alternatives that the frames of a search are parts of. -/
def sources (table : RuleTable) (origin : Stack) : List Alternative :=
  table.flatMap (·.alternatives) ++ origin.frames.map (·.rest)

/-- The tokens that alternatives name. -/
def tokensIn (alternatives : List Alternative) : List Terminal :=
  alternatives.flatten.filterMap fun element =>
    match element.symbol with
    | .token token => some (.token token)
    | .rule _ => none

/-- The height of stacks when so many terminals were read. -/
def heightAfter (table : RuleTable) (origin : Stack) (count : Nat) : Nat :=
  origin.frames.length + count * (table.length + 1)

theorem heightAfter_succ (table : RuleTable) (origin : Stack) (count : Nat) :
    heightAfter table origin (count + 1) =
      heightAfter table origin count + table.length + 1 := by
  simp only [heightAfter, Nat.succ_mul]
  omega

theorem heightAfter_mono {origin : Stack} {lesser greater : Nat} (less : lesser ≤ greater) :
    heightAfter table origin lesser ≤ heightAfter table origin greater :=
  Nat.add_le_add_left (Nat.mul_le_mul_right _ less) _

theorem mem_tokensIn {alternatives : List Alternative} {alternative : Alternative}
    {element : Element} {token : TokenId} (known : alternative ∈ alternatives)
    (inside : element ∈ alternative) (symbol : element.symbol = .token token) :
    .token token ∈ tokensIn alternatives :=
  List.mem_filterMap.mpr ⟨element, List.mem_flatten.mpr ⟨_, known, inside⟩, by rw [symbol]⟩

/-- What all states of a search have in common. -/
structure Spot.InBounds (table : RuleTable) (origin : Stack) (depth : Nat) (spot : Spot) :
    Prop where
  stack : Within table (sources table origin) (heightAfter table origin spot.read.length)
    spot.stack
  short : spot.read.length < depth
  read : ∀ terminal ∈ spot.read, terminal ∈ tokensIn (sources table origin)

theorem Spot.InBounds.initial {origin : Stack} (sound : StackSound table origin)
    (positive : 1 ≤ depth) : Spot.InBounds table origin depth ⟨origin, []⟩ where
  stack := by
    have low : origin.frames.length ≤ heightAfter table origin 0 := Nat.le_add_right _ _
    refine ⟨sound, fun frame member => ?_, .low low, .inl low⟩
    exact ⟨frame.rest, List.mem_append_right _ (List.mem_map_of_mem member), List.suffix_refl _⟩
  short := positive
  read := by simp

theorem Spot.InBounds.pushes (wellFormed : table.WellFormed)
    (acyclic : WellFounded table.Begins) {origin : Stack} (begun : 1 ≤ origin.frames.length)
    {spot next : Spot} (bounds : spot.InBounds table origin depth)
    (leads : Pushes table start depth shared spot next) :
    next.InBounds table origin depth := by
  cases leads with
  | @silent stack target read move =>
      have all : ∀ id, ∀ alternative ∈ table.alternatives id,
          alternative ∈ sources table origin :=
        fun _ _ chosen => List.mem_append_left _ (mem_flatMap_alternatives chosen)
      have positive : 1 ≤ heightAfter table origin read.length := Nat.le_add_right_of_le begun
      exact ⟨bounds.stack.silent wellFormed acyclic positive all move, bounds.short, bounds.read⟩
  | @shift stack target token read move _ short =>
      have higher := heightAfter_succ table origin read.length
      refine ⟨?_, by simpa using short, fun terminal member => ?_⟩
      · simp only [List.length_append, List.length_singleton]
        exact bounds.stack.shift wellFormed move higher.ge
      · rcases List.mem_append.mp member with member | member
        · exact bounds.read terminal member
        · obtain rfl := List.mem_singleton.mp member
          cases move with
          | @token element rest count below owner _ _ symbol =>
              obtain ⟨alternative, isSource, suffix⟩ :=
                bounds.stack.parts ⟨element :: rest, count⟩ (List.mem_cons_self ..)
              exact mem_tokensIn isSource (suffix.subset (List.mem_cons_self ..)) symbol

/-- All states within bounds, and more. -/
def spotsWithin (table : RuleTable) (origin : Stack) (depth : Nat) : List Spot :=
  (stacksWithin table (sources table origin) (heightAfter table origin depth)).flatMap fun stack =>
    (listsUpTo (tokensIn (sources table origin)) depth).map fun read => ⟨stack, read⟩

theorem Spot.InBounds.mem_spotsWithin {origin : Stack} {spot : Spot}
    (bounds : spot.InBounds table origin depth) : spot ∈ spotsWithin table origin depth := by
  have higher : heightAfter table origin spot.read.length + table.length + 1 ≤
      heightAfter table origin depth := by
    rw [← heightAfter_succ]
    exact heightAfter_mono bounds.short
  exact List.mem_flatMap.mpr ⟨spot.stack, (bounds.stack.raise higher).mem_stacksWithin,
    List.mem_map.mpr ⟨spot.read, mem_listsUpTo bounds.short.le bounds.read, rfl⟩⟩

/-- A state that is pushed at some time in a search from a stack. -/
def Arises (table : RuleTable) (start : RuleId) (depth : Nat) (shared : Option SequenceSet)
    (origin : Stack) (spot : Spot) : Prop :=
  Relation.ReflTransGen (Pushes table start depth shared) ⟨origin, []⟩ spot

theorem Arises.inBounds (wellFormed : table.WellFormed) (acyclic : WellFounded table.Begins)
    {origin : Stack} (sound : StackSound table origin) (begun : 1 ≤ origin.frames.length)
    (positive : 1 ≤ depth) {spot : Spot} (arises : Arises table start depth shared origin spot) :
    spot.InBounds table origin depth := by
  induction arises with
  | refl => exact .initial sound positive
  | tail _ leads ih => exact ih.pushes wellFormed acyclic begun leads

/-! ## The worklist runs empty -/

theorem realizes_prepare (wellFormed : table.WellFormed) (known : start ∈ table.map (·.id)) :
    Realizes (prepare table start).moves depth shared (Pushes table start depth shared)
      (Completes table start depth shared) where
  pushes := mem_pushes wellFormed known
  completes := mem_completes wellFormed known

/-- Where the worklist of a prepared search stands. -/
abbrev Searching (table : RuleTable) (start : RuleId) (depth : Nat)
    (shared : Option SequenceSet) (origin : Stack) (work : Worklist) : Prop :=
  Stands (Pushes table start depth shared) (Completes table start depth shared) origin work

theorem Searching.initial (origin : Stack) :
    Searching table start depth shared origin (.initial origin) :=
  Stands.initial origin

theorem searching_turns (wellFormed : table.WellFormed) (known : start ∈ table.map (·.id))
    (origin : Stack) (count : Nat) :
    Searching table start depth shared origin
      ((prepare table start).turns depth shared origin count) :=
  stands_turnsWith (realizes_prepare wellFormed known) origin count

/-- If there are finitely many states to reach, the worklist runs empty. -/
theorem Searching.exists_empty (wellFormed : table.WellFormed)
    (known : start ∈ table.map (·.id)) {origin : Stack} {bound : List Spot}
    (within : ∀ spot, Arises table start depth shared origin spot → spot ∈ bound)
    {work : Worklist} (searching : Searching table start depth shared origin work) :
    ∃ count, (((prepare table start).turn depth shared)^[count] work).pending = [] :=
  Stands.exists_empty (realizes_prepare wellFormed known) within searching

/-- When nothing is pending, everything that arises was searched. -/
theorem Searching.found_of_empty {origin : Stack} {work : Worklist}
    (searching : Searching table start depth shared origin work) (empty : work.pending = [])
    {sequence : Terminals} :
    sequence ∈ work.found ↔ ∃ spot, Arises table start depth shared origin spot ∧
      Completes table start depth shared spot sequence :=
  Stands.found_of_empty searching empty

end StrongLL.Search
