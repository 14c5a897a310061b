import Mathlib.Data.List.Perm.Subperm
import Mathlib.Data.Prod.Lex
import Mathlib.Logic.Function.Iterate
import Mathlib.Logic.Relation
import StrongLL.LookAhead.Search

/-!
# A worklist turns until it is empty

The sequences ahead of a branch can be found with a single worklist, a state of which is a
stack together with the terminals that were read on the way to it. Whatever moves stacks
have, each turn keeps that what was searched leads to what was searched or is pending. As a
state is searched once, the worklist runs empty if finitely many states can be reached, and
has then found what these complete. If stacks are folded so that a folded stack moves as
the stack does, both searches find the same.
-/

namespace StrongLL

/-- Fold the stack that a move leads to. -/
def Move.fold (onto : Stack → Stack) : Move → Move
  | .silent target => .silent (onto target)
  | .shift token target => .shift token (onto target)
  | .finish => .finish

namespace Search

variable {depth : Nat} {shared : Option SequenceSet}

/-! ## States -/

/-- A stack to go on with, and the terminals that were read on the way to it. -/
structure Spot where
  stack : Stack
  read : Terminals
  deriving DecidableEq

/-- Whether a sequence begins like one that is shared at the depth before. -/
def admits (depth : Nat) (shared : Option SequenceSet) (sequence : Terminals) : Bool :=
  match shared with
  | none => true
  | some set => set.members.any (sequence.take (depth - 1)).isPrefixOf

/-- The terminal that a move takes. -/
def terminal? : Move → Option Terminal
  | .silent _ => none
  | .shift token _ => some (.token token)
  | .finish => some .eof

/-- Where a move leads, unless a sequence is complete or is not admitted. -/
def Spot.push (depth : Nat) (shared : Option SequenceSet) (spot : Spot) : Move → Option Spot
  | .silent target => some ⟨target, spot.read⟩
  | .shift token target =>
      let sequence := spot.read ++ [.token token]
      if admits depth shared sequence && !Terminals.isComplete sequence depth then
        some ⟨target, sequence⟩
      else none
  | .finish => none

/-- The sequence that a move completes. -/
def Spot.complete (depth : Nat) (shared : Option SequenceSet) (spot : Spot) (move : Move) :
    Option Terminals :=
  ((terminal? move).map fun terminal => spot.read ++ [terminal]).filter fun sequence =>
    admits depth shared sequence && Terminals.isComplete sequence depth

/-- The states that a state leads to by moves. -/
def pushesWith (moves : Stack → List Move) (depth : Nat) (shared : Option SequenceSet)
    (spot : Spot) : List Spot :=
  (moves spot.stack).filterMap (spot.push depth shared)

/-- The sequences that a state completes by moves. -/
def completesWith (moves : Stack → List Move) (depth : Nat) (shared : Option SequenceSet)
    (spot : Spot) : List Terminals :=
  (moves spot.stack).filterMap (spot.complete depth shared)

/-! ## Turns -/

/-- States to search, those that were searched, and the sequences found. -/
structure Worklist where
  pending : List Spot
  seen : List Spot := []
  found : List Terminals := []

/-- The worklist of a search from one stack. -/
def Worklist.initial (origin : Stack) : Worklist where
  pending := [⟨origin, []⟩]

/-- Take the state that was pushed last, and search it unless that was done before. -/
def turnWith (moves : Stack → List Move) (depth : Nat) (shared : Option SequenceSet)
    (work : Worklist) : Worklist :=
  match work.pending with
  | [] => work
  | spot :: rest =>
      if spot ∈ work.seen then { work with pending := rest }
      else
        { pending := (pushesWith moves depth shared spot).reverse ++ rest
          seen := spot :: work.seen
          found := completesWith moves depth shared spot ++ work.found }

/-- The worklist after so many turns. -/
def turnsWith (moves : Stack → List Move) (depth : Nat) (shared : Option SequenceSet)
    (origin : Stack) (count : Nat) : Worklist :=
  (turnWith moves depth shared)^[count] (.initial origin)

/-- The moves of stacks lead from state to state, and complete sequences, as relations say. -/
structure Realizes (moves : Stack → List Move) (depth : Nat) (shared : Option SequenceSet)
    (leads : Spot → Spot → Prop) (ends : Spot → Terminals → Prop) : Prop where
  pushes : ∀ {spot next}, next ∈ pushesWith moves depth shared spot ↔ leads spot next
  completes : ∀ {spot sequence},
    sequence ∈ completesWith moves depth shared spot ↔ ends spot sequence

/-- Where a worklist stands: what was searched leads to what was searched or is pending,
and what it completes was found. -/
structure Stands (leads : Spot → Spot → Prop) (ends : Spot → Terminals → Prop)
    (origin : Stack) (work : Worklist) : Prop where
  distinct : work.seen.Nodup
  begun : ⟨origin, []⟩ ∈ work.seen ∨ ⟨origin, []⟩ ∈ work.pending
  reached : ∀ spot, spot ∈ work.seen ∨ spot ∈ work.pending →
    Relation.ReflTransGen leads ⟨origin, []⟩ spot
  closed : ∀ spot ∈ work.seen, ∀ next, leads spot next →
    next ∈ work.seen ∨ next ∈ work.pending
  found : ∀ sequence, sequence ∈ work.found ↔ ∃ spot ∈ work.seen, ends spot sequence

namespace Stands

variable {moves : Stack → List Move} {leads : Spot → Spot → Prop}
  {ends : Spot → Terminals → Prop} {origin : Stack}

theorem initial (origin : Stack) : Stands leads ends origin (.initial origin) where
  distinct := .nil
  begun := .inr (List.mem_singleton_self _)
  reached spot member := by
    obtain rfl : spot = ⟨origin, []⟩ := by simpa [Worklist.initial] using member
    exact .refl
  closed := by simp [Worklist.initial]
  found := by simp [Worklist.initial]

/-- A state that was searched before is dropped. -/
theorem skip {spot : Spot} {rest seen : List Spot} {found : List Terminals}
    (stands : Stands leads ends origin ⟨spot :: rest, seen, found⟩) (old : spot ∈ seen) :
    Stands leads ends origin ⟨rest, seen, found⟩ := by
  have stays : ∀ other, other ∈ seen ∨ other ∈ spot :: rest → other ∈ seen ∨ other ∈ rest := by
    rintro other (isSeen | isPending)
    · exact .inl isSeen
    · rcases List.mem_cons.mp isPending with rfl | isPending
      · exact .inl old
      · exact .inr isPending
  exact {
    distinct := stands.distinct
    begun := stays _ stands.begun
    reached := fun other member =>
      stands.reached other (member.imp_right (List.mem_cons_of_mem _))
    closed := fun other member next step => stays _ (stands.closed other member next step)
    found := stands.found }

/-- A new state is searched. -/
theorem visit (realizes : Realizes moves depth shared leads ends) {spot : Spot}
    {rest seen : List Spot} {found : List Terminals}
    (stands : Stands leads ends origin ⟨spot :: rest, seen, found⟩) (isNew : spot ∉ seen) :
    Stands leads ends origin
      { pending := (pushesWith moves depth shared spot).reverse ++ rest
        seen := spot :: seen
        found := completesWith moves depth shared spot ++ found } := by
  have isReached := stands.reached spot (.inr (List.mem_cons_self ..))
  have stays : ∀ other, other ∈ seen ∨ other ∈ spot :: rest → other ∈ spot :: seen ∨
      other ∈ (pushesWith moves depth shared spot).reverse ++ rest := by
    rintro other (isSeen | isPending)
    · exact .inl (List.mem_cons_of_mem _ isSeen)
    · rcases List.mem_cons.mp isPending with rfl | isPending
      · exact .inl (List.mem_cons_self ..)
      · exact .inr (List.mem_append_right _ isPending)
  constructor
  · exact List.nodup_cons.mpr ⟨isNew, stands.distinct⟩
  · exact stays _ stands.begun
  · rintro other (isSeen | isPending)
    · rcases List.mem_cons.mp isSeen with rfl | isSeen
      · exact isReached
      · exact stands.reached other (.inl isSeen)
    · rcases List.mem_append.mp isPending with pushed | isPending
      · exact isReached.tail (realizes.pushes.mp (List.mem_reverse.mp pushed))
      · exact stands.reached other (.inr (List.mem_cons_of_mem _ isPending))
  · intro other member next step
    rcases List.mem_cons.mp member with rfl | member
    · exact .inr (List.mem_append_left _ (List.mem_reverse.mpr (realizes.pushes.mpr step)))
    · exact stays _ (stands.closed other member next step)
  · intro sequence
    simp only [List.mem_append, realizes.completes, stands.found sequence, List.mem_cons,
      exists_eq_or_imp]

/-- Each turn keeps where the worklist stands. -/
theorem turn (realizes : Realizes moves depth shared leads ends) {work : Worklist}
    (stands : Stands leads ends origin work) :
    Stands leads ends origin (turnWith moves depth shared work) := by
  obtain ⟨pending, seen, found⟩ := work
  cases pending with
  | nil => exact stands
  | cons spot rest =>
      simp only [turnWith]
      split
      · rename_i old
        exact stands.skip old
      · rename_i isNew
        exact stands.visit realizes isNew

end Stands

variable {moves : Stack → List Move} {leads : Spot → Spot → Prop}
  {ends : Spot → Terminals → Prop} {origin : Stack}

theorem stands_turnsWith (realizes : Realizes moves depth shared leads ends) (origin : Stack)
    (count : Nat) : Stands leads ends origin (turnsWith moves depth shared origin count) := by
  induction count with
  | zero => exact .initial origin
  | succ count ih =>
      rw [turnsWith, Function.iterate_succ_apply']
      exact ih.turn realizes

/-! ## The worklist runs empty -/

/-- How many states of a bound are not yet seen, and how many are pending. -/
def remaining (bound : List Spot) (work : Worklist) : Nat ×ₗ Nat :=
  toLex (bound.length - work.seen.length, work.pending.length)

namespace Stands

/-- A turn sees a state more, or it drops one that is pending. -/
theorem remaining_turn (realizes : Realizes moves depth shared leads ends) {bound : List Spot}
    (within : ∀ spot, Relation.ReflTransGen leads ⟨origin, []⟩ spot → spot ∈ bound)
    {work : Worklist} (stands : Stands leads ends origin work) (waiting : work.pending ≠ []) :
    remaining bound (turnWith moves depth shared work) < remaining bound work := by
  have next := stands.turn realizes
  have inBound := (List.subperm_of_subset next.distinct fun spot member =>
    within spot (next.reached spot (.inl member))).length_le
  obtain ⟨pending, seen, found⟩ := work
  cases pending with
  | nil => exact absurd rfl waiting
  | cons spot rest =>
      rw [remaining, remaining, Prod.Lex.toLex_lt_toLex]
      by_cases old : spot ∈ seen
      · exact .inr (by simp [turnWith, old])
      · simp only [turnWith, if_neg old, List.length_cons] at inBound ⊢
        exact .inl (by omega)

/-- If there are finitely many states to reach, the worklist runs empty. -/
theorem exists_empty (realizes : Realizes moves depth shared leads ends) {bound : List Spot}
    (within : ∀ spot, Relation.ReflTransGen leads ⟨origin, []⟩ spot → spot ∈ bound)
    {work : Worklist} (stands : Stands leads ends origin work) :
    ∃ count, ((turnWith moves depth shared)^[count] work).pending = [] := by
  induction left : remaining bound work using WellFoundedLT.induction generalizing work with
  | _ left ih =>
      subst left
      by_cases empty : work.pending = []
      · exact ⟨0, empty⟩
      · have fewer := stands.remaining_turn realizes within empty
        obtain ⟨count, done⟩ := ih _ fewer (stands.turn realizes) rfl
        exact ⟨count + 1, done⟩

/-- When nothing is pending, everything that is reached was searched. -/
theorem found_of_empty {work : Worklist} (stands : Stands leads ends origin work)
    (empty : work.pending = []) {sequence : Terminals} :
    sequence ∈ work.found ↔ ∃ spot, Relation.ReflTransGen leads ⟨origin, []⟩ spot ∧
      ends spot sequence := by
  have done : ∀ {spot}, spot ∈ work.seen ∨ spot ∈ work.pending → spot ∈ work.seen := by
    rintro spot (isSeen | isPending)
    · exact isSeen
    · simp [empty] at isPending
  have all : ∀ spot, spot ∈ work.seen ↔ Relation.ReflTransGen leads ⟨origin, []⟩ spot := by
    intro spot
    constructor
    · exact fun member => stands.reached spot (.inl member)
    · intro reached
      induction reached with
      | refl => exact done stands.begun
      | tail _ step ih => exact done (stands.closed _ ih _ step)
  simp only [stands.found, all]

end Stands

/-! ## At least one terminal is read -/

/-- With no terminals to read the worklist turns as with one: a sequence is complete as soon
as there is a terminal in it. -/
theorem turnsWith_zero (moves : Stack → List Move) (shared : Option SequenceSet)
    (origin : Stack) (count : Nat) :
    turnsWith moves 0 shared origin count = turnsWith moves 1 shared origin count := by
  have complete : ∀ read terminal, Terminals.isComplete (read ++ [terminal]) 0 =
      Terminals.isComplete (read ++ [terminal]) 1 := by
    intro read terminal
    simp [Terminals.isComplete]
  have pushes : Spot.push 0 shared = Spot.push 1 shared := by
    funext spot move
    cases move with
    | silent target => rfl
    | shift token target =>
        simp only [Spot.push, complete]
        rfl
    | finish => rfl
  have completes : Spot.complete 0 shared = Spot.complete 1 shared := by
    funext spot move
    unfold Spot.complete
    cases terminal? move with
    | none => rfl
    | some terminal =>
        simp only [Option.map_some, Option.filter_some, complete]
        rfl
  have turn : turnWith moves 0 shared = turnWith moves 1 shared := by
    funext work
    simp only [turnWith, pushesWith, completesWith, pushes, completes]
  rw [turnsWith, turnsWith, turn]

/-! ## Folding stacks -/

/-- Fold the stack of a state. -/
def Spot.fold (onto : Stack → Stack) (spot : Spot) : Spot :=
  ⟨onto spot.stack, spot.read⟩

/-- The states that a search from a stack comes to by moves. -/
def Reaches (moves : Stack → List Move) (depth : Nat) (shared : Option SequenceSet)
    (origin : Stack) (spot : Spot) : Prop :=
  Relation.ReflTransGen (fun spot next => next ∈ pushesWith moves depth shared spot)
    ⟨origin, []⟩ spot

theorem realizes_self : Realizes moves depth shared
    (fun spot next => next ∈ pushesWith moves depth shared spot)
    (fun spot sequence => sequence ∈ completesWith moves depth shared spot) :=
  ⟨Iff.rfl, Iff.rfl⟩

section Fold

variable {onto : Stack → Stack} {folded : Stack → List Move}

theorem push_fold (spot : Spot) (move : Move) :
    (spot.fold onto).push depth shared (move.fold onto) =
      (spot.push depth shared move).map (.fold onto) := by
  cases move with
  | silent target => rfl
  | shift token target =>
      simp only [Spot.push, Move.fold, apply_ite (Option.map _)]
      rfl
  | finish => rfl

theorem complete_fold (spot : Spot) (move : Move) :
    (spot.fold onto).complete depth shared (move.fold onto) =
      spot.complete depth shared move := by
  cases move <;> rfl

theorem pushesWith_fold (simulates : ∀ stack, folded (onto stack) = (moves stack).map (.fold onto))
    (spot : Spot) : pushesWith folded depth shared (spot.fold onto) =
      (pushesWith moves depth shared spot).map (.fold onto) := by
  have stack : (spot.fold onto).stack = onto spot.stack := rfl
  rw [pushesWith, pushesWith, stack, simulates, List.filterMap_map, List.map_filterMap]
  exact List.filterMap_congr fun move _ => push_fold spot move

theorem completesWith_fold
    (simulates : ∀ stack, folded (onto stack) = (moves stack).map (.fold onto)) (spot : Spot) :
    completesWith folded depth shared (spot.fold onto) =
      completesWith moves depth shared spot := by
  have stack : (spot.fold onto).stack = onto spot.stack := rfl
  rw [completesWith, completesWith, stack, simulates, List.filterMap_map]
  exact List.filterMap_congr fun move _ => complete_fold spot move

/-- Folded, a state is one of the folded search. -/
theorem Reaches.fold (simulates : ∀ stack, folded (onto stack) = (moves stack).map (.fold onto))
    {spot : Spot} (reaches : Reaches moves depth shared origin spot) :
    Reaches folded depth shared (onto origin) (spot.fold onto) := by
  induction reaches with
  | refl => exact .refl
  | tail _ pushed ih =>
      refine ih.tail ?_
      rw [pushesWith_fold simulates]
      exact List.mem_map_of_mem pushed

/-- Each state of the folded search is a folded one. -/
theorem Reaches.exists_fold
    (simulates : ∀ stack, folded (onto stack) = (moves stack).map (.fold onto))
    {image : Spot} (reaches : Reaches folded depth shared (onto origin) image) :
    ∃ spot, Reaches moves depth shared origin spot ∧ spot.fold onto = image := by
  induction reaches with
  | refl => exact ⟨_, .refl, rfl⟩
  | tail _ pushed ih =>
      obtain ⟨spot, reached, rfl⟩ := ih
      rw [pushesWith_fold simulates] at pushed
      obtain ⟨next, step, rfl⟩ := List.mem_map.mp pushed
      exact ⟨next, reached.tail step, rfl⟩

/-- If folded stacks move as stacks do, both worklists end with the same sequences. -/
theorem mem_found_fold (simulates : ∀ stack, folded (onto stack) = (moves stack).map (.fold onto))
    {count countFolded : Nat}
    (empty : (turnsWith moves depth shared origin count).pending = [])
    (emptyFolded : (turnsWith folded depth shared (onto origin) countFolded).pending = [])
    {sequence : Terminals} :
    sequence ∈ (turnsWith moves depth shared origin count).found ↔
      sequence ∈ (turnsWith folded depth shared (onto origin) countFolded).found := by
  rw [(stands_turnsWith realizes_self origin count).found_of_empty empty,
    (stands_turnsWith realizes_self (onto origin) countFolded).found_of_empty emptyFolded]
  constructor
  · rintro ⟨spot, reaches, completed⟩
    refine ⟨spot.fold onto, Reaches.fold simulates reaches, ?_⟩
    rwa [completesWith_fold simulates]
  · rintro ⟨image, reaches, completed⟩
    obtain ⟨spot, reached, rfl⟩ := Reaches.exists_fold simulates reaches
    rw [completesWith_fold simulates] at completed
    exact ⟨spot, reached, completed⟩

end Fold

end Search

end StrongLL
