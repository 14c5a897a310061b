import Mathlib.Data.List.Sort
import Mathlib.Logic.Equiv.Basic
import StrongLL.Proofs.LookAhead.Plain

/-!
# Branches in another order

Decisions between the same branches in two orders are made alike: if one can be made so can
the other, with the same depth and the same sets on each level, and they pick the same
branch.
-/

namespace StrongLL

/-! ## Items in another order -/

section

variable {α β : Type} {places : Equiv.Perm Nat} {items items' : List α}

/-- The item at each place of one list is at another place of the other list. -/
def Moved (places : Equiv.Perm Nat) (items items' : List α) : Prop :=
  ∀ place, items'[places place]? = items[place]?

theorem moved_refl (items : List α) : Moved (Equiv.refl _) items items := fun _ => rfl

theorem Moved.symm (moved : Moved places items items') : Moved places.symm items' items := by
  intro place
  rw [← moved, Equiv.apply_symm_apply]

theorem Moved.map (moved : Moved places items items') (change : α → β) :
    Moved places (items.map change) (items'.map change) := by
  intro place
  rw [List.getElem?_map, List.getElem?_map, moved]

theorem Moved.mem (moved : Moved places items items') {item : α} (member : item ∈ items) :
    item ∈ items' := by
  obtain ⟨place, found⟩ := List.mem_iff_getElem?.mp member
  exact List.mem_iff_getElem?.mpr ⟨_, (moved place).trans found⟩

theorem Moved.lt_length (moved : Moved places items items') {place : Nat} :
    places place < items'.length ↔ place < items.length := by
  rw [← not_le, ← List.getElem?_eq_none_iff, moved, List.getElem?_eq_none_iff, not_le]

/-- A single item stays where it is. -/
theorem Moved.single (moved : Moved places items items') (single : items.length ≤ 1) :
    items' = [] ∨ places 0 = 0 := by
  rcases Nat.lt_or_ge (places.symm 0) items.length with there | beyond
  · have kept : places.symm 0 = 0 := by omega
    exact .inr ((Equiv.symm_apply_eq places).mp kept).symm
  · have empty : items'[0]? = none := by
      rw [← places.apply_symm_apply 0, moved, List.getElem?_eq_none beyond]
    exact .inl (List.length_eq_zero_iff.mp (Nat.le_zero.mp (List.getElem?_eq_none_iff.mp empty)))

/-- The first item stays where it is. -/
def keepFirst (places : Equiv.Perm Nat) : Equiv.Perm Nat where
  toFun
    | 0 => 0
    | place + 1 => places place + 1
  invFun
    | 0 => 0
    | place + 1 => places.symm place + 1
  left_inv := by rintro (_ | place) <;> simp
  right_inv := by rintro (_ | place) <;> simp

theorem exists_moved (order : items.Perm items') : ∃ places, Moved places items items' := by
  induction order with
  | nil => exact ⟨Equiv.refl _, moved_refl _⟩
  | cons item _ ih =>
      obtain ⟨places, moved⟩ := ih
      refine ⟨keepFirst places, ?_⟩
      rintro (_ | place)
      · rfl
      · exact moved place
  | swap first second rest =>
      refine ⟨Equiv.swap 0 1, ?_⟩
      rintro (_ | _ | place)
      · rfl
      · rfl
      · rw [Equiv.swap_apply_of_ne_of_ne (by omega) (by omega)]
        rfl
  | trans _ _ first second =>
      obtain ⟨places, moved⟩ := first
      obtain ⟨places', moved'⟩ := second
      exact ⟨places.trans places', fun place => (moved' _).trans (moved place)⟩

end

/-! ## What is shared -/

section

variable {places : Equiv.Perm Nat} {ahead ahead' : Nat → List TokenId → Prop} {depth : Nat}
  {sequence : Terminals} (same : ∀ branch word, ahead' (places branch) word ↔ ahead branch word)

include same

theorem ahead_symm (branch : Nat) (word : List TokenId) :
    ahead (places.symm branch) word ↔ ahead' branch word := by
  rw [← same, Equiv.apply_symm_apply]

theorem heads_iff {branch : Nat} :
    Heads ahead' depth (places branch) sequence ↔ Heads ahead depth branch sequence :=
  exists_congr fun word => and_congr_left' (same branch word)

theorem Shared.moved (shared : Shared ahead depth sequence) : Shared ahead' depth sequence := by
  obtain ⟨left, right, order, inLeft, inRight⟩ := shared
  have inLeft := (heads_iff same).mpr inLeft
  have inRight := (heads_iff same).mpr inRight
  rcases Nat.lt_or_gt_of_ne (places.injective.ne (Nat.ne_of_lt order)) with before | behind
  · exact ⟨_, _, before, inLeft, inRight⟩
  · exact ⟨_, _, behind, inRight, inLeft⟩

theorem shared_iff : Shared ahead' depth sequence ↔ Shared ahead depth sequence :=
  ⟨Shared.moved (ahead_symm same), Shared.moved same⟩

end

namespace Decision

/-! ## Decisions that are made -/

/-- Decisions with the same sets on each level, in another order. -/
def Reorders (places : Equiv.Perm Nat) (decision decision' : Decision) : Prop :=
  List.Forall₂ (Moved places) decision.levels decision'.levels

theorem Reorders.depth_eq {places : Equiv.Perm Nat} {decision decision' : Decision}
    (reorders : decision.Reorders places decision') : decision'.depth = decision.depth :=
  reorders.length_eq.symm

theorem Reorders.symm {places : Equiv.Perm Nat} {decision decision' : Decision}
    (reorders : decision.Reorders places decision') :
    decision'.Reorders places.symm decision :=
  (reorders.imp fun _ _ moved => moved.symm).flip

theorem Reorders.mem_flatten {places : Equiv.Perm Nat} {decision decision' : Decision}
    (reorders : decision.Reorders places decision') {set : SequenceSet}
    (member : set ∈ decision.levels.flatten) : set ∈ decision'.levels.flatten := by
  obtain ⟨sets, atLevel, inside⟩ := List.mem_flatten.mp member
  obtain ⟨sets', atLevel', moved⟩ := exists_of_mem_right reorders.flip atLevel
  exact List.mem_flatten.mpr ⟨sets', atLevel', Moved.mem moved inside⟩

section

variable {places : Equiv.Perm Nat} {ahead ahead' : Nat → List TokenId → Prop}
  {count count' : Nat} {decision decision' : Decision}
  (same : ∀ branch word, ahead' (places branch) word ↔ ahead branch word)

include same

/-- Depths at which nothing is shared are the same in both orders. -/
theorem Decides.depth_le (decides : Decides ahead count decision)
    (decides' : Decides ahead' count' decision') : decision'.depth ≤ decision.depth := by
  by_contra less
  obtain ⟨sequence, shared⟩ :=
    decides'.least decision.depth decides.positive (Nat.lt_of_not_le less)
  exact decides.disjoint sequence ((shared_iff same).mp shared)

variable (inside : ∀ branch, places branch < count' ↔ branch < count)

include inside

theorem Level.moved {lesser : Nat} {sets sets' : List SequenceSet}
    (level : Level ahead count lesser sets) (level' : Level ahead' count' lesser sets') :
    Moved places sets sets' := by
  intro branch
  rcases Nat.lt_or_ge branch sets.length with there | none
  · have there' : places branch < sets'.length := by
      rw [level'.length, inside, ← level.length]
      exact there
    have found := List.getElem?_eq_getElem there
    have found' := List.getElem?_eq_getElem there'
    rw [found, found']
    refine congrArg some (SequenceSet.ext_mem fun sequence => ?_)
    rw [level.found _ _ found, level'.found _ _ found', heads_iff same]
    simp only [shared_iff same]
  · have none' : sets'.length ≤ places branch := by
      rw [level'.length, ← not_lt, inside, ← level.length, not_lt]
      exact none
    rw [List.getElem?_eq_none none, List.getElem?_eq_none none']

/-- Decisions between the same branches have the same sets. -/
theorem Decides.reorders (decides : Decides ahead count decision)
    (decides' : Decides ahead' count' decision') : decision.Reorders places decision' := by
  have depth : decision.levels.length = decision'.levels.length :=
    Nat.le_antisymm (decides'.depth_le (ahead_symm same) decides) (decides.depth_le same decides')
  refine List.forall₂_iff_get.mpr ⟨depth, fun lesser there there' => ?_⟩
  exact Level.moved same inside (decides.level lesser _ (List.getElem?_eq_getElem there))
    (decides'.level lesser _ (List.getElem?_eq_getElem there'))

end

section

variable {places : Equiv.Perm Nat} {ahead ahead' : Nat → List TokenId → Prop}
  {search search' : Search} {branches branches' : List Stack} {maxDepth : Nat}
  {decision decision' : Decision} (describes : Describes search branches ahead)
  (describes' : Describes search' branches' ahead')
  (same : ∀ branch word, ahead' (places branch) word ↔ ahead branch word)

include describes describes' same

theorem Describes.reorders (inside : ∀ branch, places branch < branches'.length ↔
      branch < branches.length) (made : between search maxDepth branches = .ok decision)
    (made' : between search' maxDepth branches' = .ok decision') :
    decision.Reorders places decision' :=
  Decides.reorders same inside (decides_of_resolve describes (undecided_nil _) made).1
    (decides_of_resolve describes' (undecided_nil _) made').1

end

/-! ## Branches that are picked -/

section

variable {places : Equiv.Perm Nat}

theorem mem_matching_zero {sequence : Terminals} {place : Nat} {sets : List SequenceSet} :
    place ∈ matching sequence 0 sets ↔ ∃ set, sets[place]? = some set ∧ sequence ∈ set := by
  simp only [mem_matching, Nat.zero_add, exists_and_left, exists_eq_left']

theorem matching_moved {sets sets' : List SequenceSet} (moved : Moved places sets sets')
    (sequence : Terminals) :
    ((matching sequence 0 sets).map places).Perm (matching sequence 0 sets') := by
  have distinct (sets : List SequenceSet) : (matching sequence 0 sets).Nodup :=
    (matching_ascending sequence 0 sets).imp Nat.ne_of_lt
  refine (List.perm_ext_iff_of_nodup ((distinct sets).map places.injective)
    (distinct sets')).mpr fun place => ?_
  constructor
  · intro member
    obtain ⟨before, matched, rfl⟩ := List.mem_map.mp member
    rw [mem_matching_zero, moved]
    exact mem_matching_zero.mp matched
  · intro matched
    refine List.mem_map.mpr ⟨places.symm place, ?_, places.apply_symm_apply place⟩
    rw [mem_matching_zero, ← moved, places.apply_symm_apply]
    exact mem_matching_zero.mp matched

/-- Level by level as many branches match in both orders. -/
theorem selectFrom_moved {levels levels' : List (List SequenceSet)}
    (moved : List.Forall₂ (Moved places) levels levels') (input : Terminals) (depth : Nat) :
    selectFrom input depth levels' = (selectFrom input depth levels).map places := by
  induction moved generalizing depth with
  | nil => rfl
  | @cons sets sets' _ _ here _ ih =>
      have order := matching_moved here (input.take (depth + 1))
      rw [selectFrom, selectFrom]
      generalize matching (input.take (depth + 1)) 0 sets = found at order ⊢
      generalize matching (input.take (depth + 1)) 0 sets' = found' at order ⊢
      cases found with
      | nil =>
          obtain rfl : found' = [] := order.nil_eq.symm
          rfl
      | cons left others =>
          cases others with
          | nil =>
              obtain rfl : found' = [places left] := List.perm_singleton.mp order.symm
              rfl
          | cons right others =>
              have several := order.length_eq
              cases found' with
              | nil => cases several
              | cons left' others' =>
                  cases others' with
                  | nil => cases several
                  | cons right' others' => exact ih (depth + 1)

/-- Decisions in another order pick the same branch. -/
theorem Reorders.select {decision decision' : Decision}
    (reorders : decision.Reorders places decision') (input : Terminals) :
    decision'.select input = (decision.select input).map places :=
  selectFrom_moved reorders input 0

end

end Decision

end StrongLL
