import StrongLL.LookAhead.Decision

/-!
# Membership in sets of sequences

Sets with the same members are equal. What the members of composed sets are, and what
two of several sets share.
-/

namespace StrongLL

namespace SequenceSet

theorem mem_members {set : SequenceSet} {sequence : Terminals} :
    sequence ∈ set.members ↔ sequence ∈ set := Iff.rfl

/-- Sets with the same members are equal. -/
theorem ext_mem {set set' : SequenceSet}
    (same : ∀ sequence, sequence ∈ set ↔ sequence ∈ set') : set = set' := by
  have distinct (set : SequenceSet) : set.members.Nodup := by
    refine set.ascending.imp fun {left right} before => ?_
    rintro rfl
    rw [Terminals.precedes_irrefl] at before
    cases before
  have order := (List.perm_ext_iff_of_nodup (distinct set) (distinct set')).mpr same
  obtain ⟨members, ascending⟩ := set
  obtain ⟨members', ascending'⟩ := set'
  obtain rfl : members = members' := by
    refine order.eq_of_pairwise (fun left right _ _ before after => ?_) ascending ascending'
    have loop := Terminals.precedes_trans before after
    rw [Terminals.precedes_irrefl] at loop
    cases loop
  rfl

@[simp] theorem not_mem_empty (sequence : Terminals) : ¬ sequence ∈ empty := by
  intro member
  exact List.not_mem_nil member

@[simp] theorem mem_ofList {sequences : List Terminals} {sequence : Terminals} :
    sequence ∈ ofList sequences ↔ sequence ∈ sequences := by
  induction sequences with
  | nil => simp [ofList]
  | cons first rest ih =>
      have unfolded : ofList (first :: rest) = (ofList rest).insert first := rfl
      rw [unfolded, mem_insert, ih, List.mem_cons]

theorem contains_iff {set : SequenceSet} {sequence : Terminals} :
    set.contains sequence = true ↔ sequence ∈ set := List.contains_iff_mem

@[simp] theorem mem_union {left right : SequenceSet} {sequence : Terminals} :
    sequence ∈ left.union right ↔ sequence ∈ left ∨ sequence ∈ right := by
  have inserted : ∀ members : List Terminals,
      sequence ∈ members.foldr (fun sequence set => set.insert sequence) right ↔
        sequence ∈ members ∨ sequence ∈ right := by
    intro members
    induction members with
    | nil => simp
    | cons first rest ih =>
        simp only [List.foldr_cons, mem_insert, ih, List.mem_cons, or_assoc]
  exact inserted left.members

@[simp] theorem mem_inter {left right : SequenceSet} {sequence : Terminals} :
    sequence ∈ left.inter right ↔ sequence ∈ left ∧ sequence ∈ right := by
  rw [← mem_members, inter, List.mem_filter, contains_iff, mem_members]

theorem isEmpty_iff {set : SequenceSet} :
    set.isEmpty = true ↔ ∀ sequence, ¬ sequence ∈ set := by
  rw [isEmpty, List.isEmpty_iff, List.eq_nil_iff_forall_not_mem]
  rfl

end SequenceSet

namespace Decision

/-- A sequence is in conflict if two of the sets have it, at different places. -/
theorem mem_conflicts {sets : List SequenceSet} {sequence : Terminals} :
    sequence ∈ conflicts sets ↔ ∃ (left right : Nat) (leftSet rightSet : SequenceSet),
      left < right ∧ sets[left]? = some leftSet ∧ sets[right]? = some rightSet ∧
        sequence ∈ leftSet ∧ sequence ∈ rightSet := by
  have folded : ∀ (set : SequenceSet) (others : List SequenceSet) (shared : SequenceSet),
      sequence ∈ others.foldl (fun shared other => (set.inter other).union shared) shared ↔
        (∃ other ∈ others, sequence ∈ set ∧ sequence ∈ other) ∨ sequence ∈ shared := by
    intro set others
    induction others with
    | nil => simp
    | cons other rest ih =>
        intro shared
        rw [List.foldl_cons, ih, SequenceSet.mem_union, SequenceSet.mem_inter]
        simp only [List.mem_cons, exists_eq_or_imp]
        rw [← or_assoc]
        exact or_congr_left Or.comm
  induction sets with
  | nil => simp [conflicts]
  | cons set others ih =>
      rw [conflicts, folded]
      simp only [ih]
      constructor
      · rintro (⟨other, member, inSet, inOther⟩ | ⟨left, right, leftSet, rightSet, order, rest⟩)
        · obtain ⟨place, found⟩ := List.mem_iff_getElem?.mp member
          exact ⟨0, place + 1, set, other, by omega, rfl, by simpa using found, inSet, inOther⟩
        · exact ⟨left + 1, right + 1, leftSet, rightSet, by omega, by simpa using rest⟩
      · rintro ⟨left, right, leftSet, rightSet, order, atLeft, atRight, inLeft, inRight⟩
        obtain ⟨right, rfl⟩ : ∃ place, right = place + 1 := ⟨right - 1, by omega⟩
        have atRight : others[right]? = some rightSet := by simpa using atRight
        cases left with
        | zero =>
            obtain rfl : set = leftSet := by simpa using atLeft
            exact .inl ⟨rightSet, List.mem_of_getElem? atRight, inLeft, inRight⟩
        | succ left =>
            exact .inr ⟨left, right, leftSet, rightSet, by omega, by simpa using atLeft,
              atRight, inLeft, inRight⟩

end Decision

end StrongLL
