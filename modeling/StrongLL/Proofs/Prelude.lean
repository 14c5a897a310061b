import Mathlib.Data.List.Forall2
import Mathlib.Data.List.TakeWhile

/-!
# Steps that can fail, greatest values, and what was not seen yet

A sequence of steps succeeds if each of them does, and fails with the failure of the
first that does not.
-/

namespace StrongLL

variable {ε α β : Type}

theorem bind_eq_ok {step : Except ε α} {next : α → Except ε β} {result : β} :
    (step >>= next) = .ok result ↔ ∃ value, step = .ok value ∧ next value = .ok result := by
  cases step <;> simp [bind, Except.bind]

/-- One step behind another one that only succeeds or fails. -/
theorem then_eq_ok {step : Except ε PUnit} {next : Except ε β} {result : β} :
    (step >>= fun _ => next) = .ok result ↔ step = .ok ⟨⟩ ∧ next = .ok result := by
  cases step <;> simp [bind, Except.bind]

theorem bind_eq_error {step : Except ε α} {next : α → Except ε β} {failure : ε} :
    (step >>= next) = .error failure ↔
      step = .error failure ∨ ∃ value, step = .ok value ∧ next value = .error failure := by
  cases step <;> simp [bind, Except.bind]

theorem map_eq_ok {step : Except ε α} {next : α → β} {result : β} :
    next <$> step = .ok result ↔ ∃ value, step = .ok value ∧ next value = result := by
  cases step <;> simp [Functor.map, Except.map]

theorem map_eq_error {step : Except ε α} {next : α → β} {failure : ε} :
    next <$> step = .error failure ↔ step = .error failure := by
  cases step <;> simp [Functor.map, Except.map]

theorem toOption_eq_some {step : Except ε α} {result : α} :
    step.toOption = some result ↔ step = .ok result := by
  cases step <;> simp [Except.toOption]

/-- What is tested of a result holds of one that is there. -/
theorem exists_ok_of_any {step : Except ε α} {test : α → Bool}
    (passed : step.toOption.any test = true) : ∃ result, step = .ok result ∧ test result = true := by
  obtain ⟨result, found, tested⟩ := Option.any_eq_true _ _ |>.mp passed
  exact ⟨result, toOption_eq_some.mp found, tested⟩

/-- A step behind a condition under which something is thrown. -/
theorem of_unless_throw_then {condition : Prop} [Decidable condition] {failure : ε}
    {next : PUnit → Except ε α} {result : α}
    (passed : (if condition then throw failure >>= next else next ()) = .ok result) :
    ¬ condition ∧ next () = .ok result := by
  split at passed
  · cases passed
  · rename_i holds
    exact ⟨holds, passed⟩

/-- Such a step succeeds if the condition does not hold and what is behind it succeeds. -/
theorem unless_throw_then_eq_ok {condition : Prop} [Decidable condition] {failure : ε}
    {next : PUnit → Except ε α} {result : α} :
    (if condition then throw failure >>= next else next ()) = .ok result ↔
      ¬ condition ∧ next () = .ok result := by
  refine ⟨of_unless_throw_then, ?_⟩
  rintro ⟨holds, passed⟩
  rw [if_neg holds]
  exact passed

/-- Another failure than the one that is thrown came from behind it. -/
theorem of_throw_then_eq_error {condition : Prop} [Decidable condition] {thrown failure : ε}
    {next : PUnit → Except ε α}
    (failed : (if condition then throw thrown >>= next else next ()) = .error failure)
    (other : thrown ≠ failure) : next () = .error failure := by
  split at failed
  · exact absurd (Except.error.inj failed) other
  · exact failed

theorem of_unless_throw {condition : Prop} [Decidable condition] {failure : ε}
    {next : Except ε α} {result : α}
    (passed : (if condition then throw failure else next) = .ok result) :
    ¬ condition ∧ next = .ok result := by
  split at passed
  · cases passed
  · rename_i holds
    exact ⟨holds, passed⟩

theorem forall₂_of_mapM_eq_ok {step : α → Except ε β} {items : List α} {results : List β}
    (made : items.mapM step = .ok results) :
    List.Forall₂ (fun item result => step item = .ok result) items results := by
  induction items generalizing results with
  | nil =>
      obtain rfl : [] = results := Except.ok.inj made
      exact .nil
  | cons item rest ih =>
      rw [List.mapM_cons] at made
      obtain ⟨first, madeFirst, made⟩ := bind_eq_ok.mp made
      obtain ⟨others, madeOthers, made⟩ := bind_eq_ok.mp made
      obtain rfl := Except.ok.inj made
      exact .cons madeFirst (ih madeOthers)

theorem exists_of_mem_right {relation : α → β → Prop} {left : List α} {right : List β}
    (pairs : List.Forall₂ relation left right) {item : β} (member : item ∈ right) :
    ∃ other ∈ left, relation other item := by
  induction pairs with
  | nil => simp at member
  | @cons first second _ _ related _ ih =>
      rcases List.mem_cons.mp member with rfl | member
      · exact ⟨first, by simp, related⟩
      · obtain ⟨other, inside, found⟩ := ih member
        exact ⟨other, by simp [inside], found⟩

theorem eq_nil_iff_of_forall₂ {relation : α → β → Prop} {left : List α} {right : List β}
    (pairs : List.Forall₂ relation left right) : left = [] ↔ right = [] := by
  rw [← List.length_eq_zero_iff, pairs.length_eq, List.length_eq_zero_iff]

theorem exists_of_mapM_eq_error {step : α → Except ε β} {items : List α} {failure : ε}
    (failed : items.mapM step = .error failure) : ∃ item ∈ items, step item = .error failure := by
  induction items with
  | nil => cases failed
  | cons item rest ih =>
      rw [List.mapM_cons] at failed
      rcases bind_eq_error.mp failed with here | ⟨first, _, failed⟩
      · exact ⟨item, by simp, here⟩
      · rcases bind_eq_error.mp failed with later | ⟨others, _, never⟩
        · obtain ⟨other, member, found⟩ := ih later
          exact ⟨other, by simp [member], found⟩
        · cases never

theorem forall_of_forM_eq_ok {step : α → Except ε Unit} {items : List α}
    (passed : items.forM step = .ok ()) : ∀ item ∈ items, step item = .ok () := by
  induction items with
  | nil => simp
  | cons item rest ih =>
      have passed : (step item >>= fun _ => rest.forM step) = .ok () := passed
      obtain ⟨⟨⟩, first, others⟩ := bind_eq_ok.mp passed
      intro other member
      rcases List.mem_cons.mp member with rfl | member
      · exact first
      · exact ih others other member

/-- A greatest value is within a limit if all the values are. -/
theorem foldl_max_le_iff (measure : α → Nat) {items : List α} {bound limit : Nat} :
    items.foldl (fun bound item => max bound (measure item)) bound ≤ limit ↔
      bound ≤ limit ∧ ∀ item ∈ items, measure item ≤ limit := by
  induction items generalizing bound with
  | nil => simp
  | cons first rest ih =>
      rw [List.foldl_cons, ih, Nat.max_le, List.forall_mem_cons, and_assoc]

/-- A greatest value is not below the values that it was taken of. -/
theorem le_foldl_max (measure : α → Nat) {items : List α} {bound : Nat} :
    bound ≤ items.foldl (fun bound item => max bound (measure item)) bound ∧
      ∀ item ∈ items, measure item ≤
        items.foldl (fun bound item => max bound (measure item)) bound :=
  (foldl_max_le_iff measure).mp (Nat.le_refl _)

/-- The greatest of more values is not less. -/
theorem foldl_max_mono {measure : α → Nat} {measure' : β → Nat} {items : List α} {items' : List β}
    {bound : Nat} (covered : ∀ item ∈ items, ∃ item' ∈ items', measure item = measure' item') :
    items.foldl (fun bound item => max bound (measure item)) bound ≤
      items'.foldl (fun bound item => max bound (measure' item)) bound := by
  obtain ⟨grows, above⟩ := @le_foldl_max β measure' items' bound
  refine (foldl_max_le_iff measure).mpr ⟨grows, fun item member => ?_⟩
  obtain ⟨item', inside, same⟩ := covered item member
  exact same ▸ above item' inside

/-! ## What a search goes to next -/

/-- Only items that pass the test are dropped in front of the first that does not. -/
theorem of_dropWhile_eq_cons {test : α → Bool} {items rest : List α} {item : α}
    (left : items.dropWhile test = item :: rest) :
    test item = false ∧ (∀ other ∈ item :: rest, other ∈ items) ∧
      ∀ other ∈ items, test other = true ∨ other ∈ item :: rest := by
  refine ⟨?_, fun other member => ?_, fun other member => ?_⟩
  · have stopped := List.head?_dropWhile_not test items
    simpa [left] using stopped
  · exact (List.dropWhile_suffix test).subset (left ▸ member)
  · rw [← List.takeWhile_append_dropWhile (p := test) (l := items), left] at member
    exact (List.mem_append.mp member).imp_left (List.mem_takeWhile_imp (p := test))

/-- A search that goes to the first item that it has not seen keeps all that it knows. -/
theorem of_dropWhile_seen [BEq α] [LawfulBEq α] {seen pending rest : List α} {item : α}
    (left : pending.dropWhile seen.contains = item :: rest) :
    item ∉ seen ∧ (∀ other ∈ item :: rest, other ∈ pending) ∧
      ∀ other, other ∈ seen ∨ other ∈ pending → other ∈ item :: seen ∨ other ∈ rest := by
  obtain ⟨isNew, among, split⟩ := of_dropWhile_eq_cons left
  refine ⟨fun member => ?_, among, fun other known => ?_⟩
  · rw [List.contains_iff_mem.mpr member] at isNew
    cases isNew
  · rcases known with isSeen | isPending
    · exact .inl (List.mem_cons_of_mem _ isSeen)
    · rcases split other isPending with isSeen | member
      · exact .inl (List.mem_cons_of_mem _ (List.contains_iff_mem.mp isSeen))
      · rcases List.mem_cons.mp member with rfl | later
        · exact .inl (List.mem_cons_self ..)
        · exact .inr later

/-- A search without an item to go to has seen all of them. -/
theorem of_dropWhile_seen_eq_nil [BEq α] [LawfulBEq α] {seen pending : List α}
    (left : pending.dropWhile seen.contains = []) : ∀ other ∈ pending, other ∈ seen :=
  fun other member => List.contains_iff_mem.mp (List.dropWhile_eq_nil_iff.mp left other member)

end StrongLL
