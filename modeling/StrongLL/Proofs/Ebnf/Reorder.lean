import Mathlib.Data.List.Perm.Basic
import StrongLL.Proofs.Ebnf.Validity

/-!
# Declarations in another order

The same grammar can be declared with its productions in another order, and with the
alternatives of each production and of each group in another order. One of two such
declarations is valid if the other one is.
-/

namespace StrongLL.Ebnf

/-! ## Other orders -/

/-- Elements whose groups have their alternatives in some other order, on all levels. -/
inductive Element.Reorders : Element → Element → Prop where
  | token (id : TokenId) (occurs : Occurs) : Reorders (.token id occurs) (.token id occurs)
  | rule (id : RuleId) (occurs : Occurs) : Reorders (.rule id occurs) (.rule id occurs)
  | group {rows between rows' : List (List Element)} {occurs : Occurs}
      (inside : List.Forall₂ (List.Forall₂ Reorders) rows between)
      (order : between.Perm rows') : Reorders (.group rows occurs) (.group rows' occurs)

/-- Rows of elements, one by one -/
abbrev RowReorders : List Element → List Element → Prop := List.Forall₂ Element.Reorders

/-- Alternatives in some other order. -/
def RowsReorder (rows rows' : List (List Element)) : Prop :=
  ∃ between, List.Forall₂ RowReorders rows between ∧ between.Perm rows'

/-- A production whose alternatives are in some other order. -/
structure Production.Reorders (production production' : Production) : Prop where
  id : production'.id = production.id
  name : production'.name = production.name
  alternatives : RowsReorder production.alternatives production'.alternatives

/-- Productions in some other order. -/
def ProductionsReorder (productions productions' : List Production) : Prop :=
  ∃ between, List.Forall₂ Production.Reorders productions between ∧ between.Perm productions'

/-- The same declaration in some other order. Which production it begins with is said. -/
structure Declaration.Reorders (declaration declaration' : Declaration) : Prop where
  patterns : declaration'.patterns = declaration.patterns
  productions : ProductionsReorder declaration.productions declaration'.productions
  maxLookAhead : declaration'.maxLookAhead = declaration.maxLookAhead
  caseInsensitive : declaration'.caseInsensitive = declaration.caseInsensitive
  start : declaration'.start = declaration.start
  explicit : declaration.start.isSome = true

mutual
theorem Element.Reorders.symm : {element element' : Element} → element.Reorders element' →
    element'.Reorders element
  | _, _, .token id occurs => .token id occurs
  | _, _, .rule id occurs => .rule id occurs
  | _, _, .group inside order => by
      obtain ⟨between, pairs, back⟩ := List.perm_comp_forall₂ order.symm (forall₂_rows_symm inside)
      exact .group pairs back

theorem rowReorders_symm : {row row' : List Element} → RowReorders row row' →
    RowReorders row' row
  | _, _, .nil => .nil
  | _, _, .cons first others => .cons first.symm (rowReorders_symm others)

theorem forall₂_rows_symm : {rows rows' : List (List Element)} →
    List.Forall₂ (List.Forall₂ Element.Reorders) rows rows' →
      List.Forall₂ (List.Forall₂ Element.Reorders) rows' rows
  | _, _, .nil => .nil
  | _, _, .cons first others => .cons (rowReorders_symm first) (forall₂_rows_symm others)
end

theorem Production.Reorders.symm {production production' : Production}
    (reorders : production.Reorders production') : production'.Reorders production where
  id := reorders.id.symm
  name := reorders.name.symm
  alternatives := by
    obtain ⟨between, inside, order⟩ := reorders.alternatives
    exact List.perm_comp_forall₂ order.symm (forall₂_rows_symm inside)

theorem ProductionsReorder.symm {productions productions' : List Production}
    (reorder : ProductionsReorder productions productions') :
    ProductionsReorder productions' productions := by
  obtain ⟨between, inside, order⟩ := reorder
  exact List.perm_comp_forall₂ order.symm (inside.imp fun _ _ reorders => reorders.symm).flip

theorem Declaration.Reorders.symm {declaration declaration' : Declaration}
    (reorders : declaration.Reorders declaration') : declaration'.Reorders declaration where
  patterns := reorders.patterns.symm
  productions := reorders.productions.symm
  maxLookAhead := reorders.maxLookAhead.symm
  caseInsensitive := reorders.caseInsensitive.symm
  start := reorders.start.symm
  explicit := reorders.start ▸ reorders.explicit

/-! ## Validity -/

section

variable {vocabulary : Vocabulary} {rules rules' : List RuleId}

theorem checkElements_eq_ok {row : List Element} : checkElements vocabulary rules row = .ok () ↔
    ∀ element ∈ row, element.check vocabulary rules = .ok () := by
  induction row with
  | nil => simp [checkElements]
  | cons element rest ih =>
      rw [checkElements, then_eq_ok, List.forall_mem_cons, ih]

/-- Alternatives are valid in any order. -/
theorem checkAlternatives_eq_ok {number : Nat} {rows : List (List Element)} :
    checkAlternatives vocabulary rules number rows = .ok () ↔
      ∀ row ∈ rows, row ≠ [] ∧ ∀ element ∈ row, element.check vocabulary rules = .ok () := by
  induction rows generalizing number with
  | nil => simp [checkAlternatives]
  | cons row rest ih =>
      rw [checkAlternatives, unless_throw_then_eq_ok, then_eq_ok, ih, List.forall_mem_cons,
        List.isEmpty_iff, checkElements_eq_ok, and_assoc]

/-- What is asked of a row -/
def RowPasses (vocabulary : Vocabulary) (rules : List RuleId) (row : List Element) : Prop :=
  row ≠ [] ∧ ∀ element ∈ row, element.check vocabulary rules = .ok ()

/-- What is asked of alternatives -/
def RowsPass (vocabulary : Vocabulary) (rules : List RuleId) (rows : List (List Element)) : Prop :=
  rows ≠ [] ∧ ∀ row ∈ rows, RowPasses vocabulary rules row

theorem RowsPass.perm {rows rows' : List (List Element)} (order : rows.Perm rows') :
    RowsPass vocabulary rules rows ↔ RowsPass vocabulary rules rows' := by
  have empty : rows = [] ↔ rows' = [] := ⟨fun same => (same ▸ order).nil_eq.symm,
    fun same => (same ▸ order).eq_nil⟩
  exact and_congr (not_congr empty) ⟨fun all row member => all row (order.mem_iff.mpr member),
    fun all row member => all row (order.mem_iff.mp member)⟩

theorem check_group_eq_ok {rows : List (List Element)} {occurs : Occurs} :
    (Element.group rows occurs).check vocabulary rules = .ok () ↔
      occurs.isValid = true ∧ RowsPass vocabulary rules rows := by
  rw [Element.check, unless_throw_then_eq_ok, unless_throw_then_eq_ok, checkAlternatives_eq_ok,
    RowsPass, List.isEmpty_iff]
  simp [RowPasses]

mutual
/-- The order of alternatives in groups does not matter, where the same productions are
declared. -/
theorem check_of_reorders (same : ∀ id, rules.contains id = rules'.contains id) :
    (element element' : Element) → element.Reorders element' →
      (element.check vocabulary rules = .ok () ↔ element'.check vocabulary rules' = .ok ())
  | .token id occurs, _, .token _ _ => Iff.rfl
  | .rule id occurs, _, .rule _ _ => by
      rw [Element.check, Element.check, same id]
  | .group rows occurs, _, .group inside order => by
      rw [check_group_eq_ok, check_group_eq_ok, ← RowsPass.perm order]
      exact and_congr_right' (and_congr (not_congr (eq_nil_iff_of_forall₂ inside))
        (rowsPass_of_forall₂ same rows _ inside))

theorem rowPasses_of_reorders (same : ∀ id, rules.contains id = rules'.contains id) :
    (row row' : List Element) → RowReorders row row' →
      ((∀ element ∈ row, element.check vocabulary rules = .ok ()) ↔
        ∀ element ∈ row', element.check vocabulary rules' = .ok ())
  | [], _, .nil => by simp
  | element :: rest, _, .cons first others => by
      rw [List.forall_mem_cons, List.forall_mem_cons, check_of_reorders same element _ first,
        rowPasses_of_reorders same rest _ others]

theorem rowsPass_of_forall₂ (same : ∀ id, rules.contains id = rules'.contains id) :
    (rows between : List (List Element)) → List.Forall₂ RowReorders rows between →
      ((∀ row ∈ rows, RowPasses vocabulary rules row) ↔
        ∀ row ∈ between, RowPasses vocabulary rules' row)
  | [], _, .nil => by simp
  | row :: rest, _, .cons first others => by
      rw [List.forall_mem_cons, List.forall_mem_cons, RowPasses, RowPasses,
        rowPasses_of_reorders same row _ first, rowsPass_of_forall₂ same rest _ others,
        ne_eq, eq_nil_iff_of_forall₂ first]
end

theorem ProductionsReorder.ids {productions productions' : List Production}
    (reorder : ProductionsReorder productions productions') :
    (productions.map (·.id)).Perm (productions'.map (·.id)) := by
  obtain ⟨between, inside, order⟩ := reorder
  have same : productions.map (·.id) = between.map (·.id) := by
    rw [← List.forall₂_eq_eq_eq, List.forall₂_map_left_iff, List.forall₂_map_right_iff]
    exact inside.imp fun _ _ reorders => reorders.id.symm
  exact same ▸ order.map _

end

end StrongLL.Ebnf
