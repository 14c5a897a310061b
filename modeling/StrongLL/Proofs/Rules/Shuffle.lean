import Mathlib.Data.List.Perm.Basic
import StrongLL.Proofs.Prelude
import StrongLL.Proofs.Rules.LeftCorner
import StrongLL.Proofs.Rules.Rename

/-!
# Tables in another order

Two tables have the same productions, up to the order of the productions, the order of the
alternatives in each of them, and the numbers of the auxiliary ones. What can be empty, what
is productive and what begins with what is the same in both.
-/

namespace StrongLL

/-- The same production with other numbers, and its alternatives in some other order. -/
structure Rule.Shuffles (numbering : Equiv.Perm RuleId) (rule rule' : Rule) : Prop where
  id : rule'.id = numbering rule.id
  isAuxiliary : rule'.isAuxiliary = rule.isAuxiliary
  declared : rule.isAuxiliary = false → numbering rule.id = rule.id ∧ rule'.name = rule.name
  alternatives :
    (rule.alternatives.map (List.map (Element.rename numbering))).Perm rule'.alternatives

theorem Rule.Shuffles.symm {numbering : Equiv.Perm RuleId} {rule rule' : Rule}
    (shuffles : rule.Shuffles numbering rule') : rule'.Shuffles numbering.symm rule where
  id := by rw [shuffles.id, Equiv.symm_apply_apply]
  isAuxiliary := shuffles.isAuxiliary.symm
  declared := by
    intro declared
    obtain ⟨kept, name⟩ := shuffles.declared (shuffles.isAuxiliary ▸ declared)
    exact ⟨by rw [shuffles.id, Equiv.symm_apply_apply, kept], name.symm⟩
  alternatives := by
    have back := shuffles.alternatives.symm.map (List.map (Element.rename numbering.symm))
    simpa [Function.comp_def] using back

/-- What holds of all elements of some alternative -/
theorem Rule.Shuffles.any_all {numbering : Equiv.Perm RuleId} {rule rule' : Rule}
    (shuffles : rule.Shuffles numbering rule') {test test' : Element → Bool}
    (keeps : ∀ element, test element = true → test' (element.rename numbering) = true)
    (found : rule.alternatives.any (·.all test) = true) :
    rule'.alternatives.any (·.all test') = true := by
  obtain ⟨elements, chosen, all⟩ := List.any_eq_true.mp found
  refine List.any_eq_true.mpr
    ⟨_, shuffles.alternatives.mem_iff.mp (List.mem_map_of_mem chosen), ?_⟩
  rw [List.all_map]
  exact List.all_eq_true.mpr fun element inside =>
    keeps element (List.all_eq_true.mp all element inside)

/-- What holds of some element of some alternative -/
theorem Rule.Shuffles.any_any {numbering : Equiv.Perm RuleId} {rule rule' : Rule}
    (shuffles : rule.Shuffles numbering rule') {test test' : Element → Bool}
    (keeps : ∀ element, test element = true → test' (element.rename numbering) = true)
    (found : rule.alternatives.any (·.any test) = true) :
    rule'.alternatives.any (·.any test') = true := by
  obtain ⟨elements, chosen, some⟩ := List.any_eq_true.mp found
  obtain ⟨element, inside, holds⟩ := List.any_eq_true.mp some
  refine List.any_eq_true.mpr
    ⟨_, shuffles.alternatives.mem_iff.mp (List.mem_map_of_mem chosen), ?_⟩
  exact List.any_eq_true.mpr ⟨_, List.mem_map_of_mem inside, keeps element holds⟩

section

variable {numbering : Equiv.Perm RuleId} {known known' : List RuleId}

theorem Element.isSkippable_rename (all : ∀ id ∈ known, numbering id ∈ known')
    {element : Element} (skippable : element.isSkippable known = true) :
    (element.rename numbering).isSkippable known' = true := by
  obtain ⟨symbol, occurs⟩ := element
  cases symbol with
  | token id => exact skippable
  | rule id =>
      simp only [Element.isSkippable, Element.rename, Symbol.rename, Bool.or_eq_true,
        List.contains_iff_mem] at skippable ⊢
      exact skippable.imp_right (all id)

theorem Element.isProductive_rename (all : ∀ id ∈ known, numbering id ∈ known')
    {element : Element} (isProductive : element.isProductive known = true) :
    (element.rename numbering).isProductive known' = true := by
  obtain ⟨symbol, occurs⟩ := element
  cases symbol with
  | token id => rfl
  | rule id =>
      simp only [Element.isProductive, Element.rename, Symbol.rename, Bool.or_eq_true,
        List.contains_iff_mem] at isProductive ⊢
      exact isProductive.imp_right (all id)

theorem Element.isIdleLoop_rename (all : ∀ id ∈ known, numbering id ∈ known')
    {element : Element} (idle : element.isIdleLoop known = true) :
    (element.rename numbering).isIdleLoop known' = true := by
  obtain ⟨symbol, occurs⟩ := element
  cases symbol with
  | token id => exact idle
  | rule id =>
      simp only [Element.isIdleLoop, Element.rename, Symbol.rename, Bool.and_eq_true,
        List.contains_iff_mem] at idle ⊢
      exact idle.imp_right (all id)

theorem RuleTable.leftCorners_rename (all : ∀ id ∈ known, numbering id ∈ known')
    {alternative : Alternative} {next : RuleId}
    (corner : next ∈ RuleTable.leftCorners known alternative) :
    numbering next ∈
      RuleTable.leftCorners known' (alternative.map (Element.rename numbering)) := by
  induction alternative with
  | nil => cases corner
  | cons element rest ih =>
      rw [List.map_cons]
      rcases RuleTable.mem_leftCorners_cons.mp corner with symbol | ⟨skippable, behind⟩
      · exact RuleTable.mem_leftCorners_cons.mpr (.inl (Symbol.rename_eq_rule.mpr symbol))
      · exact RuleTable.mem_leftCorners_cons.mpr
          (.inr ⟨Element.isSkippable_rename all skippable, ih behind⟩)

end

namespace RuleTable

/-- The same table in some other order. -/
def Shuffles (numbering : Equiv.Perm RuleId) (table table' : RuleTable) : Prop :=
  ∃ between, List.Forall₂ (Rule.Shuffles numbering) table between ∧ between.Perm table'

variable {numbering : Equiv.Perm RuleId} {table table' : RuleTable}

namespace Shuffles

theorem symm (shuffles : table.Shuffles numbering table') :
    table'.Shuffles numbering.symm table := by
  obtain ⟨between, pairs, order⟩ := shuffles
  have back : List.Forall₂ (Rule.Shuffles numbering.symm) between table :=
    (pairs.imp fun _ _ related => related.symm).flip
  exact List.perm_comp_forall₂ order.symm back

theorem length_eq (shuffles : table.Shuffles numbering table') :
    table.length = table'.length := by
  obtain ⟨between, pairs, order⟩ := shuffles
  exact pairs.length_eq.trans order.length_eq

theorem exists_of_mem (shuffles : table.Shuffles numbering table') {rule : Rule}
    (member : rule ∈ table) : ∃ rule' ∈ table', rule.Shuffles numbering rule' := by
  obtain ⟨between, pairs, order⟩ := shuffles
  obtain ⟨rule', inBetween, related⟩ := exists_of_mem_right pairs.flip member
  exact ⟨rule', order.mem_iff.mp inBetween, related⟩

/-- The alternatives of a production are those of the one it corresponds to. -/
theorem mem_alternatives (shuffles : table.Shuffles numbering table')
    (distinct : (table'.map (·.id)).Nodup) {id : RuleId} {alternative : Alternative}
    (chosen : alternative ∈ table.alternatives id) :
    alternative.map (Element.rename numbering) ∈ table'.alternatives (numbering id) := by
  obtain ⟨rule, found, inRule⟩ := exists_rule_of_mem_alternatives chosen
  obtain ⟨inTable, rfl⟩ := mem_of_rule? found
  obtain ⟨rule', inTable', related⟩ := shuffles.exists_of_mem inTable
  rw [← related.id, alternatives_of_rule? (rule?_of_mem distinct inTable')]
  exact related.alternatives.mem_iff.mp (List.mem_map_of_mem inRule)

/-! ## What productions can be -/

theorem mem_least (shuffles : table.Shuffles numbering table')
    {holds holds' : List RuleId → Rule → Bool}
    (keeps : ∀ known known' rule rule', (∀ id ∈ known, numbering id ∈ known') →
      rule.Shuffles numbering rule' → holds known rule = true → holds' known' rule' = true)
    {id : RuleId} (member : id ∈ table.least holds) : numbering id ∈ table'.least holds' := by
  refine @least_induction _ _ (fun id => numbering id ∈ table'.least holds') ?_ id member
  intro known all rule inTable fulfilled
  obtain ⟨rule', inTable', related⟩ := shuffles.exists_of_mem inTable
  exact related.id ▸ RuleTable.mem_least inTable' (keeps _ _ _ _ all related fulfilled)

theorem mem_nullable (shuffles : table.Shuffles numbering table') {id : RuleId}
    (member : id ∈ table.nullable) : numbering id ∈ table'.nullable := by
  refine shuffles.mem_least (fun known known' rule rule' all related found => ?_) member
  exact related.any_all (fun _ skippable => Element.isSkippable_rename all skippable) found

theorem mem_productive (shuffles : table.Shuffles numbering table') {id : RuleId}
    (member : id ∈ table.productive) : numbering id ∈ table'.productive := by
  refine shuffles.mem_least (fun known known' rule rule' all related found => ?_) member
  exact related.any_all (fun _ isProductive => Element.isProductive_rename all isProductive) found

theorem checkProductive (shuffles : table.Shuffles numbering table')
    (passed : table.checkProductive = .ok ()) : table'.checkProductive = .ok () := by
  rw [checkProductive_eq_ok] at passed ⊢
  intro rule' inTable'
  obtain ⟨rule, inTable, related⟩ := shuffles.symm.exists_of_mem inTable'
  exact related.symm.id ▸ shuffles.mem_productive (passed rule inTable)

/-- Something that can be empty is repeated without bound in both tables, or in none. -/
theorem checkLoops (shuffles : table.Shuffles numbering table')
    (passed : table.checkLoops = .ok ()) : table'.checkLoops = .ok () := by
  rw [checkLoops_eq_ok] at passed ⊢
  intro rule' inTable'
  obtain ⟨rule, inTable, related⟩ := shuffles.symm.exists_of_mem inTable'
  have back (element : Element) (idle : element.isIdleLoop table'.nullable = true) :
      (element.rename numbering.symm).isIdleLoop table.nullable = true :=
    Element.isIdleLoop_rename (fun _ => shuffles.symm.mem_nullable) idle
  exact Bool.eq_false_iff.mpr fun idle =>
    Bool.eq_false_iff.mp (passed rule inTable) (related.any_any back idle)

/-! ## Left recursion -/

theorem begins (shuffles : table.Shuffles numbering table')
    (distinct : (table'.map (·.id)).Nodup) {next id : RuleId} (begins : table.Begins next id) :
    table'.Begins (numbering next) (numbering id) := by
  obtain ⟨alternative, chosen, corner⟩ := mem_beginnings.mp begins
  exact mem_beginnings.mpr ⟨_, shuffles.mem_alternatives distinct chosen,
    leftCorners_rename (fun _ => shuffles.mem_nullable) corner⟩

theorem checkLeftRecursion (shuffles : table.Shuffles numbering table')
    (distinct : (table.map (·.id)).Nodup) (passed : table.checkLeftRecursion = .ok ()) :
    table'.checkLeftRecursion = .ok () := by
  rw [checkLeftRecursion_eq_ok] at passed ⊢
  have back : Subrelation table'.Begins (InvImage table.Begins numbering.symm) :=
    fun begins => shuffles.symm.begins distinct begins
  exact back.wf (InvImage.wf numbering.symm passed)

end Shuffles

end RuleTable

end StrongLL
