import Mathlib.Algebra.Group.End
import Mathlib.Data.Fintype.BigOperators
import Mathlib.Data.List.NodupEquivFin
import StrongLL.Proofs.Ebnf.Reorder
import StrongLL.Proofs.Rules.Flatten
import StrongLL.Proofs.Rules.Shuffle

/-!
# Flattening in another order

Flattening a declaration in another order makes the same table, up to its order and the
numbers of the auxiliary productions. Parts of the declarations that correspond are flattened
from any supplies, and which auxiliary productions correspond is kept in a list. In the end
one numbering takes all of them to the ones they correspond to.
-/

namespace StrongLL

namespace RuleTable.Shuffles

variable {numbering : Equiv.Perm RuleId} {table table' other other' : RuleTable}

theorem append (first : table.Shuffles numbering table')
    (second : other.Shuffles numbering other') :
    RuleTable.Shuffles numbering (table ++ other) (table' ++ other') := by
  obtain ⟨between, pairs, order⟩ := first
  obtain ⟨between', pairs', order'⟩ := second
  exact ⟨between ++ between', List.rel_append pairs pairs', order.append order'⟩

theorem perm (shuffles : table.Shuffles numbering table') (order : table.Perm other)
    (order' : table'.Perm other') : other.Shuffles numbering other' := by
  obtain ⟨between, pairs, between'⟩ := shuffles
  obtain ⟨others, otherPairs, others'⟩ := List.perm_comp_forall₂ order.symm pairs
  exact ⟨others, otherPairs, others'.trans (between'.trans order')⟩

end RuleTable.Shuffles

namespace Flatten

/-! ## Auxiliary productions that correspond -/

section

variable {rules : List RuleId} {same same' : Equiv.Perm RuleId → Prop}
  {news news' others others' : List Rule}

/-- A numbering keeps the declared productions, and takes auxiliary ones to those that they
correspond to. -/
structure Numbers (rules : List RuleId) (pairs : List (RuleId × RuleId))
    (numbering : Equiv.Perm RuleId) : Prop where
  declared : ∀ id ∈ rules, numbering id = id
  made : ∀ pair ∈ pairs, numbering pair.1 = pair.2

/-- Auxiliary productions can be paired so that any numbering that respects the pairs takes
the ones to the others, and fulfils a condition. -/
def Match (rules : List RuleId) (same : Equiv.Perm RuleId → Prop) (news news' : List Rule) :
    Prop :=
  ∃ pairs : List (RuleId × RuleId), (news.map (·.id)).Perm (pairs.map (·.1)) ∧
    (news'.map (·.id)).Perm (pairs.map (·.2)) ∧
      ∀ numbering, Numbers rules pairs numbering →
        RuleTable.Shuffles numbering news news' ∧ same numbering

theorem match_nothing (holds : ∀ numbering : Equiv.Perm RuleId,
    (∀ id ∈ rules, numbering id = id) → same numbering) : Match rules same [] [] :=
  ⟨[], .nil, .nil, fun _ numbers => ⟨⟨[], .nil, .nil⟩, holds _ numbers.declared⟩⟩

theorem Match.imp (found : Match rules same news news')
    (weaken : ∀ numbering, same numbering → same' numbering) : Match rules same' news news' := by
  obtain ⟨pairs, left, right, shuffles⟩ := found
  exact ⟨pairs, left, right, fun numbering numbers =>
    (shuffles numbering numbers).imp_right (weaken numbering)⟩

theorem Match.append (first : Match rules same news news')
    (second : Match rules same' others others') :
    Match rules (fun numbering => same numbering ∧ same' numbering) (news ++ others)
      (news' ++ others') := by
  obtain ⟨pairs, left, right, shuffles⟩ := first
  obtain ⟨more, left', right', shuffles'⟩ := second
  refine ⟨pairs ++ more, ?_, ?_, fun numbering numbers => ?_⟩
  · rw [List.map_append, List.map_append]
    exact left.append left'
  · rw [List.map_append, List.map_append]
    exact right.append right'
  · obtain ⟨table, holds⟩ := shuffles numbering ⟨numbers.declared,
      fun pair member => numbers.made pair (List.mem_append_left _ member)⟩
    obtain ⟨table', holds'⟩ := shuffles' numbering ⟨numbers.declared,
      fun pair member => numbers.made pair (List.mem_append_right _ member)⟩
    exact ⟨table.append table', holds, holds'⟩

theorem Match.perm (found : Match rules same news news') (order : news.Perm others)
    (order' : news'.Perm others') : Match rules same others others' := by
  obtain ⟨pairs, left, right, shuffles⟩ := found
  exact ⟨pairs, (order.symm.map _).trans left, (order'.symm.map _).trans right,
    fun numbering numbers => (shuffles numbering numbers).imp_left (·.perm order order')⟩

/-- One more auxiliary production on both sides. -/
theorem Match.cons (found : Match rules same news news') {rule rule' : Rule}
    (shuffles : ∀ numbering, same numbering → rule'.id = numbering rule.id →
      rule.Shuffles numbering rule') :
    Match rules (fun numbering => same numbering ∧ rule'.id = numbering rule.id) (rule :: news)
      (rule' :: news') := by
  obtain ⟨pairs, left, right, all⟩ := found
  refine ⟨(rule.id, rule'.id) :: pairs, left.cons _, right.cons _, fun numbering numbers => ?_⟩
  have made : rule'.id = numbering rule.id := (numbers.made _ List.mem_cons_self).symm
  obtain ⟨⟨between, inside, order⟩, holds⟩ := all numbering ⟨numbers.declared,
    fun pair member => numbers.made pair (List.mem_cons_of_mem _ member)⟩
  exact ⟨⟨rule' :: between, .cons (shuffles numbering holds made) inside, order.cons _⟩,
    holds, made⟩

end

/-! ## Parts that correspond -/

section

variable {rules : List RuleId} {same : Equiv.Perm RuleId → Prop}
  {origin origin' : Ebnf.Production}

/-- Both supplies grow by auxiliary productions that correspond to each other. -/
def Parallel (rules : List RuleId) (same : Equiv.Perm RuleId → Prop)
    (before after before' after' : Supply) : Prop :=
  ∃ news news', after.rules = news ++ before.rules ∧ after'.rules = news' ++ before'.rules ∧
    Match rules same news news'

theorem Parallel.imp {same' : Equiv.Perm RuleId → Prop} {before after before' after' : Supply}
    (parallel : Parallel rules same before after before' after')
    (weaken : ∀ numbering, same numbering → same' numbering) :
    Parallel rules same' before after before' after' := by
  obtain ⟨news, news', grown, grown', found⟩ := parallel
  exact ⟨news, news', grown, grown', found.imp weaken⟩

theorem parallel_nothing {supply supply' : Supply} (holds : ∀ numbering : Equiv.Perm RuleId,
    (∀ id ∈ rules, numbering id = id) → same numbering) :
    Parallel rules same supply supply supply' supply' :=
  ⟨[], [], rfl, rfl, match_nothing holds⟩

theorem Parallel.trans {same' : Equiv.Perm RuleId → Prop}
    {before middle after before' middle' after' : Supply}
    (first : Parallel rules same before middle before' middle')
    (second : Parallel rules same' middle after middle' after') :
    Parallel rules (fun numbering => same' numbering ∧ same numbering) before after before'
      after' := by
  obtain ⟨news, news', grown, grown', found⟩ := first
  obtain ⟨others, others', further, further', more⟩ := second
  refine ⟨others ++ news, others' ++ news', ?_, ?_, more.append found⟩
  · rw [further, grown, List.append_assoc]
  · rw [further', grown', List.append_assoc]

/-- Auxiliary productions with alternatives that correspond -/
theorem Parallel.auxiliary {occurs : Occurs} {alternatives alternatives' : List Alternative}
    {before after before' after' : Supply}
    (parallel : Parallel rules (fun numbering =>
      (alternatives.map (List.map (Element.rename numbering))).Perm alternatives')
      before after before' after') :
    Parallel rules (fun numbering =>
        (auxiliary origin occurs alternatives after).2.rename numbering =
          (auxiliary origin' occurs alternatives' after').2)
      before (auxiliary origin occurs alternatives after).1 before'
      (auxiliary origin' occurs alternatives' after').1 := by
  obtain ⟨news, news', grown, grown', found⟩ := parallel
  refine ⟨_ :: news, _ :: news', congrArg (_ :: ·) grown, congrArg (_ :: ·) grown',
    (found.cons fun numbering order made => ?_).imp fun numbering holds => ?_⟩
  · exact ⟨made, rfl, nofun, order⟩
  · exact congrArg (fun id => ({ symbol := .rule id, occurs } : Element)) holds.2.symm

theorem parallel_repeated {symbol : Symbol} {occurs : Occurs} {supply supply' : Supply}
    (kept : ∀ numbering : Equiv.Perm RuleId, (∀ id ∈ rules, numbering id = id) →
      symbol.rename numbering = symbol) :
    Parallel rules (fun numbering => (repeated origin symbol occurs supply).2.rename numbering =
        (repeated origin' symbol occurs supply').2)
      supply (repeated origin symbol occurs supply).1 supply'
      (repeated origin' symbol occurs supply').1 := by
  unfold repeated
  split
  · exact parallel_nothing fun numbering declared =>
      congrArg (fun symbol => ({ symbol } : Element)) (kept numbering declared)
  · refine Parallel.auxiliary (parallel_nothing fun numbering declared => ?_)
    simp [Element.rename, kept numbering declared]

end

/-! ## Parts one after the other -/

section

variable {α β : Type} {rules : List RuleId} {origin : Ebnf.Production}

/-- Flatten parts one after the other. -/
def each (step : α → Supply → Supply × β) : List α → Supply → Supply × List β
  | [], supply => (supply, [])
  | part :: rest, supply =>
      let (supply, first) := step part supply
      let (supply, others) := each step rest supply
      (supply, first :: others)

theorem alternatives_eq_each (declared : List (List Ebnf.Element)) (supply : Supply) :
    alternatives origin declared supply = each (elements origin) declared supply := by
  induction declared generalizing supply with
  | nil => rw [alternatives, each]
  | cons first rest ih => simp only [alternatives, each, ih]

theorem kept_repeated {symbol : Symbol} {occurs : Occurs} {supply : Supply} :
    supply.rules <:+ (repeated origin symbol occurs supply).1.rules := by
  unfold repeated
  split
  · exact List.suffix_refl _
  · exact List.suffix_cons _ _

mutual
/-- Flattening keeps the auxiliary productions that are made already. -/
theorem kept_element : (declared : Ebnf.Element) → (supply : Supply) →
    supply.rules <:+ (element origin declared supply).1.rules
  | .token _ _, _ => kept_repeated
  | .rule _ _, _ => kept_repeated
  | .group declared _, supply => (kept_alternatives declared supply).trans (List.suffix_cons _ _)

theorem kept_alternatives : (declared : List (List Ebnf.Element)) → (supply : Supply) →
    supply.rules <:+ (alternatives origin declared supply).1.rules
  | [], _ => List.suffix_refl _
  | first :: rest, supply => (kept_elements first supply).trans (kept_alternatives rest _)

theorem kept_elements : (declared : List Ebnf.Element) → (supply : Supply) →
    supply.rules <:+ (elements origin declared supply).1.rules
  | [], _ => List.suffix_refl _
  | first :: rest, supply => (kept_element first supply).trans (kept_elements rest _)
end

/-- What flattening a part adds and results in, from some supply -/
def Makes (step : α → Supply → Supply × β) (part : α) (item : List Rule × β) : Prop :=
  ∃ supply, (step part supply).1.rules = item.1 ++ supply.rules ∧ (step part supply).2 = item.2

theorem exists_items {step : α → Supply → Supply × β}
    (kept : ∀ part supply, supply.rules <:+ (step part supply).1.rules) (parts : List α)
    (supply : Supply) : ∃ items, List.Forall₂ (Makes step) parts items ∧
      (each step parts supply).2 = items.map (·.2) ∧
        ∃ news, (each step parts supply).1.rules = news ++ supply.rules ∧
          (items.flatMap (·.1)).Perm news := by
  induction parts generalizing supply with
  | nil => exact ⟨[], .nil, rfl, [], rfl, .nil⟩
  | cons part rest ih =>
      obtain ⟨items, made, results, others, grown, order⟩ := ih (step part supply).1
      obtain ⟨news, first⟩ := kept part supply
      refine ⟨(news, (step part supply).2) :: items, .cons ⟨supply, first.symm, rfl⟩ made,
        congrArg (_ :: ·) results, others ++ news, ?_, ?_⟩
      · rw [List.append_assoc, first]
        exact grown
      · exact (order.append_left news).trans List.perm_append_comm

theorem match_items {step step' : α → Supply → Supply × β}
    {related : Equiv.Perm RuleId → β → β → Prop} {parts parts' : List α}
    {items items' : List (List Rule × β)}
    (parallel : List.Forall₂ (fun part part' => ∀ supply supply', Parallel rules
      (fun numbering => related numbering (step part supply).2 (step' part' supply').2)
      supply (step part supply).1 supply' (step' part' supply').1) parts parts')
    (made : List.Forall₂ (Makes step) parts items)
    (made' : List.Forall₂ (Makes step') parts' items') :
    Match rules (fun numbering =>
        List.Forall₂ (related numbering) (items.map (·.2)) (items'.map (·.2)))
      (items.flatMap (·.1)) (items'.flatMap (·.1)) := by
  induction parallel generalizing items items' with
  | nil =>
      cases made
      cases made'
      exact match_nothing fun _ _ => .nil
  | cons here _ ih =>
      -- the parts were flattened from some supplies, and correspond from any
      obtain - | ⟨⟨supply, grown, result⟩, made⟩ := made
      obtain - | ⟨⟨supply', grown', result'⟩, made'⟩ := made'
      obtain ⟨news, news', first, first', found⟩ := here supply supply'
      obtain rfl := List.append_cancel_right (first.symm.trans grown)
      obtain rfl := List.append_cancel_right (first'.symm.trans grown')
      refine (found.append (ih made made')).imp fun numbering holds => .cons ?_ holds.2
      simp only [← result, ← result', holds.1]

/-- Parts that correspond in some order -/
theorem parallel_each {step step' : α → Supply → Supply × β}
    (kept : ∀ part supply, supply.rules <:+ (step part supply).1.rules)
    (kept' : ∀ part supply, supply.rules <:+ (step' part supply).1.rules)
    (related : Equiv.Perm RuleId → β → β → Prop) {parts between parts' : List α}
    (parallel : List.Forall₂ (fun part part' => ∀ supply supply', Parallel rules
      (fun numbering => related numbering (step part supply).2 (step' part' supply').2)
      supply (step part supply).1 supply' (step' part' supply').1) parts between)
    (order : between.Perm parts') (supply supply' : Supply) :
    Parallel rules (fun numbering => ∃ results, List.Forall₂ (related numbering)
        (each step parts supply).2 results ∧ results.Perm (each step' parts' supply').2)
      supply (each step parts supply).1 supply' (each step' parts' supply').1 := by
  obtain ⟨items, made, results, news, grown, inOrder⟩ := exists_items kept parts supply
  obtain ⟨items', made', results', news', grown', inOrder'⟩ := exists_items kept' parts' supply'
  -- the items of one side in the order of the other one
  obtain ⟨others, madeOthers, sorted⟩ := List.perm_comp_forall₂ order made'
  refine ⟨news, news', grown, grown', ?_⟩
  have found := (match_items parallel made madeOthers).perm inOrder
    ((sorted.flatMap_right _).trans inOrder')
  refine found.imp fun numbering pairs => ⟨others.map (·.2), ?_, ?_⟩
  · rw [results]
    exact pairs
  · rw [results']
    exact sorted.map _

end

/-! ## Elements and productions -/

/-- The same alternative with other numbers. -/
abbrev Renames (numbering : Equiv.Perm RuleId) (alternative alternative' : Alternative) : Prop :=
  alternative.map (Element.rename numbering) = alternative'

theorem perm_of_renames {numbering : Equiv.Perm RuleId}
    {alternatives alternatives' : List Alternative}
    (reordered : ∃ results, List.Forall₂ (Renames numbering) alternatives results ∧
      results.Perm alternatives') :
    (alternatives.map (List.map (Element.rename numbering))).Perm alternatives' := by
  obtain ⟨results, pairs, order⟩ := reordered
  have same : alternatives.map (List.map (Element.rename numbering)) = results := by
    rw [← List.forall₂_eq_eq_eq, List.forall₂_map_left_iff]
    exact pairs
  rw [same]
  exact order

section

variable {vocabulary : Vocabulary} {rules : List RuleId} {origin origin' : Ebnf.Production}

mutual
/-- Elements with groups in another order are flattened to the same elements. -/
theorem parallel_element :
    (declared declared' : Ebnf.Element) → declared.Reorders declared' →
      declared.Valid vocabulary rules → (supply supply' : Supply) →
        Parallel rules (fun numbering => (element origin declared supply).2.rename numbering =
            (element origin' declared' supply').2)
          supply (element origin declared supply).1 supply' (element origin' declared' supply').1
  | .token _ _, _, .token _ _, _, _, _ => parallel_repeated fun _ _ => rfl
  | .rule id _, _, .rule _ _, .rule _ known, _, _ =>
      parallel_repeated fun _ declared => congrArg Symbol.rule (declared id known)
  | .group declared _, .group _ _, .group inside order, .group _ inner, supply, supply' => by
      have parallel := parallel_each kept_elements kept_elements Renames
        (parallel_rows declared _ inside inner) order supply supply'
      rw [← alternatives_eq_each, ← alternatives_eq_each] at parallel
      exact Parallel.auxiliary (parallel.imp fun _ => perm_of_renames)

theorem parallel_elements :
    (declared declared' : List Ebnf.Element) → Ebnf.RowReorders declared declared' →
      (∀ element ∈ declared, element.Valid vocabulary rules) → (supply supply' : Supply) →
        Parallel rules (fun numbering => Renames numbering (elements origin declared supply).2
            (elements origin' declared' supply').2)
          supply (elements origin declared supply).1 supply' (elements origin' declared' supply').1
  | [], _, .nil, _, _, _ => parallel_nothing fun _ _ => rfl
  | first :: rest, _, .cons here others, valid, supply, supply' => by
      have parallel := (parallel_element first _ here (valid first (by simp)) supply supply').trans
        (parallel_elements rest _ others
          (fun element member => valid element (by simp [member])) _ _)
      exact parallel.imp fun numbering holds => congrArg₂ List.cons holds.2 holds.1

theorem parallel_rows :
    (declared declared' : List (List Ebnf.Element)) →
      List.Forall₂ Ebnf.RowReorders declared declared' →
      (∀ row ∈ declared, ∀ element ∈ row, element.Valid vocabulary rules) →
        List.Forall₂ (fun row row' => ∀ supply supply', Parallel rules (fun numbering =>
            Renames numbering (elements origin row supply).2 (elements origin' row' supply').2)
          supply (elements origin row supply).1 supply' (elements origin' row' supply').1)
          declared declared'
  | [], _, .nil, _ => .nil
  | first :: rest, _, .cons here others, valid =>
      .cons (parallel_elements first _ here (valid first (by simp)))
        (parallel_rows rest _ others fun row member => valid row (by simp [member]))
end

end

/-! ## One numbering for all -/

section

variable {vocabulary : Vocabulary} {declared declared' : List Ebnf.Production}

end

end Flatten

end StrongLL
