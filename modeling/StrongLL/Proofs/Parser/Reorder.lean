import StrongLL.Proofs.LookAhead.Shuffle
import StrongLL.Proofs.Parser.InStep
import StrongLL.Proofs.Parser.Soundness
import StrongLL.Proofs.Rules.Reorder

/-!
# Grammars in another order

A grammar parses in the same way in whatever order it was declared: the productions of the two
grammars correspond, they decide alike, and where nothing fits they report the same.
-/

namespace StrongLL

/-! ## Mismatches -/

section

variable {σ : Type} {places : Equiv.Perm Nat} {decision decision' : Decision}

theorem Parser.describeAll_congr {vocabulary : Vocabulary} {terminals terminals' : List Terminal}
    (same : ∀ terminal, terminal ∈ terminals ↔ terminal ∈ terminals') :
    describeAll vocabulary terminals = describeAll vocabulary terminals' := by
  unfold describeAll
  refine congrArg (List.map Pattern.description) (List.filter_congr fun pattern _ => ?_)
  rw [Bool.eq_iff_iff, List.contains_iff_mem, List.contains_iff_mem, same]

/-- Where nothing fits, what is reported does not depend on the order of the branches. -/
theorem Decision.Reorders.mismatch (reorders : decision.Reorders places decision')
    (vocabulary : Vocabulary) (input : Terminals) (parser : Parser σ) :
    parser.mismatch vocabulary decision input = parser.mismatch vocabulary decision' input := by
  have members (set : SequenceSet) :
      set ∈ decision.levels.flatten ↔ set ∈ decision'.levels.flatten :=
    ⟨reorders.mem_flatten, reorders.symm.mem_flatten⟩
  unfold Parser.mismatch
  generalize decision.levels.flatten = sets at members ⊢
  generalize decision'.levels.flatten = sets' at members ⊢
  have common : sets.foldl (fun longest set => max longest (set.longestPrefix input)) 0 =
      sets'.foldl (fun longest set => max longest (set.longestPrefix input)) 0 :=
    Nat.le_antisymm (foldl_max_mono fun set inside => ⟨set, (members set).mp inside, rfl⟩)
      (foldl_max_mono fun set inside => ⟨set, (members set).mpr inside, rfl⟩)
  dsimp only
  rw [common]
  generalize sets'.foldl (fun longest set => max longest (set.longestPrefix input)) 0 = longest
  have expected : Parser.describeAll vocabulary
        (sets.flatMap fun set => set.nextAfter (input.take longest)) =
      Parser.describeAll vocabulary
        (sets'.flatMap fun set => set.nextAfter (input.take longest)) := by
    refine Parser.describeAll_congr fun terminal => ?_
    rw [List.mem_flatMap, List.mem_flatMap]
    exact exists_congr fun set => and_congr_left' (members set)
  rw [expected]

end

namespace Grammar

/-! ## Productions that correspond -/

/-- Grammars whose tables are the same up to their order, and whose decisions look equally far
ahead. -/
structure Reorders (numbering : Equiv.Perm RuleId) (grammar grammar' : Grammar) : Prop where
  tables : RuleTable.Shuffles numbering grammar.table grammar'.table
  start : grammar'.start = numbering grammar.start
  vocabulary : grammar'.vocabulary = grammar.vocabulary
  maxLookAhead : grammar'.maxLookAhead = grammar.maxLookAhead

/-- The decisions of a grammar were made for its table. -/
structure Settled (grammar : Grammar) : Prop where
  checked : grammar.table.Checked grammar.start
  decided : ∀ rule ∈ grammar.rules,
    RuleDecided (.prepare grammar.table grammar.start) grammar.maxLookAhead rule

/-- Rows with the same elements, up to the numbers of the productions. -/
def SameRow (numbering : Equiv.Perm RuleId) (row row' : List ResolvedElement) : Prop :=
  row'.map (·.toElement) = (row.map (·.toElement)).map (Element.rename numbering)

variable {numbering : Equiv.Perm RuleId} {grammar grammar' : Grammar} {id : RuleId}
  {rule rule' : ResolvedRule}

theorem Reorders.symm (reorders : grammar.Reorders numbering grammar') :
    grammar'.Reorders numbering.symm grammar where
  tables := reorders.tables.symm
  start := by rw [reorders.start, Equiv.symm_apply_apply]
  vocabulary := reorders.vocabulary.symm
  maxLookAhead := reorders.maxLookAhead.symm

theorem Reorders.exists_rule (reorders : grammar.Reorders numbering grammar')
    (distinct' : (grammar'.table.map (·.id)).Nodup) (member : rule ∈ grammar.rules) :
    ∃ rule', grammar'.rule? (numbering rule.id) = some rule' ∧
      rule.toRule.Shuffles numbering rule'.toRule := by
  obtain ⟨flat, inTable, related⟩ := reorders.tables.exists_of_mem (List.mem_map_of_mem member)
  have found := RuleTable.rule?_of_mem distinct' inTable
  rw [rule?_toRule, related.id] at found
  obtain ⟨rule', lookup, rfl⟩ := Option.map_eq_some_iff.mp found
  exact ⟨rule', lookup, related⟩

/-- In the same order a decision says the same of another copy. -/
theorem agree_of_reorders {decision decision' : Option Decision}
    (decisions : Option.Rel (Decision.Reorders (Equiv.refl Nat)) decision decision') :
    Option.Rel (fun decision decision' => decision'.depth = decision.depth ∧
      ∀ input, (decision.select input == some 0) = (decision'.select input == some 0))
      decision decision' := by
  cases decisions with
  | none => exact .none
  | some reordered =>
      refine .some ⟨reordered.depth_eq, fun input => ?_⟩
      rw [reordered.select]
      simp

section

variable (reorders : grammar.Reorders numbering grammar') (settled : grammar.Settled)
  (settled' : grammar'.Settled) (found : grammar.rule? id = some rule)
  (found' : grammar'.rule? (numbering id) = some rule')

include reorders settled settled'

/-- Decisions about the same place -/
theorem Reorders.decisions {places : Equiv.Perm Nat} {site site' : Site}
    (shuffles : site.Shuffles numbering places site') {needed : Bool}
    (present : needed = true → site.In grammar.table)
    (present' : needed = true → site'.In grammar'.table)
    {decision decision' : Option Decision}
    (decided : DecidedIf needed (.prepare grammar.table grammar.start) grammar.maxLookAhead
      site.branches decision)
    (decided' : DecidedIf needed (.prepare grammar'.table grammar'.start) grammar'.maxLookAhead
      site'.branches decision') : Option.Rel (Decision.Reorders places) decision decision' := by
  have checked' := settled'.checked
  rw [reorders.start] at checked' decided'
  rw [reorders.maxLookAhead] at decided'
  exact reorders_of_decidedIf reorders.tables settled.checked checked' shuffles present present'
    decided decided'

include found found'

/-- Elements at the same place decide alike about another copy. -/
theorem Reorders.elementsAlike {before before' rest rest' : List ResolvedElement}
    (use : before ++ rest ∈ rule.alternatives) (use' : before' ++ rest' ∈ rule'.alternatives)
    (front : SameRow numbering before before') (back : SameRow numbering rest rest') :
    List.Forall₂ (ElementsAlike numbering) rest rest' := by
  induction rest generalizing before before' rest' with
  | nil =>
      cases rest' with
      | nil => exact .nil
      | cons _ _ => cases back
  | cons element rest ih =>
      cases rest' with
      | nil => cases back
      | cons element' rest' =>
          obtain ⟨here, back⟩ := List.cons.inj back
          -- the same place, since all of the row around it is the same
          have symbol : element'.symbol = element.symbol.rename numbering :=
            congrArg Element.symbol here
          have occurs : element'.occurs = element.occurs :=
            (congrArg Element.occurs here).trans (Element.occurs_rename _ _)
          have shuffles := @Site.Shuffles.loop numbering id (before.map (·.toElement))
            element.toElement (rest.map (·.toElement))
          rw [← front, ← here, ← back] at shuffles
          obtain ⟨member, known⟩ := mem_of_rule? found
          obtain ⟨member', known'⟩ := mem_of_rule? found'
          have decided := (settled.decided rule member).elements before element rest use
          have decided' := (settled'.decided rule' member').elements before' element' rest' use'
          rw [ElementDecided, known] at decided
          rw [ElementDecided, known', occurs] at decided'
          have decisions := reorders.decisions settled settled' shuffles
            (fun isVariable => ⟨use_table found use, isVariable⟩)
            (fun isVariable => ⟨use_table found' use', occurs ▸ isVariable⟩) decided decided'
          have others : List.Forall₂ (ElementsAlike numbering) rest rest' := by
            rw [List.append_cons] at use use'
            refine ih use use' ?_ back
            rw [SameRow, List.map_append, List.map_append, List.map_append, front]
            exact congrArg (_ ++ [·]) here
          exact .cons ⟨symbol, occurs, agree_of_reorders decisions⟩ others

theorem Reorders.rowsAlike {places : Equiv.Perm Nat}
    (moved : Moved places (rule.toRule.alternatives.map (List.map (Element.rename numbering)))
      rule'.toRule.alternatives) (index : Nat) :
    Option.Rel (List.Forall₂ (ElementsAlike numbering)) rule.alternatives[index]?
      rule'.alternatives[places index]? := by
  have same := moved index
  simp only [ResolvedRule.toRule, List.getElem?_map] at same
  cases atIndex : rule.alternatives[index]? with
  | none =>
      rw [atIndex, Option.map_none, Option.map_none, Option.map_eq_none_iff] at same
      rw [same]
      exact .none
  | some row =>
      rw [atIndex] at same
      obtain ⟨row', atIndex', back⟩ := Option.map_eq_some_iff.mp same
      rw [atIndex']
      have use : [] ++ row ∈ rule.alternatives := List.mem_of_getElem? atIndex
      have use' : [] ++ row' ∈ rule'.alternatives := List.mem_of_getElem? atIndex'
      exact .some (reorders.elementsAlike settled settled' found found' use use' rfl back)

/-- Where there is no choice the only alternatives correspond. -/
theorem Reorders.firstAlike {places : Equiv.Perm Nat}
    (moved : Moved places (rule.toRule.alternatives.map (List.map (Element.rename numbering)))
      rule'.toRule.alternatives) (single : rule.alternatives.length ≤ 1) :
    Option.Rel (List.Forall₂ (ElementsAlike numbering)) rule.alternatives[0]?
      rule'.alternatives[0]? := by
  have rows := reorders.rowsAlike settled settled' found found' moved 0
  rcases Moved.single moved (by simpa [ResolvedRule.toRule] using single) with empty | kept
  · have empty : rule'.alternatives = [] := List.map_eq_nil_iff.mp empty
    simpa [empty] using rows
  · rwa [kept] at rows

/-- Productions that correspond choose alternatives that correspond. -/
theorem Reorders.rulesAlike (related : rule.toRule.Shuffles numbering rule'.toRule) :
    RulesAlike numbering grammar.vocabulary (fun _ _ => True) rule rule' where
  id := related.id
  isAuxiliary := related.isAuxiliary
  declared := related.declared
  decision := by
    obtain ⟨places, moved⟩ := exists_moved related.alternatives
    have rows := reorders.rowsAlike settled settled' found found' moved
    have length : rule'.alternatives.length = rule.alternatives.length := by
      simpa [ResolvedRule.toRule] using related.alternatives.length_eq.symm
    obtain ⟨member, known⟩ := mem_of_rule? found
    obtain ⟨member', known'⟩ := mem_of_rule? found'
    have decided := (settled.decided rule member).choice
    have decided' := (settled'.decided rule' member').choice
    rw [length] at decided'
    have several {rule : ResolvedRule} (many : 1 < rule.alternatives.length) :
        1 < rule.toRule.alternatives.length := by
      simpa [ResolvedRule.toRule] using many
    have decisions := reorders.decisions settled settled' (.choice related.id moved)
      (fun many => ⟨List.mem_map_of_mem member, several (of_decide_eq_true many)⟩)
      (fun many => ⟨List.mem_map_of_mem member', several (length ▸ of_decide_eq_true many)⟩)
      decided decided'
    have first (undecided : rule.decision = none) : Option.Rel
        (List.Forall₂ (ElementsAlike numbering)) rule.alternatives[0]? rule'.alternatives[0]? := by
      rcases decided with ⟨single, _⟩ | ⟨_, made, some, _⟩
      · have atMost : rule.alternatives.length ≤ 1 := by simpa using single
        exact reorders.firstAlike settled settled' found found' moved atMost
      · cases undecided.symm.trans some
    generalize rule.decision = decision at decisions first ⊢
    generalize rule'.decision = decision' at decisions ⊢
    cases decisions with
    | none => exact .none ⟨first rfl, fun _ => trivial⟩
    | some reordered =>
        refine .some reordered.depth_eq (fun input => ?_) fun parser input =>
          reordered.mismatch _ input parser
        -- the branch that is picked moves along with its alternative
        rw [reordered.select]
        cases Decision.select _ input with
        | none => exact .none
        | some index => exact .some ⟨rows index, fun _ => trivial⟩

omit found found' in
/-- Each production corresponds to one of the other grammar, and what is none to none. -/
theorem Reorders.rules (id : RuleId) :
    Option.Rel (RulesAlike numbering grammar.vocabulary fun _ _ => True) (grammar.rule? id)
      (grammar'.rule? (numbering id)) := by
  have distinct := settled.checked.wellFormed.distinct
  have distinct' := settled'.checked.wellFormed.distinct
  cases found : grammar.rule? id with
  | some rule =>
      obtain ⟨member, rfl⟩ := mem_of_rule? found
      obtain ⟨rule', found', related⟩ := reorders.exists_rule distinct' member
      rw [found']
      exact .some (reorders.rulesAlike settled settled' found found' related)
  | none =>
      cases found' : grammar'.rule? (numbering id) with
      | none => exact .none
      | some rule' =>
          obtain ⟨member', known'⟩ := mem_of_rule? found'
          obtain ⟨rule, back, _⟩ := reorders.symm.exists_rule distinct member'
          rw [known', Equiv.symm_apply_apply] at back
          cases found.symm.trans back

end

/-! ## Bounds on steps -/

section

variable (reorders : grammar.Reorders numbering grammar')
  (distinct' : (grammar'.table.map (·.id)).Nodup)

include reorders distinct'

end

end Grammar

namespace Parser

open Grammar

variable {σ : Type}

section

variable {declaration declaration' : Ebnf.Declaration} {grammar grammar' : Grammar}

end

end Parser

end StrongLL
