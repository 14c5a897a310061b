import StrongLL.Proofs.Rules.Reading

/-!
# Where auxiliary productions come from

Flattening refers to each auxiliary production that it makes, from the declared production
in which it is written or from another auxiliary one made there. So the origin that an
auxiliary production records is the one declared production that leads to it.
-/

namespace StrongLL

namespace RuleTable

/-- A symbol refers to an auxiliary production, directly or through others. -/
inductive Under (table : RuleTable) : Symbol → RuleId → Prop where
  | here {rule : Rule} (found : table.rule? rule.id = some rule)
      (isAuxiliary : rule.isAuxiliary = true) : Under table (.rule rule.id) rule.id
  | through {rule : Rule} {alternative : Alternative} {element : Element} {id : RuleId}
      (found : table.rule? rule.id = some rule) (isAuxiliary : rule.isAuxiliary = true)
      (chosen : alternative ∈ rule.alternatives) (inside : element ∈ alternative)
      (under : Under table element.symbol id) : Under table (.rule rule.id) id

/-- An auxiliary production is written in a declared one: an element of that refers to it. -/
def WrittenIn (table : RuleTable) (origin id : RuleId) : Prop :=
  ∃ rule, table.rule? origin = some rule ∧ rule.isAuxiliary = false ∧
    ∃ alternative ∈ rule.alternatives, ∃ element ∈ alternative, table.Under element.symbol id

/-- An element stands there once, or refers to an auxiliary production. -/
def Wrapped (table : RuleTable) (element : Element) : Prop :=
  element.occurs ≠ .once → ∃ rule, table.rule? rule.id = some rule ∧ rule.isAuxiliary = true ∧
    element.symbol = .rule rule.id

/-- No auxiliary production is under a symbol that does not refer to one. -/
theorem not_under {table : RuleTable} {symbol : Symbol} {id : RuleId}
    (plain : ∀ rule, table.rule? rule.id = some rule → symbol = .rule rule.id →
      rule.isAuxiliary = false) : ¬ table.Under symbol id := by
  intro under
  cases under with
  | here found isAuxiliary => simp [plain _ found rfl] at isAuxiliary
  | through found isAuxiliary => simp [plain _ found rfl] at isAuxiliary

end RuleTable

namespace Flatten

open RuleTable

/-- What a part of flattening makes on the way from one supply to another: auxiliary
productions under the elements that it comes back with, and no others are under them. -/
structure Lowers (table : RuleTable) (origin : Ebnf.Production) (before after : Supply)
    (elements : List Element) : Prop where
  made : ∀ rule ∈ after.rules, rule ∈ before.rules ∨
    ((∃ element ∈ elements, table.Under element.symbol rule.id) ∧
      ∀ alternative ∈ rule.alternatives, ∀ element ∈ alternative, table.Wrapped element)
  origin : ∀ element ∈ elements, ∀ id, table.Under element.symbol id →
    ∃ rule, table.rule? id = some rule ∧ rule.origin = origin.id
  wrapped : ∀ element ∈ elements, table.Wrapped element

variable {table : RuleTable} {productions : List Ebnf.Production} {origin : Ebnf.Production}
  {before middle after : Supply} {first others : List Element}

theorem Lowers.nothing (supply : Supply) : Lowers table origin supply supply [] :=
  ⟨fun _ member => .inl member, by simp, by simp⟩

theorem Lowers.append (former : Lowers table origin before middle first)
    (latter : Lowers table origin middle after others) :
    Lowers table origin before after (first ++ others) where
  made := by
    intro rule member
    rcases latter.made rule member with earlier | ⟨⟨element, inside, under⟩, wrapped⟩
    · rcases former.made rule earlier with earliest | ⟨⟨element, inside, under⟩, wrapped⟩
      · exact .inl earliest
      · exact .inr ⟨⟨element, List.mem_append_left _ inside, under⟩, wrapped⟩
    · exact .inr ⟨⟨element, List.mem_append_right _ inside, under⟩, wrapped⟩
  origin := fun element member => (List.mem_append.mp member).elim
    (former.origin element) (latter.origin element)
  wrapped := fun element member => (List.mem_append.mp member).elim
    (former.wrapped element) (latter.wrapped element)

/-- An auxiliary production goes around what was made for it. -/
theorem Lowers.auxiliary (alternatives : List Alternative) {occurs : Occurs}
    (inner : Lowers table origin before middle alternatives.flatten)
    (present : (auxiliary origin occurs alternatives middle).1.In table) :
    Lowers table origin before (auxiliary origin occurs alternatives middle).1
      [(auxiliary origin occurs alternatives middle).2] := by
  have found := present _ (List.mem_cons_self ..)
  refine ⟨fun rule member => ?_, fun element member id under => ?_, fun element member _ => ?_⟩
  · rcases List.mem_cons.mp member with rfl | member
    · refine .inr ⟨⟨_, List.mem_singleton_self _, .here found rfl⟩,
        fun alternative chosen element inside => ?_⟩
      exact inner.wrapped element (List.mem_flatten.mpr ⟨alternative, chosen, inside⟩)
    · refine (inner.made rule member).imp_right fun ⟨⟨element, inside, under⟩, wrapped⟩ => ?_
      obtain ⟨alternative, chosen, inside⟩ := List.mem_flatten.mp inside
      exact ⟨⟨_, List.mem_singleton_self _, .through found rfl chosen inside under⟩, wrapped⟩
  · obtain rfl := List.mem_singleton.mp member
    generalize same : (Flatten.auxiliary origin occurs alternatives middle).2.symbol = symbol
      at under
    cases under with
    | @here rule _ _ =>
        have number : middle.next = rule.id := Symbol.rule.inj same
        exact ⟨_, number ▸ found, rfl⟩
    | @through rule alternative element _ other _ chosen inside under =>
        have number : middle.next = rule.id := Symbol.rule.inj same
        obtain rfl := Option.some.inj (found.symm.trans (number ▸ other))
        exact inner.origin element (List.mem_flatten.mpr ⟨alternative, chosen, inside⟩) id under
  · obtain rfl := List.mem_singleton.mp member
    exact ⟨_, found, rfl, rfl⟩

/-- A token or declared production is wrapped where its bounds ask for it. -/
theorem lowers_repeated (tableStands : TableStands table productions) {declared : Ebnf.Element}
    {symbol : Symbol} (plain : Plain productions declared symbol) {occurs : Occurs}
    {supply : Supply} (present : (repeated origin symbol occurs supply).1.In table) :
    Lowers table origin supply (repeated origin symbol occurs supply).1
      [(repeated origin symbol occurs supply).2] := by
  have alone : Lowers table origin supply supply [{ symbol }] := by
    have nothing : ∀ id, ¬ table.Under symbol id := by
      refine fun id => not_under fun rule found same => ?_
      cases plain with
      | token => cases same
      | rule known =>
          obtain ⟨other, lookup, isDeclared⟩ := tableStands.exists_declared known
          obtain rfl := Symbol.rule.inj same
          rwa [Option.some.inj (found.symm.trans lookup)]
    refine ⟨fun _ member => .inl member, fun element member id under => ?_,
      fun element member twice => ?_⟩
    · obtain rfl := List.mem_singleton.mp member
      exact (nothing id under).elim
    · obtain rfl := List.mem_singleton.mp member
      exact (twice rfl).elim
  unfold repeated at present ⊢
  split
  · exact alone
  · rename_i notOnce
    rw [if_neg notOnce] at present
    exact Lowers.auxiliary [[{ symbol }]] alone present

section

variable {vocabulary : Vocabulary} {free : RuleId}

mutual
theorem lowers_element (tableStands : TableStands table productions) : (declared : Ebnf.Element) →
    declared.Valid vocabulary (productions.map (·.id)) → (supply : Supply) →
      supply.Sound vocabulary (productions.map (·.id)) free →
        (element origin declared supply).1.In table →
          Lowers table origin supply (element origin declared supply).1
            [(element origin declared supply).2]
  | .token id occurs, _, supply, _, present =>
      lowers_repeated tableStands (show Plain _ (.token id occurs) _ from .token) present
  | .rule id occurs, valid, supply, _, present => by
      cases valid with
      | rule _ known =>
          exact lowers_repeated tableStands (show Plain _ (.rule id occurs) _ from .rule known) present
  | .group declared occurs, valid, supply, sound, present => by
      cases valid with
      | group _ inner =>
          exact (lowers_alternatives tableStands declared inner supply sound fun rule member =>
            present rule (List.mem_cons_of_mem _ member)).auxiliary _ present

theorem lowers_alternatives (tableStands : TableStands table productions) :
    (declared : List (List Ebnf.Element)) →
    (∀ elements ∈ declared, ∀ element ∈ elements,
      element.Valid vocabulary (productions.map (·.id))) → (supply : Supply) →
      supply.Sound vocabulary (productions.map (·.id)) free →
        (alternatives origin declared supply).1.In table →
          Lowers table origin supply (alternatives origin declared supply).1
            (alternatives origin declared supply).2.flatten
  | [], _, supply, _, _ => .nothing supply
  | first :: rest, valid, supply, sound, present => by
      have firstValid := valid first (by simp)
      have restValid : ∀ elements ∈ rest, ∀ element ∈ elements,
          element.Valid vocabulary (productions.map (·.id)) :=
        fun elements member => valid elements (by simp [member])
      obtain ⟨grown, _⟩ := @grown_elements vocabulary _ free origin first firstValid supply sound
      obtain ⟨further, _⟩ := @grown_alternatives vocabulary _ free origin rest restValid _ grown.sound
      exact (lowers_elements tableStands first firstValid supply sound (further.within present)).append
        (lowers_alternatives tableStands rest restValid _ grown.sound present)

theorem lowers_elements (tableStands : TableStands table productions) :
    (declared : List Ebnf.Element) →
    (∀ element ∈ declared, element.Valid vocabulary (productions.map (·.id))) →
    (supply : Supply) → supply.Sound vocabulary (productions.map (·.id)) free →
      (elements origin declared supply).1.In table →
        Lowers table origin supply (elements origin declared supply).1
          (elements origin declared supply).2
  | [], _, supply, _, _ => .nothing supply
  | first :: rest, valid, supply, sound, present => by
      have firstValid := valid first (by simp)
      have restValid : ∀ element ∈ rest, element.Valid vocabulary (productions.map (·.id)) :=
        fun element member => valid element (by simp [member])
      obtain ⟨grown, _⟩ := @grown_element vocabulary _ free origin first firstValid supply sound
      obtain ⟨further, _⟩ := @grown_elements vocabulary _ free origin rest restValid _ grown.sound
      exact (lowers_element tableStands first firstValid supply sound (further.within present)).append
        (lowers_elements tableStands rest restValid _ grown.sound present)
end

/-- What flattening promises of the entry of a declared production. -/
structure Hosts (table : RuleTable) (entry : Rule) : Prop where
  isDeclared : entry.isAuxiliary = false
  own : entry.origin = entry.id
  origin : ∀ alternative ∈ entry.alternatives, ∀ element ∈ alternative, ∀ id,
    table.Under element.symbol id → ∃ rule, table.rule? id = some rule ∧ rule.origin = entry.id
  wrapped : ∀ alternative ∈ entry.alternatives, ∀ element ∈ alternative, table.Wrapped element

theorem hosts_productions (tableStands : TableStands table productions)
    {declared : List Ebnf.Production}
    (valid : ∀ production ∈ declared, ∀ elements ∈ production.alternatives,
      ∀ element ∈ elements, element.Valid vocabulary (productions.map (·.id)))
    {supply : Supply} (sound : supply.Sound vocabulary (productions.map (·.id)) free)
    (present : (Flatten.productions declared supply).1.In table) :
    (∀ entry ∈ (Flatten.productions declared supply).2, Hosts table entry) ∧
      ∀ rule ∈ (Flatten.productions declared supply).1.rules, rule ∈ supply.rules ∨
        ((∃ entry ∈ (Flatten.productions declared supply).2,
          ∃ alternative ∈ entry.alternatives, ∃ element ∈ alternative,
            table.Under element.symbol rule.id) ∧
          ∀ alternative ∈ rule.alternatives, ∀ element ∈ alternative, table.Wrapped element) := by
  induction declared generalizing supply with
  | nil => exact ⟨by simp [Flatten.productions], fun rule member => .inl member⟩
  | cons first rest ih =>
      have fresh : Supply.Sound vocabulary (productions.map (·.id)) free
          { supply with made := 0 } :=
        ⟨sound.low, sound.ids, sound.auxiliary, sound.fits⟩
      have firstValid := valid first (by simp)
      have restValid : ∀ production ∈ rest, ∀ elements ∈ production.alternatives,
          ∀ element ∈ elements, element.Valid vocabulary (productions.map (·.id)) :=
        fun production member => valid production (by simp [member])
      obtain ⟨grown, _⟩ := @grown_alternatives vocabulary _ free first _ firstValid _ fresh
      obtain ⟨further, _⟩ := grown_productions restValid grown.sound
      have lowers := @lowers_alternatives table productions first vocabulary free tableStands
        _ firstValid _ fresh (further.within present)
      obtain ⟨hosts, made⟩ := ih restValid grown.sound present
      have inFirst {alternative : Alternative} {element : Element}
          (chosen : alternative ∈ (production first supply).2.alternatives)
          (inside : element ∈ alternative) :
          element ∈ (production first supply).2.alternatives.flatten :=
        List.mem_flatten.mpr ⟨alternative, chosen, inside⟩
      refine ⟨fun entry member => ?_, fun rule member => ?_⟩
      · rcases List.mem_cons.mp member with rfl | member
        · exact ⟨rfl, rfl,
            fun alternative chosen element inside => lowers.origin element (inFirst chosen inside),
            fun alternative chosen element inside => lowers.wrapped element (inFirst chosen inside)⟩
        · exact hosts entry member
      · rcases made rule member with earlier | ⟨⟨entry, among, written⟩, wrapped⟩
        · apply (lowers.made rule earlier).imp_right
          rintro ⟨⟨element, inside, under⟩, wrapped⟩
          obtain ⟨alternative, chosen, inside⟩ := List.mem_flatten.mp inside
          exact ⟨⟨_, List.mem_cons_self .., alternative, chosen, element, inside, under⟩, wrapped⟩
        · exact .inr ⟨⟨entry, List.mem_cons_of_mem _ among, written⟩, wrapped⟩

end

end Flatten

end StrongLL
