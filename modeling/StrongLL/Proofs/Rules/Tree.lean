import StrongLL.Proofs.Ebnf.Tree
import StrongLL.Proofs.Rules.Flatten

/-!
# Derivation trees of rule tables

What the productions of a table derive, as parse trees in which auxiliary productions
have no nodes. In the flattened table of a valid declaration a symbol stands for each
declared element, and the alternatives of a production for the declared ones.
-/

namespace StrongLL

namespace RuleTable

/-- The nodes side by side that a piece of a production derives. -/
inductive Builds (table : RuleTable) (vocabulary : Vocabulary) : Form → List Node → Prop where
  | token {id : TokenId} {token : Token} {pattern : Pattern}
      (found : vocabulary.find? id = some pattern) (kind : token.id = id) :
      Builds table vocabulary (.symbol (.token id)) [.leaf token pattern.name]
  | declared {id : RuleId} {rule : Rule} {alternative : Alternative} {children : List Node}
      (found : table.rule? id = some rule) (isDeclared : rule.isAuxiliary = false)
      (chosen : alternative ∈ rule.alternatives)
      (inner : Builds table vocabulary (.row alternative) children) :
      Builds table vocabulary (.symbol (.rule id)) [.branch id rule.name children]
  | auxiliary {id : RuleId} {rule : Rule} {alternative : Alternative} {nodes : List Node}
      (found : table.rule? id = some rule) (isAuxiliary : rule.isAuxiliary = true)
      (chosen : alternative ∈ rule.alternatives)
      (inner : Builds table vocabulary (.row alternative) nodes) :
      Builds table vocabulary (.symbol (.rule id)) nodes
  | noCopy (symbol : Symbol) : Builds table vocabulary (.copies symbol 0) []
  | oneMore {symbol : Symbol} {count : Nat} {first others : List Node}
      (copy : Builds table vocabulary (.symbol symbol) first)
      (more : Builds table vocabulary (.copies symbol count) others) :
      Builds table vocabulary (.copies symbol (count + 1)) (first ++ others)
  | nothing : Builds table vocabulary (.row []) []
  | element {element : Element} {rest : Alternative} {count : Nat} {first others : List Node}
      (admitted : element.occurs.Admits count)
      (copies : Builds table vocabulary (.copies element.symbol count) first)
      (more : Builds table vocabulary (.row rest) others) :
      Builds table vocabulary (.row (element :: rest)) (first ++ others)

variable {table : RuleTable} {vocabulary : Vocabulary}

theorem leavesOf_append (first others : List Node) :
    Node.leavesOf (first ++ others) = Node.leavesOf first ++ Node.leavesOf others := by
  induction first with
  | nil => rfl
  | cons node rest ih => simp [Node.leavesOf, ih]

/-- A piece derives the tokens at the leaves of its nodes. -/
theorem Builds.derives {form : Form} {nodes : List Node}
    (builds : table.Builds vocabulary form nodes) :
    table.Derives form ((Node.leavesOf nodes).map (·.id)) := by
  induction builds with
  | token found kind =>
      subst kind
      exact .token _
  | declared found _ chosen _ ih =>
      have lookup := alternatives_of_rule? found
      simpa [Node.leavesOf, Node.leaves] using Derives.rule (lookup ▸ chosen) ih
  | auxiliary found _ chosen _ ih =>
      have lookup := alternatives_of_rule? found
      exact .rule (lookup ▸ chosen) ih
  | noCopy symbol => exact .noCopy symbol
  | oneMore _ _ copyIH moreIH =>
      rw [leavesOf_append, List.map_append]
      exact .oneMore copyIH moreIH
  | nothing => exact .nothing
  | element admitted _ _ copiesIH moreIH =>
      rw [leavesOf_append, List.map_append]
      exact .element admitted copiesIH moreIH

end RuleTable

namespace Flatten

/-! ## What stands for what -/

/-- A token or production stands for itself. -/
inductive Plain (productions : List Ebnf.Production) : Ebnf.Element → Symbol → Prop where
  | token {id : TokenId} {occurs : Occurs} : Plain productions (.token id occurs) (.token id)
  | rule {id : RuleId} {occurs : Occurs} (known : id ∈ productions.map (·.id)) :
      Plain productions (.rule id occurs) (.rule id)

mutual
/-- A symbol of a table stands for a declared element. -/
inductive Stands (table : RuleTable) (productions : List Ebnf.Production) :
    Ebnf.Element → Symbol → Prop where
  | plain {declared : Ebnf.Element} {symbol : Symbol}
      (plain : Plain productions declared symbol) : Stands table productions declared symbol
  | wrapped {declared : Ebnf.Element} {symbol : Symbol} {rule : Rule}
      (made : table.rule? rule.id = some rule) (isAuxiliary : rule.isAuxiliary = true)
      (single : rule.alternatives = [[{ symbol }]])
      (plain : Plain productions declared symbol) :
      Stands table productions declared (.rule rule.id)
  | group {alternatives : List (List Ebnf.Element)} {occurs : Occurs} {rule : Rule}
      (made : table.rule? rule.id = some rule) (isAuxiliary : rule.isAuxiliary = true)
      (rows : RowsStand table productions alternatives rule.alternatives) :
      Stands table productions (.group alternatives occurs) (.rule rule.id)

/-- Elements in a row stand for declared ones, with the same bounds. -/
inductive RowStands (table : RuleTable) (productions : List Ebnf.Production) :
    List Ebnf.Element → Alternative → Prop where
  | nil : RowStands table productions [] []
  | cons {declared : Ebnf.Element} {element : Element} {rest : List Ebnf.Element}
      {others : Alternative} (occurs : element.occurs = declared.occurs)
      (stands : Stands table productions declared element.symbol)
      (more : RowStands table productions rest others) :
      RowStands table productions (declared :: rest) (element :: others)

/-- Alternatives stand for declared ones. -/
inductive RowsStand (table : RuleTable) (productions : List Ebnf.Production) :
    List (List Ebnf.Element) → List Alternative → Prop where
  | nil : RowsStand table productions [] []
  | cons {elements : List Ebnf.Element} {alternative : Alternative}
      {rest : List (List Ebnf.Element)} {others : List Alternative}
      (row : RowStands table productions elements alternative)
      (more : RowsStand table productions rest others) :
      RowsStand table productions (elements :: rest) (alternative :: others)
end

variable {table : RuleTable} {productions : List Ebnf.Production}

theorem RowsStand.exists_alternative {declared : List (List Ebnf.Element)}
    {alternatives : List Alternative} (stand : RowsStand table productions declared alternatives)
    {elements : List Ebnf.Element} (chosen : elements ∈ declared) :
    ∃ alternative ∈ alternatives, RowStands table productions elements alternative := by
  induction declared generalizing alternatives with
  | nil => simp at chosen
  | cons first rest ih =>
      cases stand with
      | cons row more =>
          rcases List.mem_cons.mp chosen with rfl | chosen
          · exact ⟨_, by simp, row⟩
          · obtain ⟨alternative, member, found⟩ := ih more chosen
            exact ⟨alternative, by simp [member], found⟩

theorem RowsStand.exists_declared {declared : List (List Ebnf.Element)}
    {alternatives : List Alternative} (stand : RowsStand table productions declared alternatives)
    {alternative : Alternative} (chosen : alternative ∈ alternatives) :
    ∃ elements ∈ declared, RowStands table productions elements alternative := by
  induction alternatives generalizing declared with
  | nil => simp at chosen
  | cons first rest ih =>
      cases stand with
      | cons row more =>
          rcases List.mem_cons.mp chosen with rfl | chosen
          · exact ⟨_, by simp, row⟩
          · obtain ⟨elements, member, found⟩ := ih more chosen
            exact ⟨elements, by simp [member], found⟩

/-- A declared production is in the table, and its alternatives stand for the declared
ones. -/
def TableStands (table : RuleTable) (productions : List Ebnf.Production) : Prop :=
  ∀ production ∈ productions, ∃ rule, table.rule? production.id = some rule ∧
    rule.isAuxiliary = false ∧ rule.name = production.name ∧
      RowsStand table productions production.alternatives rule.alternatives

/-! ## What flattening makes stands for what was declared -/

section

variable {vocabulary : Vocabulary} {free : RuleId} {origin : Ebnf.Production}

/-- All auxiliary productions of a supply are in a table. -/
def Supply.In (table : RuleTable) (supply : Supply) : Prop :=
  ∀ rule ∈ supply.rules, table.rule? rule.id = some rule

theorem Grown.within {before after : Supply}
    (grown : Grown vocabulary (productions.map (·.id)) free before after)
    (present : after.In table) : before.In table :=
  fun rule member => present rule (grown.kept.subset member)

theorem stands_repeated {declared : Ebnf.Element} {symbol : Symbol} {occurs : Occurs}
    {supply : Supply} (plain : Plain productions declared symbol)
    (present : (repeated origin symbol occurs supply).1.In table) :
    (repeated origin symbol occurs supply).2.occurs = occurs ∧
      Stands table productions declared (repeated origin symbol occurs supply).2.symbol := by
  unfold repeated at present ⊢
  split
  · rename_i once
    exact ⟨(beq_iff_eq.mp once).symm, .plain plain⟩
  · rename_i notOnce
    rw [if_neg notOnce] at present
    exact ⟨rfl, .wrapped (present _ (List.mem_cons_self ..)) rfl rfl plain⟩

mutual
theorem stands_element : (declared : Ebnf.Element) →
    declared.Valid vocabulary (productions.map (·.id)) → (supply : Supply) →
      supply.Sound vocabulary (productions.map (·.id)) free →
        (element origin declared supply).1.In table →
          (element origin declared supply).2.occurs = declared.occurs ∧
            Stands table productions declared (element origin declared supply).2.symbol
  | .token id occurs, _, supply, _, present => stands_repeated .token present
  | .rule id occurs, valid, supply, _, present => by
      cases valid with
      | rule _ known => exact stands_repeated (.rule known) present
  | .group declared occurs, valid, supply, sound, present => by
      cases valid with
      | group _ inner =>
          have made := present _ (List.mem_cons_self ..)
          have rows := stands_alternatives declared inner supply sound
            fun rule member => present rule (List.mem_cons_of_mem _ member)
          exact ⟨rfl, .group made rfl rows⟩

theorem stands_alternatives : (declared : List (List Ebnf.Element)) →
    (∀ elements ∈ declared, ∀ element ∈ elements,
      element.Valid vocabulary (productions.map (·.id))) → (supply : Supply) →
      supply.Sound vocabulary (productions.map (·.id)) free →
        (alternatives origin declared supply).1.In table →
          RowsStand table productions declared (alternatives origin declared supply).2
  | [], _, _, _, _ => .nil
  | first :: rest, valid, supply, sound, present => by
      have firstValid := valid first (by simp)
      have restValid : ∀ elements ∈ rest, ∀ element ∈ elements,
          element.Valid vocabulary (productions.map (·.id)) :=
        fun elements member => valid elements (by simp [member])
      obtain ⟨grown, _⟩ := @grown_elements vocabulary _ free origin first firstValid supply sound
      obtain ⟨further, _⟩ := @grown_alternatives vocabulary _ free origin rest restValid _ grown.sound
      exact .cons (stands_elements first firstValid supply sound (further.within present))
        (stands_alternatives rest restValid _ grown.sound present)

theorem stands_elements : (declared : List Ebnf.Element) →
    (∀ element ∈ declared, element.Valid vocabulary (productions.map (·.id))) →
    (supply : Supply) → supply.Sound vocabulary (productions.map (·.id)) free →
      (elements origin declared supply).1.In table →
        RowStands table productions declared (elements origin declared supply).2
  | [], _, _, _, _ => .nil
  | first :: rest, valid, supply, sound, present => by
      have firstValid := valid first (by simp)
      have restValid : ∀ element ∈ rest, element.Valid vocabulary (productions.map (·.id)) :=
        fun element member => valid element (by simp [member])
      obtain ⟨grown, _⟩ := @grown_element vocabulary _ free origin first firstValid supply sound
      obtain ⟨further, _⟩ := @grown_elements vocabulary _ free origin rest restValid _ grown.sound
      obtain ⟨occurs, stands⟩ :=
        stands_element first firstValid supply sound (further.within present)
      exact .cons occurs stands (stands_elements rest restValid _ grown.sound present)
end

/-- A production that flattening made of a declared one. -/
structure Made (table : RuleTable) (productions : List Ebnf.Production)
    (production : Ebnf.Production) (rule : Rule) : Prop where
  id : rule.id = production.id
  isDeclared : rule.isAuxiliary = false
  name : rule.name = production.name
  rows : RowsStand table productions production.alternatives rule.alternatives

theorem made_productions {declared : List Ebnf.Production}
    (valid : ∀ production ∈ declared, ∀ elements ∈ production.alternatives,
      ∀ element ∈ elements, element.Valid vocabulary (productions.map (·.id)))
    {supply : Supply} (sound : supply.Sound vocabulary (productions.map (·.id)) free)
    (present : (Flatten.productions declared supply).1.In table) :
    ∀ production ∈ declared, ∃ rule ∈ (Flatten.productions declared supply).2,
      Made table productions production rule := by
  induction declared generalizing supply with
  | nil => simp
  | cons first rest ih =>
      have fresh : Supply.Sound vocabulary (productions.map (·.id)) free
          { supply with made := 0 } :=
        ⟨sound.low, sound.ids, sound.auxiliary, sound.fits⟩
      have restValid : ∀ production ∈ rest, ∀ elements ∈ production.alternatives,
          ∀ element ∈ elements, element.Valid vocabulary (productions.map (·.id)) :=
        fun production member => valid production (by simp [member])
      obtain ⟨grown, _⟩ := @grown_alternatives vocabulary _ free first first.alternatives
        (valid first (by simp)) _ fresh
      obtain ⟨further, _⟩ := grown_productions restValid grown.sound
      have rows := @stands_alternatives table productions vocabulary free first first.alternatives
        (valid first (by simp)) _ fresh (further.within present)
      intro production member
      rcases List.mem_cons.mp member with rfl | member
      · exact ⟨_, List.mem_cons_self .., ⟨rfl, rfl, rfl, rows⟩⟩
      · obtain ⟨rule, inRest, made⟩ := ih restValid grown.sound present production member
        exact ⟨rule, List.mem_cons_of_mem _ inRest, made⟩

/-- In the table of a valid declaration all declared productions stand. -/
theorem tableStands (sound : Ebnf.Sound vocabulary productions) :
    TableStands (Flatten.table productions) productions := by
  have distinct := distinct_table sound
  have present : (Flatten.productions productions
      { next := firstFree productions }).1.In (Flatten.table productions) := by
    intro rule member
    exact RuleTable.rule?_of_mem distinct
      (List.mem_append_right _ (List.mem_reverse.mpr member))
  intro production member
  obtain ⟨rule, inRules, made⟩ := made_productions sound.valid sound_start present production member
  refine ⟨rule, ?_, made.isDeclared, made.name, made.rows⟩
  rw [← made.id]
  exact RuleTable.rule?_of_mem distinct (List.mem_append_left _ inRules)

end

end Flatten

end StrongLL
