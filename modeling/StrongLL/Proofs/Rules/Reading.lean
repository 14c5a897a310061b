import StrongLL.Proofs.Rules.Tree

/-!
# Children of declared productions

What the children of a production can be, one beside the other, when each of them stands for
a token or a declared production. In a declaration a group stands for one of its
alternatives; in a table the children of an auxiliary production stand among those of the
production that refers to it. Flattening keeps what can be read, and with it the derivation
trees: an element and the symbol that stands for it derive the same nodes.
-/

namespace StrongLL

namespace Ebnf

/-- The children that a piece of a declared production can have. `child` says which nodes
stand for a token or a production. -/
inductive Reads (child : Symbol → Node → Prop) : Form → List Node → Prop where
  | token {id : TokenId} {occurs : Occurs} {node : Node} (fits : child (.token id) node) :
      Reads child (.unit (.token id occurs)) [node]
  | rule {id : RuleId} {occurs : Occurs} {node : Node} (fits : child (.rule id) node) :
      Reads child (.unit (.rule id occurs)) [node]
  | group {alternatives : List (List Element)} {occurs : Occurs} {elements : List Element}
      {nodes : List Node} (chosen : elements ∈ alternatives)
      (inner : Reads child (.row elements) nodes) :
      Reads child (.unit (.group alternatives occurs)) nodes
  | noCopy (element : Element) : Reads child (.copies element 0) []
  | oneMore {element : Element} {count : Nat} {first others : List Node}
      (copy : Reads child (.unit element) first)
      (more : Reads child (.copies element count) others) :
      Reads child (.copies element (count + 1)) (first ++ others)
  | nothing : Reads child (.row []) []
  | element {element : Element} {rest : List Element} {count : Nat} {first others : List Node}
      (admitted : element.occurs.Admits count)
      (copies : Reads child (.copies element count) first)
      (more : Reads child (.row rest) others) :
      Reads child (.row (element :: rest)) (first ++ others)

/-- A child of a declared production has a derivation tree below it. -/
def Declaration.Child (declaration : Declaration) : Symbol → Node → Prop
  | .token id, node => ∀ occurs, Builds declaration (.unit (.token id occurs)) [node]
  | .rule id, node => ∀ occurs, Builds declaration (.unit (.rule id occurs)) [node]

/-- Children with derivation trees below them are derived. -/
theorem builds_of_reads {declaration : Declaration} {form : Form} {nodes : List Node}
    (reads : Reads declaration.Child form nodes) : Builds declaration form nodes := by
  induction reads with
  | token fits => exact fits _
  | rule fits => exact fits _
  | group chosen _ ih => exact .group chosen ih
  | noCopy element => exact .noCopy element
  | oneMore _ _ copyIH moreIH => exact .oneMore copyIH moreIH
  | nothing => exact .nothing
  | element admitted _ _ copiesIH moreIH => exact .element admitted copiesIH moreIH

end Ebnf

namespace RuleTable

/-- The children that a piece of a production of a table can have. -/
inductive Reads (table : RuleTable) (child : Symbol → Node → Prop) : Form → List Node → Prop where
  | token {id : TokenId} {node : Node} (fits : child (.token id) node) :
      Reads table child (.symbol (.token id)) [node]
  | declared {id : RuleId} {rule : Rule} {node : Node} (found : table.rule? id = some rule)
      (isDeclared : rule.isAuxiliary = false) (fits : child (.rule id) node) :
      Reads table child (.symbol (.rule id)) [node]
  | auxiliary {id : RuleId} {rule : Rule} {alternative : Alternative} {nodes : List Node}
      (found : table.rule? id = some rule) (isAuxiliary : rule.isAuxiliary = true)
      (chosen : alternative ∈ rule.alternatives)
      (inner : Reads table child (.row alternative) nodes) :
      Reads table child (.symbol (.rule id)) nodes
  | noCopy (symbol : Symbol) : Reads table child (.copies symbol 0) []
  | oneMore {symbol : Symbol} {count : Nat} {first others : List Node}
      (copy : Reads table child (.symbol symbol) first)
      (more : Reads table child (.copies symbol count) others) :
      Reads table child (.copies symbol (count + 1)) (first ++ others)
  | nothing : Reads table child (.row []) []
  | element {element : Element} {rest : Alternative} {count : Nat} {first others : List Node}
      (admitted : element.occurs.Admits count)
      (copies : Reads table child (.copies element.symbol count) first)
      (more : Reads table child (.row rest) others) :
      Reads table child (.row (element :: rest)) (first ++ others)

variable {table : RuleTable} {child : Symbol → Node → Prop}

/-- A row of one symbol, once, is read as the symbol is. -/
theorem reads_single {symbol : Symbol} {nodes : List Node} :
    table.Reads child (.row [{ symbol }]) nodes ↔ table.Reads child (.symbol symbol) nodes := by
  constructor
  · intro reads
    cases reads with
    | @element _ _ count first others admitted copies more =>
        cases more
        have atLeast : 1 ≤ count := admitted.1
        have atMost : count ≤ 1 := admitted.2 1 rfl
        obtain rfl : count = 1 := Nat.le_antisymm atMost atLeast
        cases copies with
        | oneMore copy none =>
            cases none
            simpa using copy
  · intro reads
    have row : table.Reads child (.row [{ symbol }]) ((nodes ++ []) ++ []) :=
      .element ⟨Nat.le_refl 1, by simp [Occurs.once]⟩ (.oneMore reads (.noCopy symbol)) .nothing
    simpa using row

/-- A child of a production of a table has a derivation tree below it. -/
def Child (table : RuleTable) (vocabulary : Vocabulary) (symbol : Symbol) (node : Node) : Prop :=
  table.Builds vocabulary (.symbol symbol) [node]

/-- Children with derivation trees below them are derived. -/
theorem builds_of_reads {vocabulary : Vocabulary} {form : Form} {nodes : List Node}
    (reads : table.Reads (table.Child vocabulary) form nodes) :
    table.Builds vocabulary form nodes := by
  induction reads with
  | token fits => exact fits
  | declared _ _ fits => exact fits
  | auxiliary found isAuxiliary chosen _ ih => exact .auxiliary found isAuxiliary chosen ih
  | noCopy symbol => exact .noCopy symbol
  | oneMore _ _ copyIH moreIH => exact .oneMore copyIH moreIH
  | nothing => exact .nothing
  | element admitted _ _ copiesIH moreIH => exact .element admitted copiesIH moreIH

end RuleTable

namespace Flatten

variable {table : RuleTable} {productions : List Ebnf.Production}
  {child : Symbol → Node → Prop}

/-! ## Tokens and productions -/

/-- The number of a declared production is not taken by an auxiliary one. -/
theorem TableStands.exists_declared (tableStands : TableStands table productions) {id : RuleId}
    (known : id ∈ productions.map (·.id)) :
    ∃ rule, table.rule? id = some rule ∧ rule.isAuxiliary = false := by
  obtain ⟨production, member, rfl⟩ := List.mem_map.mp known
  obtain ⟨rule, found, isDeclared, _⟩ := tableStands production member
  exact ⟨rule, found, isDeclared⟩

/-- A token or production that stands for itself is read as it was declared. -/
theorem reads_of_plain (tableStands : TableStands table productions)
    {declared : Ebnf.Element} {symbol : Symbol} (plain : Plain productions declared symbol)
    {nodes : List Node} (reads : Ebnf.Reads child (.unit declared) nodes) :
    table.Reads child (.symbol symbol) nodes := by
  cases plain with
  | token =>
      cases reads with
      | token fits => exact .token fits
  | rule known =>
      obtain ⟨rule, lookup, isDeclared⟩ := tableStands.exists_declared known
      cases reads with
      | rule fits => exact .declared lookup isDeclared fits

/-- A declared token or production is read as the symbol that it stands for itself. -/
theorem declared_of_plain (tableStands : TableStands table productions)
    {back : Symbol → Node → Prop}
    (restate : ∀ declared symbol, Plain productions declared symbol →
      ∀ node, child symbol node → back symbol node)
    {declared : Ebnf.Element} {symbol : Symbol} (plain : Plain productions declared symbol)
    {nodes : List Node} (reads : table.Reads child (.symbol symbol) nodes) :
    Ebnf.Reads back (.unit declared) nodes := by
  have restated := restate declared symbol plain
  cases plain with
  | token =>
      cases reads with
      | token fits => exact .token (restated _ fits)
  | rule known =>
      obtain ⟨rule, lookup, isDeclared⟩ := tableStands.exists_declared known
      cases reads with
      | declared _ _ fits => exact .rule (restated _ fits)
      | auxiliary found isAuxiliary _ _ =>
          obtain rfl := Option.some.inj (lookup.symm.trans found)
          rw [isDeclared] at isAuxiliary
          cases isAuxiliary

/-! ## From declarations to tables -/

/-- How a declared piece is read, what stands for it is read, too. -/
def ReadsOn (table : RuleTable) (child : Symbol → Node → Prop)
    (productions : List Ebnf.Production) (nodes : List Node) : Ebnf.Form → Prop
  | .unit declared => ∀ symbol, Stands table productions declared symbol →
      table.Reads child (.symbol symbol) nodes
  | .copies declared count => ∀ symbol, Stands table productions declared symbol →
      table.Reads child (.copies symbol count) nodes
  | .row declared => ∀ alternative, RowStands table productions declared alternative →
      table.Reads child (.row alternative) nodes

/-- A token or production is read as it was declared, also where it is wrapped. -/
theorem readsOn_unit (tableStands : TableStands table productions) {declared : Ebnf.Element}
    {nodes : List Node} (reads : Ebnf.Reads child (.unit declared) nodes)
    (single : ∀ alternatives occurs, declared ≠ .group alternatives occurs) :
    ReadsOn table child productions nodes (.unit declared) := by
  intro symbol stands
  cases stands with
  | plain plain => exact reads_of_plain tableStands plain reads
  | wrapped made isAuxiliary alone plain =>
      refine .auxiliary made isAuxiliary (alone ▸ List.mem_singleton_self _) ?_
      exact RuleTable.reads_single.mpr (reads_of_plain tableStands plain reads)
  | group => exact (single _ _ rfl).elim

theorem readsOn_of_reads (tableStands : TableStands table productions) {form : Ebnf.Form}
    {nodes : List Node} (reads : Ebnf.Reads child form nodes) :
    ReadsOn table child productions nodes form := by
  induction reads with
  | token fits => exact readsOn_unit tableStands (.token fits) (by simp)
  | rule fits => exact readsOn_unit tableStands (.rule fits) (by simp)
  | group chosen _ ih =>
      intro symbol stands
      cases stands with
      | plain plain => cases plain
      | wrapped _ _ _ plain => cases plain
      | group made isAuxiliary rows =>
          obtain ⟨alternative, inRule, row⟩ := rows.exists_alternative chosen
          exact .auxiliary made isAuxiliary inRule (ih alternative row)
  | noCopy element => exact fun symbol _ => .noCopy symbol
  | oneMore _ _ copyIH moreIH =>
      exact fun symbol stands => .oneMore (copyIH symbol stands) (moreIH symbol stands)
  | nothing =>
      intro alternative row
      cases row
      exact .nothing
  | element admitted _ _ copiesIH moreIH =>
      intro alternative row
      cases row with
      | cons occurs stands more =>
          exact .element (occurs ▸ admitted) (copiesIH _ stands) (moreIH _ more)

/-! ## From tables to declarations -/

/-- How a piece of the table is read, all declared pieces that it stands for are read, too. -/
def ReadsBack (table : RuleTable) (child : Symbol → Node → Prop)
    (productions : List Ebnf.Production) (nodes : List Node) : Form → Prop
  | .symbol symbol => ∀ declared, Stands table productions declared symbol →
      Ebnf.Reads child (.unit declared) nodes
  | .copies symbol count => ∀ declared, Stands table productions declared symbol →
      Ebnf.Reads child (.copies declared count) nodes
  | .row alternative => ∀ declared, RowStands table productions declared alternative →
      Ebnf.Reads child (.row declared) nodes

/-- Where a child in the table is one of the declaration, too, so are the children in a row. -/
theorem readsBack_of_reads (tableStands : TableStands table productions)
    {back : Symbol → Node → Prop}
    (restate : ∀ declared symbol, Plain productions declared symbol →
      ∀ node, child symbol node → back symbol node)
    {form : Form} {nodes : List Node} (reads : table.Reads child form nodes) :
    ReadsBack table back productions nodes form := by
  induction reads with
  | token fits =>
      intro declared stands
      cases stands with
      | plain plain => exact declared_of_plain tableStands restate plain (.token fits)
  | declared found isDeclared fits =>
      intro declared stands
      cases stands with
      | plain plain =>
          exact declared_of_plain tableStands restate plain (.declared found isDeclared fits)
      | wrapped made isAuxiliary _ _ =>
          obtain rfl := Option.some.inj (made.symm.trans found)
          rw [isAuxiliary] at isDeclared
          cases isDeclared
      | group made isAuxiliary _ =>
          obtain rfl := Option.some.inj (made.symm.trans found)
          rw [isAuxiliary] at isDeclared
          cases isDeclared
  | auxiliary found isAuxiliary chosen inner ih =>
      intro declared stands
      cases stands with
      | plain plain =>
          exact declared_of_plain tableStands restate plain
            (.auxiliary found isAuxiliary chosen inner)
      | wrapped made _ alone plain =>
          obtain rfl := Option.some.inj (made.symm.trans found)
          rw [alone] at chosen
          obtain rfl := List.mem_singleton.mp chosen
          exact declared_of_plain tableStands restate plain (RuleTable.reads_single.mp inner)
      | group made _ rows =>
          obtain rfl := Option.some.inj (made.symm.trans found)
          obtain ⟨elements, inDeclared, row⟩ := rows.exists_declared chosen
          exact .group inDeclared (ih elements row)
  | noCopy symbol => exact fun declared _ => .noCopy declared
  | oneMore _ _ copyIH moreIH =>
      exact fun declared stands => .oneMore (copyIH declared stands) (moreIH declared stands)
  | nothing =>
      intro declared row
      cases row
      exact .nothing
  | element admitted _ _ copiesIH moreIH =>
      intro declared row
      cases row with
      | cons occurs stands more =>
          exact .element (occurs ▸ admitted) (copiesIH _ stands) (moreIH _ more)

/-- Alternatives that stand for declared ones have the same children. -/
theorem RowsStand.reads_iff (tableStands : TableStands table productions)
    {declared : List (List Ebnf.Element)} {alternatives : List Alternative}
    (stand : RowsStand table productions declared alternatives) {nodes : List Node} :
    (∃ elements ∈ declared, Ebnf.Reads child (.row elements) nodes) ↔
      ∃ alternative ∈ alternatives, table.Reads child (.row alternative) nodes := by
  constructor
  · rintro ⟨elements, chosen, reads⟩
    obtain ⟨alternative, member, row⟩ := stand.exists_alternative chosen
    exact ⟨alternative, member, readsOn_of_reads tableStands reads alternative row⟩
  · rintro ⟨alternative, chosen, reads⟩
    obtain ⟨elements, member, row⟩ := stand.exists_declared chosen
    exact ⟨elements, member,
      readsBack_of_reads tableStands (fun _ _ _ _ fits => fits) reads elements row⟩

/-! ## Derivation trees -/

section

variable {declaration : Ebnf.Declaration} {vocabulary : Vocabulary}

/-- What a declared piece derives, what stands for it derives, too. -/
def Transfers (table : RuleTable) (vocabulary : Vocabulary)
    (productions : List Ebnf.Production) (nodes : List Node) : Ebnf.Form → Prop
  | .unit declared => ∀ symbol, Stands table productions declared symbol →
      table.Builds vocabulary (.symbol symbol) nodes
  | .copies declared count => ∀ symbol, Stands table productions declared symbol →
      table.Builds vocabulary (.copies symbol count) nodes
  | .row declared => ∀ alternative, RowStands table productions declared alternative →
      table.Builds vocabulary (.row alternative) nodes

/-- What a piece of the table derives, all declared pieces that it stands for derive,
too. -/
def Reflects (table : RuleTable) (declaration : Ebnf.Declaration) (nodes : List Node) :
    Form → Prop
  | .symbol symbol => ∀ declared, Stands table declaration.productions declared symbol →
      Ebnf.Builds declaration (.unit declared) nodes
  | .copies symbol count => ∀ declared, Stands table declaration.productions declared symbol →
      Ebnf.Builds declaration (.copies declared count) nodes
  | .row alternative => ∀ declared, RowStands table declaration.productions declared alternative →
      Ebnf.Builds declaration (.row declared) nodes

/-- The children that a declaration derives are derived by the table. -/
theorem reads_of_declared (tableStands : TableStands table declaration.productions)
    (patterns : vocabulary.patterns = declaration.patterns) {form : Ebnf.Form}
    {nodes : List Node} (builds : Ebnf.Builds declaration form nodes) :
    Ebnf.Reads (table.Child vocabulary) form nodes := by
  induction builds with
  | token found kind =>
      refine .token (.token ?_ kind)
      rw [Vocabulary.find?, patterns]
      exact found
  | rule member chosen _ ih =>
      obtain ⟨rule, found, isDeclared, name, rows⟩ := tableStands _ member
      obtain ⟨alternative, inRule, reads⟩ := (rows.reads_iff tableStands).mp ⟨_, chosen, ih⟩
      rw [← name]
      exact .rule (.declared found isDeclared inRule (RuleTable.builds_of_reads reads))
  | group chosen _ ih => exact .group chosen ih
  | noCopy element => exact .noCopy element
  | oneMore _ _ copyIH moreIH => exact .oneMore copyIH moreIH
  | nothing => exact .nothing
  | element admitted _ _ copiesIH moreIH => exact .element admitted copiesIH moreIH

/-- Trees of declarations are trees of tables. -/
theorem builds_of_declared (tableStands : TableStands table declaration.productions)
    (patterns : vocabulary.patterns = declaration.patterns) {form : Ebnf.Form}
    {nodes : List Node} (builds : Ebnf.Builds declaration form nodes) :
    Transfers table vocabulary declaration.productions nodes form := by
  have reads := readsOn_of_reads tableStands (reads_of_declared tableStands patterns builds)
  cases form with
  | unit _ => exact fun symbol stands => RuleTable.builds_of_reads (reads symbol stands)
  | copies _ _ => exact fun symbol stands => RuleTable.builds_of_reads (reads symbol stands)
  | row _ => exact fun alternative row => RuleTable.builds_of_reads (reads alternative row)

/-- The children that a table derives are derived by the declaration, where they stand for
tokens and declared productions. -/
theorem reads_of_table (tableStands : TableStands table declaration.productions)
    (patterns : vocabulary.patterns = declaration.patterns) {form : Form}
    {nodes : List Node} (builds : table.Builds vocabulary form nodes) :
    table.Reads (fun symbol node => ∀ declared, Plain declaration.productions declared symbol →
      declaration.Child symbol node) form nodes := by
  induction builds with
  | token found kind =>
      rw [Vocabulary.find?, patterns] at found
      exact .token fun _ _ _ => .token found kind
  | declared found isDeclared chosen _ ih =>
      refine .declared found isDeclared fun declared plain occurs => ?_
      cases plain with
      | rule known =>
          obtain ⟨production, member, rfl⟩ := List.mem_map.mp known
          obtain ⟨other, lookup, _, name, rows⟩ := tableStands _ member
          obtain rfl := Option.some.inj (lookup.symm.trans found)
          obtain ⟨elements, inDeclared, row⟩ := rows.exists_declared chosen
          rw [name]
          exact .rule member inDeclared (Ebnf.builds_of_reads
            (readsBack_of_reads tableStands (fun declared _ plain _ fits => fits declared plain) ih elements row))
  | auxiliary found isAuxiliary chosen _ ih => exact .auxiliary found isAuxiliary chosen ih
  | noCopy symbol => exact .noCopy symbol
  | oneMore _ _ copyIH moreIH => exact .oneMore copyIH moreIH
  | nothing => exact .nothing
  | element admitted _ _ copiesIH moreIH => exact .element admitted copiesIH moreIH

/-- Trees of tables are trees of declarations. -/
theorem declared_of_builds (tableStands : TableStands table declaration.productions)
    (patterns : vocabulary.patterns = declaration.patterns) {form : Form}
    {nodes : List Node} (builds : table.Builds vocabulary form nodes) :
    Reflects table declaration nodes form := by
  have reads := readsBack_of_reads tableStands (fun declared _ plain _ fits => fits declared plain)
    (reads_of_table tableStands patterns builds)
  cases form with
  | symbol _ => exact fun declared stands => Ebnf.builds_of_reads (reads declared stands)
  | copies _ _ => exact fun declared stands => Ebnf.builds_of_reads (reads declared stands)
  | row _ => exact fun declared row => Ebnf.builds_of_reads (reads declared row)

end

end Flatten

end StrongLL
