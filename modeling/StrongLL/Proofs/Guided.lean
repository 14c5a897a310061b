import StrongLL.Proofs.Grammar
import StrongLL.Proofs.Rules.Reading

/-!
# Guided derivations

A derivation is guided if at each decision it takes the branch that looking ahead picks.
Where the look-ahead of a decision covers all that can be ahead of its branches, every
derivation is guided.
-/

namespace StrongLL

open RuleTable

/-! ## Decisions with tokens ahead -/

/-- The terminals that a decision looks at, with some tokens ahead. -/
def Decision.look (decision : Decision) (input : List Token) : Terminals :=
  firstTerminals decision.depth (input.map (·.id))

/-- The alternative that is decided for, with some tokens ahead. -/
def ResolvedRule.choice? (rule : ResolvedRule) (input : List Token) : Option Nat :=
  match rule.decision with
  | none => some 0
  | some decision => decision.select (decision.look input)

/-- Whether another copy of an element is taken, with some tokens ahead. -/
def ResolvedElement.wants (element : ResolvedElement) (count : Nat) (input : List Token) :
    Bool :=
  if element.occurs.isFull count then false
  else if count < element.occurs.min then true
  else match element.decision with
    | none => false
    | some decision => decision.select (decision.look input) == some 0

/-- The branch that is taken when looking ahead picks one or none: at an element, what does
not say to take another copy says to go on behind it. -/
def Site.taken : Site → (picked : Option Nat) → Option Nat
  | .choice _, picked => picked
  | .loop .., picked => some (if picked = some 0 then 0 else 1)

/-- What is left to parse: a symbol, an element of which some copies are there, or elements
in a row. -/
inductive Task where
  | symbol (symbol : Symbol)
  | copies (element : ResolvedElement) (count : Nat)
  | row (elements : List ResolvedElement)

namespace Grammar

/-- The productions of a grammar without their decisions. -/
def table (grammar : Grammar) : RuleTable := grammar.rules.map (·.toRule)

/-- The nodes that are derived for a task, with tokens behind them, if each decision is
made by what is ahead. -/
inductive Guided (grammar : Grammar) : Task → List Node → (behind : List Token) → Prop where
  | token {id : TokenId} {token : Token} {pattern : Pattern} {behind : List Token}
      (found : grammar.vocabulary.find? id = some pattern) (kind : token.id = id) :
      Guided grammar (.symbol (.token id)) [.leaf token pattern.name] behind
  | declared {id : RuleId} {rule : ResolvedRule} {index : Nat}
      {elements : List ResolvedElement} {children : List Node} {behind : List Token}
      (found : grammar.rule? id = some rule) (isDeclared : rule.isAuxiliary = false)
      (chosen : rule.choice? (Node.leavesOf children ++ behind) = some index)
      (present : rule.alternatives[index]? = some elements)
      (inner : Guided grammar (.row elements) children behind) :
      Guided grammar (.symbol (.rule id)) [.branch id rule.name children] behind
  | auxiliary {id : RuleId} {rule : ResolvedRule} {index : Nat}
      {elements : List ResolvedElement} {nodes : List Node} {behind : List Token}
      (found : grammar.rule? id = some rule) (isAuxiliary : rule.isAuxiliary = true)
      (chosen : rule.choice? (Node.leavesOf nodes ++ behind) = some index)
      (present : rule.alternatives[index]? = some elements)
      (inner : Guided grammar (.row elements) nodes behind) :
      Guided grammar (.symbol (.rule id)) nodes behind
  | enough {element : ResolvedElement} {count : Nat} {behind : List Token}
      (stops : element.wants count behind = false) :
      Guided grammar (.copies element count) [] behind
  | oneMore {element : ResolvedElement} {count : Nat} {first others : List Node}
      {behind : List Token}
      (goesOn : element.wants count (Node.leavesOf (first ++ others) ++ behind) = true)
      (copy : Guided grammar (.symbol element.symbol) first (Node.leavesOf others ++ behind))
      (more : Guided grammar (.copies element (count + 1)) others behind) :
      Guided grammar (.copies element count) (first ++ others) behind
  | nothing {behind : List Token} : Guided grammar (.row []) [] behind
  | element {element : ResolvedElement} {rest : List ResolvedElement}
      {first others : List Node} {behind : List Token}
      (copies : Guided grammar (.copies element 0) first (Node.leavesOf others ++ behind))
      (more : Guided grammar (.row rest) others behind) :
      Guided grammar (.row (element :: rest)) (first ++ others) behind

/-- A tree of the start production whose derivation is guided. -/
def IsGuided (grammar : Grammar) (node : Node) : Prop :=
  grammar.Guided (.symbol (.rule grammar.start)) [node] []

variable {declaration : Ebnf.Declaration} {grammar : Grammar}

/-! ## The productions of a grammar that is built -/

theorem rule?_toRule {id : RuleId} :
    grammar.table.rule? id = (grammar.rule? id).map (·.toRule) := by
  simp only [table, RuleTable.rule?, rule?, List.find?_map]
  rfl

theorem mem_of_rule? {id : RuleId} {rule : ResolvedRule} (found : grammar.rule? id = some rule) :
    rule ∈ grammar.rules ∧ rule.id = id :=
  ⟨List.mem_of_find?_eq_some found, by simpa using List.find?_some found⟩

theorem alternatives_table {id : RuleId} {rule : ResolvedRule}
    (found : grammar.rule? id = some rule) : grammar.table.alternatives id =
      rule.alternatives.map fun elements => elements.map (·.toElement) := by
  rw [alternatives_of_rule? (rule?_toRule.trans (congrArg _ found))]
  rfl

theorem use_table {id : RuleId} {rule : ResolvedRule} (found : grammar.rule? id = some rule)
    {before rest : List ResolvedElement} {element : ResolvedElement}
    (use : before ++ element :: rest ∈ rule.alternatives) :
    before.map (·.toElement) ++ element.toElement :: rest.map (·.toElement) ∈
      grammar.table.alternatives id := by
  rw [alternatives_table found, ← List.map_cons, ← List.map_append]
  exact List.mem_map_of_mem use

namespace BuiltFrom

theorem table_eq (from' : BuiltFrom declaration grammar) :
    grammar.table = Flatten.table declaration.productions :=
  (resolveRules_ok from'.resolved).1

theorem mem_table (from' : BuiltFrom declaration grammar) {rule : ResolvedRule}
    (member : rule ∈ grammar.rules) : rule.toRule ∈ Flatten.table declaration.productions := by
  rw [← from'.table_eq]
  exact List.mem_map_of_mem member

theorem decided (from' : BuiltFrom declaration grammar) {rule : ResolvedRule}
    (member : rule ∈ grammar.rules) :
    RuleDecided (.prepare (Flatten.table declaration.productions) grammar.start)
      declaration.maxLookAhead rule :=
  (resolveRules_ok from'.resolved).2 rule member

/-- There is a decision at each choice. -/
theorem single_of_undecided (from' : BuiltFrom declaration grammar) {rule : ResolvedRule}
    (member : rule ∈ grammar.rules) (undecided : rule.decision = none) :
    rule.alternatives.length ≤ 1 := by
  rcases (from'.decided member).choice with ⟨single, _⟩ | ⟨_, decision, made, _⟩
  · simpa using single
  · rw [undecided] at made
    cases made

/-- There is a decision at each element whose bounds leave a choice. -/
theorem fixed_of_undecided (from' : BuiltFrom declaration grammar) {rule : ResolvedRule}
    (member : rule ∈ grammar.rules) {before rest : List ResolvedElement}
    {element : ResolvedElement} (use : before ++ element :: rest ∈ rule.alternatives)
    (undecided : element.decision = none) : element.occurs.max = some element.occurs.min := by
  rcases (from'.decided member).elements before element rest use with
    ⟨fixed, _⟩ | ⟨_, decision, made, _⟩
  · simpa [Occurs.isVariable] using fixed
  · rw [undecided] at made
    cases made

end BuiltFrom

/-! ## Decisions that cover what can be ahead -/

/-- Whatever can be ahead of a branch in a derivation from the start production, behind
any copies, makes a decision take this branch. -/
def Covers (grammar : Grammar) (site : Site) (decision : Decision) : Prop :=
  ∀ branch sequence,
    site.Language grammar.table (· = grammar.start) anyCopy decision.depth branch sequence →
      site.taken (decision.select sequence) = some branch

section

variable (from' : BuiltFrom declaration grammar) {site : Site} {decision : Decision}
  (decidesAt : DecidesAt grammar.rules site decision)

include from' decidesAt

/-- What is ahead of a branch behind first copies makes a decision take it. -/
theorem taken_of_first {branch : Nat} {sequence : Terminals}
    (first : site.Language grammar.table (grammar.table.IsRoot grammar.start) firstCopy
      decision.depth branch sequence) :
    site.taken (decision.select sequence) = some branch := by
  obtain ⟨decides, _⟩ := from'.decides decidesAt
  rw [← from'.table_eq] at decides
  rw [decides.select (fun _ _ ahead => ahead.lt_length) first]
  obtain ⟨_, ⟨_, _, inner, _⟩, _⟩ := first
  cases inner <;> rfl

/-- A decision has to be right only on what is ahead behind later copies. -/
theorem covers_iff : grammar.Covers site decision ↔ ∀ branch sequence,
    site.Language grammar.table (· = grammar.start) anyCopy decision.depth branch sequence →
      ¬ site.Language grammar.table (grammar.table.IsRoot grammar.start) firstCopy
        decision.depth branch sequence →
      site.taken (decision.select sequence) = some branch := by
  constructor
  · intro covers branch sequence language _
    exact covers branch sequence language
  · intro later branch sequence language
    by_cases first : site.Language grammar.table (grammar.table.IsRoot grammar.start) firstCopy
        decision.depth branch sequence
    · exact taken_of_first from' decidesAt first
    · exact later branch sequence language first

/-- A decision in a production that stands below no element that needs several copies
covers what can be ahead. -/
theorem covers_of_free (free : ¬ grammar.table.BelowCount site.owner) :
    grammar.Covers site decision := by
  intro branch sequence language
  apply taken_of_first from' decidesAt
  exact (language.mono (fun _ same => .inl same) fun _ copy => copy).first free

end

/-! ## Derivations are guided where decisions cover -/

section

variable (from' : BuiltFrom declaration grammar)
  (covers : ∀ site decision, DecidesAt grammar.rules site decision → grammar.Covers site decision)

include from' covers

/-- The alternative that is derived is decided for. -/
theorem choice?_eq {id : RuleId} {rule : ResolvedRule} (found : grammar.rule? id = some rule)
    {index : Nat} {elements : List ResolvedElement}
    (present : rule.alternatives[index]? = some elements) {word : List TokenId}
    (derived : grammar.table.Derives (.row (elements.map (·.toElement))) word)
    {outer : List TokenId}
    (follows : grammar.table.Follows (· = grammar.start) anyCopy id outer) {input : List Token}
    (ahead : input.map (·.id) = word ++ outer) : rule.choice? input = some index := by
  obtain ⟨member, rfl⟩ := mem_of_rule? found
  unfold ResolvedRule.choice?
  cases made : rule.decision with
  | none =>
      have single := from'.single_of_undecided member made
      have inside := (List.getElem?_eq_some_iff.mp present).1
      obtain rfl : index = 0 := by omega
      rfl
  | some decision =>
      have chosen : rule.toRule.alternatives[index]? =
          some (elements.map (·.toElement)) := by
        simp [ResolvedRule.toRule, present]
      have taken := covers _ decision (.choice member made) index _
        ⟨_, ⟨_, _, .choice chosen derived, follows, rfl⟩, rfl⟩
      rw [← ahead] at taken
      exact taken

/-- An alternative that is derived in a production is the one that is decided for. -/
theorem exists_choice {id : RuleId} {flat : Rule} {alternative : Alternative}
    (found : grammar.table.rule? id = some flat) (chosen : alternative ∈ flat.alternatives)
    {nodes : List Node} (inner : grammar.table.Builds grammar.vocabulary (.row alternative) nodes)
    {behind : List Token}
    (follows : grammar.table.Follows (· = grammar.start) anyCopy id (behind.map (·.id))) :
    ∃ rule index elements, grammar.rule? id = some rule ∧ rule.toRule = flat ∧
      rule.choice? (Node.leavesOf nodes ++ behind) = some index ∧
        rule.alternatives[index]? = some elements ∧
          elements.map (·.toElement) = alternative := by
  obtain ⟨rule, lookup, rfl⟩ := Option.map_eq_some_iff.mp (rule?_toRule.symm.trans found)
  obtain ⟨elements, member, rfl⟩ := List.mem_map.mp chosen
  obtain ⟨index, present⟩ := List.getElem?_of_mem member
  have choice := choice?_eq from' covers lookup present inner.derives follows List.map_append
  exact ⟨rule, index, elements, lookup, rfl, choice, present, rfl⟩

section

variable {id : RuleId} {rule : ResolvedRule} (found : grammar.rule? id = some rule)
  {before rest : List ResolvedElement} {element : ResolvedElement}
  (use : before ++ element :: rest ∈ rule.alternatives) {count : Nat}
  {start past others outer : List TokenId}
  (front : grammar.table.Derives (.row (before.map (·.toElement))) start)
  (previous : grammar.table.Derives (.copies element.symbol count) past)
  (back : grammar.table.Derives (.row (rest.map (·.toElement))) others)
  (follows : grammar.table.Follows (· = grammar.start) anyCopy id outer)

include found use front previous back follows

/-- Another copy that is derived is wanted. -/
theorem wants_eq_true {later : Nat} (admitted : element.occurs.Admits (count + (later + 1)))
    {first : List TokenId}
    (more : grammar.table.Derives (.copies element.symbol (later + 1)) first)
    {input : List Token} (ahead : input.map (·.id) = first ++ (others ++ outer)) :
    element.wants count input = true := by
  obtain ⟨member, rfl⟩ := mem_of_rule? found
  have bounds := Occurs.admits_iff.mp admitted
  have notFull : element.occurs.isFull count = false := by
    apply Occurs.isFull_eq_false_iff.mpr
    intro max bound
    have atMost := bounds.2 max bound
    omega
  unfold ResolvedElement.wants
  rw [notFull, if_neg Bool.false_ne_true]
  split
  · rfl
  · rename_i reached
    have reached : element.occurs.min ≤ count := Nat.le_of_not_lt reached
    cases made : element.decision with
    | none =>
        have fixed := from'.fixed_of_undecided member use made
        have atMost := bounds.2 _ fixed
        omega
    | some decision =>
        have taken := covers _ decision (.loop member use made) 0 _
          ⟨_, ⟨_, _, .again front previous reached admitted more back, follows, rfl⟩, rfl⟩
        rw [List.append_assoc, ← ahead] at taken
        simp only [Site.taken, Option.some.injEq, ite_eq_left_iff, one_ne_zero, imp_false,
          not_not] at taken
        exact beq_iff_eq.mpr taken

omit from' in
/-- Where no copy is derived any more none is wanted. -/
theorem wants_eq_false (admitted : element.occurs.Admits count) {input : List Token}
    (ahead : input.map (·.id) = others ++ outer) : element.wants count input = false := by
  obtain ⟨member, rfl⟩ := mem_of_rule? found
  have reached : element.occurs.min ≤ count := admitted.1
  unfold ResolvedElement.wants
  split
  · rfl
  · rename_i notFull
    rw [if_neg (Nat.not_lt.mpr reached)]
    cases made : element.decision with
    | none => rfl
    | some decision =>
        have taken := covers _ decision (.loop member use made) 1 _
          ⟨_, ⟨_, _, .done front previous reached (Bool.eq_false_iff.mpr notFull) back, follows,
            rfl⟩, rfl⟩
        rw [← ahead] at taken
        simp only [Site.taken, Option.some.injEq, ite_eq_right_iff, zero_ne_one, imp_false]
          at taken
        exact beq_eq_false_iff_ne.mpr taken

end

/-- In every place that a derivation from the start production comes to, a derivation of
the nodes is guided. -/
def Leads (grammar : Grammar) (nodes : List Node) : Form → Prop
  | .symbol symbol => ∀ behind : List Token, (∀ id, symbol = .rule id →
      grammar.table.Follows (· = grammar.start) anyCopy id (behind.map (·.id))) →
        grammar.Guided (.symbol symbol) nodes behind
  | .copies symbol later => ∀ id rule before element rest, grammar.rule? id = some rule →
      before ++ element :: rest ∈ rule.alternatives → element.symbol = symbol →
        ∀ count, element.occurs.Admits (count + later) → ∀ start past others outer,
          grammar.table.Derives (.row (before.map (·.toElement))) start →
          grammar.table.Derives (.copies symbol count) past →
          grammar.table.Derives (.row (rest.map (·.toElement))) others →
          grammar.table.Follows (· = grammar.start) anyCopy id outer →
            ∀ behind : List Token, behind.map (·.id) = others ++ outer →
              grammar.Guided (.copies element count) nodes behind
  | .row alternative => ∀ id rule before elements, grammar.rule? id = some rule →
      before ++ elements ∈ rule.alternatives → elements.map (·.toElement) = alternative →
        ∀ start, grammar.table.Derives (.row (before.map (·.toElement))) start →
          ∀ behind : List Token,
            grammar.table.Follows (· = grammar.start) anyCopy id (behind.map (·.id)) →
              grammar.Guided (.row elements) nodes behind

theorem leads_of_builds {form : Form} {nodes : List Node}
    (builds : grammar.table.Builds grammar.vocabulary form nodes) :
    grammar.Leads nodes form := by
  induction builds with
  | token found kind =>
      intro behind _
      exact .token found kind
  | @declared id flat alternative children found isDeclared chosen inner ih =>
      intro behind follows
      obtain ⟨rule, index, elements, lookup, rfl, choice, present, rfl⟩ :=
        exists_choice from' covers found chosen inner (follows id rfl)
      have member := List.mem_of_getElem? present
      apply Guided.declared lookup isDeclared choice present
      exact ih id rule [] elements lookup member rfl [] .nothing behind (follows id rfl)
  | @auxiliary id flat alternative nodes found isAuxiliary chosen inner ih =>
      intro behind follows
      obtain ⟨rule, index, elements, lookup, rfl, choice, present, rfl⟩ :=
        exists_choice from' covers found chosen inner (follows id rfl)
      have member := List.mem_of_getElem? present
      apply Guided.auxiliary lookup isAuxiliary choice present
      exact ih id rule [] elements lookup member rfl [] .nothing behind (follows id rfl)
  | noCopy symbol =>
      intro id rule before element rest lookup use same count admitted start past others outer
        front previous back follows behind ahead
      subst same
      exact .enough (wants_eq_false covers lookup use front previous back follows admitted ahead)
  | @oneMore symbol later first others copy more copyIH moreIH =>
      intro id rule before element rest lookup use same count admitted start past tail outer
        front previous back follows behind ahead
      subst same
      have wanted : element.wants count (Node.leavesOf (first ++ others) ++ behind) = true := by
        apply wants_eq_true from' covers lookup use front previous back follows admitted
          (.oneMore copy.derives more.derives)
        rw [leavesOf_append, List.map_append, List.map_append, ahead]
      have again : grammar.table.Derives (.copies element.symbol (count + 1))
          (past ++ (Node.leavesOf first).map (·.id)) :=
        derives_copies_append previous (derives_one_copy copy.derives)
      have next : element.occurs.Admits (count + 1 + later) := by
        rwa [Nat.add_assoc, Nat.add_comm 1]
      refine .oneMore wanted (copyIH _ ?_) ?_
      · intro target symbol
        rw [List.map_append, ahead]
        exact .behind (use_table lookup use) symbol trivial next front previous more.derives back
          follows
      · exact moreIH id rule before element rest lookup use rfl (count + 1) next start _ tail outer
          front again back follows behind ahead
  | nothing =>
      intro id rule before elements _ _ same start _ behind _
      obtain rfl := List.map_eq_nil_iff.mp same
      exact .nothing
  | @element flat rest count first others admitted copies more copiesIH moreIH =>
      intro id rule before elements lookup use same start front behind follows
      obtain ⟨element, back, rfl, rfl, rfl⟩ := List.map_eq_cons_iff.mp same
      refine .element ?_ ?_
      · exact copiesIH id rule before element back lookup use rfl 0 (by rwa [Nat.zero_add]) start
          [] _ _ front (.noCopy _) more.derives follows _ List.map_append
      · have passed : grammar.table.Derives (.row ((before ++ [element]).map (·.toElement)))
            (start ++ (Node.leavesOf first).map (·.id)) := by
          rw [List.map_append]
          refine derives_row_append front ?_
          simpa using RuleTable.Derives.element admitted copies.derives .nothing
        exact moreIH id rule (before ++ [element]) back lookup (by simpa using use) rfl _ passed
          behind follows

end

/-- Where all decisions cover what can be ahead, all trees are guided. -/
theorem isGuided_of_isTree (from' : BuiltFrom declaration grammar)
    (covers : ∀ site decision, DecidesAt grammar.rules site decision →
      grammar.Covers site decision) {node : Node}
    (tree : Ebnf.IsTree declaration grammar.start node) : grammar.IsGuided node := by
  have stands := Flatten.tableStands from'.sound
  have transfers := Flatten.builds_of_declared stands from'.patterns tree
  have builds := transfers (.rule grammar.start) (.plain (.rule from'.start))
  rw [← from'.table_eq] at builds
  exact leads_of_builds from' covers builds [] fun id same =>
    .finish (Symbol.rule.inj same).symm

end Grammar

end StrongLL
