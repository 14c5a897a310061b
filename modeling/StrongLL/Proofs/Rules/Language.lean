import Mathlib.Data.List.Nodup
import StrongLL.Rules.Table

/-!
# The language of a rule table

What the productions of a table derive, as sequences of token numbers. One
relation covers the pieces that productions are made of: symbols, copies of a
symbol in a row, and elements in a row. A table is well formed if its numbers
are distinct, all that it refers to is there, and all bounds can be met.
-/

namespace StrongLL

/-- A piece of a production. -/
inductive Form where
  | symbol (symbol : Symbol)
  /-- Copies of a symbol in a row. -/
  | copies (symbol : Symbol) (count : Nat)
  /-- Elements in a row. -/
  | row (elements : Alternative)

/-- A piece of a production names a token. -/
def Form.Names (token : TokenId) : Form → Prop
  | .symbol target => target = .token token
  | .copies target _ => target = .token token
  | .row elements => ∃ element ∈ elements, element.symbol = .token token

namespace RuleTable

/-- The sequences of tokens that a piece of a production derives. -/
inductive Derives (table : RuleTable) : Form → List TokenId → Prop where
  | token (id : TokenId) : Derives table (.symbol (.token id)) [id]
  | rule {id : RuleId} {alternative : Alternative} {word : List TokenId}
      (chosen : alternative ∈ table.alternatives id)
      (inner : Derives table (.row alternative) word) :
      Derives table (.symbol (.rule id)) word
  | noCopy (symbol : Symbol) : Derives table (.copies symbol 0) []
  | oneMore {symbol : Symbol} {count : Nat} {first others : List TokenId}
      (copy : Derives table (.symbol symbol) first)
      (more : Derives table (.copies symbol count) others) :
      Derives table (.copies symbol (count + 1)) (first ++ others)
  | nothing : Derives table (.row []) []
  | element {element : Element} {rest : Alternative} {count : Nat}
      {first others : List TokenId}
      (admitted : element.occurs.Admits count)
      (copies : Derives table (.copies element.symbol count) first)
      (more : Derives table (.row rest) others) :
      Derives table (.row (element :: rest)) (first ++ others)

/-- What callers promise of a table: distinct numbers, references that resolve,
and bounds that can be met. -/
structure WellFormed (table : RuleTable) : Prop where
  distinct : (table.map (·.id)).Nodup
  resolved : ∀ rule ∈ table, ∀ alternative ∈ rule.alternatives, ∀ element ∈ alternative,
    ∀ id, element.symbol = .rule id → id ∈ table.map (·.id)
  bounded : ∀ rule ∈ table, ∀ alternative ∈ rule.alternatives, ∀ element ∈ alternative,
    element.occurs.isValid = true

/-- Every production derives some sequence of tokens. -/
def Productive (table : RuleTable) : Prop :=
  ∀ rule ∈ table, ∃ word, table.Derives (.symbol (.rule rule.id)) word

variable {table : RuleTable}

/-! ## Looking up productions -/

theorem mem_of_rule? {id : RuleId} {rule : Rule} (found : table.rule? id = some rule) :
    rule ∈ table ∧ rule.id = id := by
  constructor
  · exact List.mem_of_find?_eq_some found
  · simpa using List.find?_some found

theorem exists_rule_of_mem_alternatives {id : RuleId} {alternative : Alternative}
    (member : alternative ∈ table.alternatives id) :
    ∃ rule, table.rule? id = some rule ∧ alternative ∈ rule.alternatives := by
  unfold alternatives at member
  cases found : table.rule? id with
  | none => simp [found] at member
  | some rule => exact ⟨rule, rfl, by simpa [found] using member⟩

theorem mem_flatMap_alternatives {id : RuleId} {alternative : Alternative}
    (member : alternative ∈ table.alternatives id) :
    alternative ∈ table.flatMap (·.alternatives) := by
  obtain ⟨rule, found, inRule⟩ := exists_rule_of_mem_alternatives member
  exact List.mem_flatMap.mpr ⟨rule, (mem_of_rule? found).1, inRule⟩

theorem alternatives_of_rule? {id : RuleId} {rule : Rule}
    (found : table.rule? id = some rule) : table.alternatives id = rule.alternatives := by
  simp [alternatives, found]

/-- With distinct numbers a production is found under its own. -/
theorem rule?_of_mem (distinct : (table.map (·.id)).Nodup) {rule : Rule}
    (member : rule ∈ table) : table.rule? rule.id = some rule := by
  induction table with
  | nil => simp at member
  | cons first rest ih =>
      obtain ⟨fresh, restDistinct⟩ := List.nodup_cons.mp distinct
      rcases List.mem_cons.mp member with rfl | member
      · simp [rule?]
      · have differs : first.id ≠ rule.id := by
          intro equal
          have inRest : rule.id ∈ rest.map (·.id) := List.mem_map_of_mem member
          exact fresh (by simpa [equal] using inRest)
        simpa [rule?, differs] using ih restDistinct member

/-- An alternative of a well-formed table has elements that resolve and can be
met. -/
theorem WellFormed.of_mem_alternatives (wellFormed : table.WellFormed) {id : RuleId}
    {alternative : Alternative} (member : alternative ∈ table.alternatives id)
    {element : Element} (inside : element ∈ alternative) :
    element.occurs.isValid = true ∧
      ∀ target, element.symbol = .rule target → target ∈ table.map (·.id) := by
  obtain ⟨rule, found, chosen⟩ := exists_rule_of_mem_alternatives member
  have inTable := (mem_of_rule? found).1
  exact ⟨wellFormed.bounded rule inTable alternative chosen element inside,
    wellFormed.resolved rule inTable alternative chosen element inside⟩

/-! ## The tokens of a table -/

/-- A token that is named somewhere in the productions. -/
def Names (table : RuleTable) (token : TokenId) : Prop :=
  ∃ id, ∃ alternative ∈ table.alternatives id, ∃ element ∈ alternative,
    element.symbol = .token token

/-- What is derived consists of tokens that are named by the piece or in the productions. -/
theorem Derives.names {form : Form} {word : List TokenId} (derived : table.Derives form word) :
    ∀ token ∈ word, form.Names token ∨ table.Names token := by
  induction derived with
  | token id =>
      intro token member
      obtain rfl := List.mem_singleton.mp member
      exact .inl rfl
  | @rule id alternative _ chosen _ ih =>
      intro token member
      right
      cases ih token member with
      | inl named => exact ⟨id, alternative, chosen, named⟩
      | inr named => exact named
  | noCopy symbol => simp
  | oneMore _ _ copy more =>
      intro token member
      cases List.mem_append.mp member with
      | inl first => exact copy token first
      | inr later => exact more token later
  | nothing => simp
  | @element element rest _ _ _ _ _ _ copies more =>
      intro token member
      cases List.mem_append.mp member with
      | inl first => exact (copies token first).imp_left fun named => ⟨element, by simp, named⟩
      | inr later =>
          apply (more token later).imp_left
          rintro ⟨other, inRest, named⟩
          exact ⟨other, List.mem_cons_of_mem _ inRest, named⟩

/-- What an alternative of the table derives consists of tokens that the table names. -/
theorem Derives.names_of_mem {id : RuleId} {alternative part : Alternative}
    (chosen : alternative ∈ table.alternatives id) (sub : part ⊆ alternative)
    {word : List TokenId} (derived : table.Derives (.row part) word) :
    ∀ token ∈ word, table.Names token := by
  intro token member
  cases derived.names token member with
  | inl named =>
      obtain ⟨element, inPart, symbol⟩ := named
      exact ⟨id, alternative, chosen, element, sub inPart, symbol⟩
  | inr named => exact named

/-- So do copies of a symbol of the table. -/
theorem Derives.names_copies {id : RuleId} {alternative : Alternative} {element : Element}
    (chosen : alternative ∈ table.alternatives id) (inside : element ∈ alternative) {count : Nat}
    {word : List TokenId} (derived : table.Derives (.copies element.symbol count) word) :
    ∀ token ∈ word, table.Names token := by
  intro token member
  cases derived.names token member with
  | inl named => exact ⟨id, alternative, chosen, element, inside, named⟩
  | inr named => exact named

/-! ## Derivations of rows and copies -/

theorem derives_copies_append {symbol : Symbol} {m n : Nat} {first others : List TokenId}
    (left : table.Derives (.copies symbol m) first)
    (right : table.Derives (.copies symbol n) others) :
    table.Derives (.copies symbol (m + n)) (first ++ others) := by
  induction m generalizing first with
  | zero =>
      cases left
      simpa using right
  | succ m ih =>
      cases left with
      | @oneMore _ _ copy more hCopy hMore =>
          rw [show m + 1 + n = m + n + 1 by omega, List.append_assoc]
          exact .oneMore hCopy (ih hMore)

theorem derives_one_copy {symbol : Symbol} {word : List TokenId}
    (copy : table.Derives (.symbol symbol) word) :
    table.Derives (.copies symbol 1) word := by
  simpa using Derives.oneMore copy (.noCopy symbol)

/-- An element with bounds of once derives what its symbol does. -/
theorem derives_row_once {symbol : Symbol} {rest : Alternative} {first others : List TokenId}
    (copy : table.Derives (.symbol symbol) first) (more : table.Derives (.row rest) others) :
    table.Derives (.row ({ symbol } :: rest)) (first ++ others) :=
  .element ⟨Nat.le_refl 1, by simp [Occurs.once]⟩ (derives_one_copy copy) more

theorem derives_row_skip {element : Element} {rest : Alternative} {word : List TokenId}
    (optional : element.occurs.min = 0) (more : table.Derives (.row rest) word) :
    table.Derives (.row (element :: rest)) word :=
  .element ⟨Nat.le_of_eq optional, by simp⟩ (.noCopy _) more

theorem derives_row_append {front back : Alternative} {first others : List TokenId}
    (left : table.Derives (.row front) first) (right : table.Derives (.row back) others) :
    table.Derives (.row (front ++ back)) (first ++ others) := by
  induction front generalizing first with
  | nil =>
      cases left
      simpa using right
  | cons element rest ih =>
      cases left with
      | element admitted copies more =>
          rw [List.cons_append, List.append_assoc]
          exact .element admitted copies (ih more)

/-- If a symbol derives something then so do any number of copies of it. -/
theorem exists_derives_copies {symbol : Symbol}
    (productive : ∃ word, table.Derives (.symbol symbol) word) (count : Nat) :
    ∃ word, table.Derives (.copies symbol count) word := by
  obtain ⟨copy, derived⟩ := productive
  induction count with
  | zero => exact ⟨[], .noCopy symbol⟩
  | succ count ih =>
      obtain ⟨others, more⟩ := ih
      exact ⟨copy ++ others, .oneMore derived more⟩

end RuleTable

namespace Occurs

theorem admits_iff {occurs : Occurs} {count : Nat} :
    occurs.Admits count ↔ occurs.min ≤ count ∧ ∀ max, occurs.max = some max → count ≤ max := by
  simp [Admits]

/-- Bounds that can be met admit the lower one. -/
theorem admits_min {occurs : Occurs} (valid : occurs.isValid = true) :
    occurs.Admits occurs.min := by
  refine ⟨Nat.le_refl _, fun max bound => ?_⟩
  have bound : occurs.max = some max := bound
  simp [isValid, bound] at valid
  exact valid.2

/-- Bounds that can be met admit a first copy and as many as are needed then. -/
theorem admits_first {occurs : Occurs} (valid : occurs.isValid = true) :
    occurs.Admits (0 + 1 + (occurs.min - 1)) := by
  refine ⟨by omega, fun max bound => ?_⟩
  have bound : occurs.max = some max := bound
  simp [isValid, bound] at valid
  omega

/-- A number of occurrences that is within the bounds can still grow exactly if
the upper bound is not reached. -/
theorem isFull_eq_false_iff {occurs : Occurs} {count : Nat} :
    occurs.isFull count = false ↔ ∀ max, occurs.max = some max → count < max := by
  unfold isFull
  cases occurs.max with
  | none => simp
  | some max => simp

/-- Of an element whose bounds can be met a first copy can be there. -/
theorem isFull_zero {occurs : Occurs} (valid : occurs.isValid = true) :
    occurs.isFull 0 = false := by
  apply isFull_eq_false_iff.mpr
  intro max bound
  simp [isValid, bound] at valid
  omega

end Occurs

end StrongLL
