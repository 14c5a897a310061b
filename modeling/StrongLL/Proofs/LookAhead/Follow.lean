import Mathlib.Logic.Relation
import StrongLL.Proofs.Rules.Closure
import StrongLL.LookAhead.Decision

/-!
# What can be ahead of a decision

The strong LL look-ahead of a branch is described here by derivations alone: the
branch derives the rest of its production, and behind it lies what may follow
the production in a derivation from a root. A production follows from a use of it
in another one, behind any copy of the element that uses it; `copy` tells which
copies count, so that looking behind all of them can be compared with looking
behind the first one only.
-/

namespace StrongLL

namespace RuleTable

variable {table : RuleTable}

/-- An alternative of `id` has an element for the production `target`. -/
def Refers (table : RuleTable) (id target : RuleId) : Prop :=
  ∃ alternative ∈ table.alternatives id, ∃ element ∈ alternative,
    element.symbol = .rule target

/-- Where derivations begin: the start production, and what cannot be reached
from it. -/
def IsRoot (table : RuleTable) (start id : RuleId) : Prop :=
  id = start ∨ ¬ Relation.ReflTransGen table.Refers start id

/-- The sequences of tokens that may stand behind a production in a derivation
from a root. The production may be used as any copy of an element of which
`copy` admits the number of copies before it. -/
inductive Follows (table : RuleTable) (root : RuleId → Prop) (copy : Nat → Prop) :
    RuleId → List TokenId → Prop where
  | finish {id : RuleId} (isRoot : root id) : Follows table root copy id []
  | behind {owner id : RuleId} {before rest : Alternative} {element : Element}
      {earlier later : Nat} {start past first others outer : List TokenId}
      (use : before ++ element :: rest ∈ table.alternatives owner)
      (refers : element.symbol = .rule id)
      (looked : copy earlier)
      (admitted : element.occurs.Admits (earlier + 1 + later))
      (front : table.Derives (.row before) start)
      (previous : table.Derives (.copies element.symbol earlier) past)
      (more : table.Derives (.copies element.symbol later) first)
      (back : table.Derives (.row rest) others)
      (follows : Follows table root copy owner outer) :
      Follows table root copy id (first ++ (others ++ outer))

/-- Every copy counts. -/
def anyCopy : Nat → Prop := fun _ => True

/-- Only the first copy counts. -/
def firstCopy : Nat → Prop := fun earlier => earlier = 0

theorem Follows.mono {root root' : RuleId → Prop} {copy copy' : Nat → Prop}
    (roots : ∀ id, root id → root' id) (copies : ∀ earlier, copy earlier → copy' earlier)
    {id : RuleId} {word : List TokenId} (follows : table.Follows root copy id word) :
    table.Follows root' copy' id word := by
  induction follows with
  | finish isRoot => exact .finish (roots _ isRoot)
  | behind use refers looked admitted front previous more back _ ih =>
      exact .behind use refers (copies _ looked) admitted front previous more back ih

/-- What may follow a production consists of tokens that the table names. -/
theorem Follows.names {root : RuleId → Prop} {copy : Nat → Prop} {id : RuleId}
    {word : List TokenId} (follows : table.Follows root copy id word) :
    ∀ token ∈ word, table.Names token := by
  induction follows with
  | finish _ => simp
  | @behind owner id before rest element earlier later start past first others outer
      use _ _ _ _ _ more back _ ih =>
      intro token member
      have copies := more.names_copies use (by simp) token
      have row := back.names_of_mem use (by simp) token
      rcases List.mem_append.mp member with inFirst | member
      · exact copies inFirst
      · cases List.mem_append.mp member with
        | inl inOthers => exact row inOthers
        | inr inOuter => exact ih token inOuter

/-! ## Productive tables -/

/-- Elements of a productive table derive something. -/
theorem Productive.exists_derives_row (productive : table.Productive) {elements : Alternative}
    (bounded : ∀ element ∈ elements, element.occurs.isValid = true)
    (resolved : ∀ element ∈ elements, ∀ id, element.symbol = .rule id →
      id ∈ table.map (·.id)) :
    ∃ word, table.Derives (.row elements) word := by
  refine exists_derives_of_isProductive (table.map (·.id)) ?_ bounded ?_
  · intro id inside
    obtain ⟨rule, inTable, rfl⟩ := List.mem_map.mp inside
    exact productive rule inTable
  · intro element member
    unfold Element.isProductive
    cases symbol : element.symbol with
    | token id => rfl
    | rule id =>
        have known := List.contains_iff_mem.mpr (resolved element member id symbol)
        simp only [known, Bool.or_true]

theorem Productive.exists_derives_symbol (productive : table.Productive) {symbol : Symbol}
    (resolved : ∀ id, symbol = .rule id → id ∈ table.map (·.id)) :
    ∃ word, table.Derives (.symbol symbol) word := by
  cases symbol with
  | token id => exact ⟨[id], .token id⟩
  | rule id =>
      obtain ⟨rule, inTable, rfl⟩ := List.mem_map.mp (resolved id rfl)
      exact productive rule inTable

/-- Part of an alternative of a well-formed productive table derives something. -/
theorem exists_derives_part (wellFormed : table.WellFormed) (productive : table.Productive)
    {id : RuleId} {alternative : Alternative} (member : alternative ∈ table.alternatives id)
    (part : Alternative) (sub : ∀ element ∈ part, element ∈ alternative) :
    ∃ word, table.Derives (.row part) word :=
  productive.exists_derives_row
    (fun _ inside => (wellFormed.of_mem_alternatives member (sub _ inside)).1)
    (fun _ inside => (wellFormed.of_mem_alternatives member (sub _ inside)).2)

/-- Something follows every production, behind first copies. -/
theorem exists_follows (wellFormed : table.WellFormed) (productive : table.Productive)
    (start id : RuleId) :
    ∃ word, table.Follows (table.IsRoot start) firstCopy id word := by
  by_cases reached : Relation.ReflTransGen table.Refers start id
  · induction reached with
    | refl => exact ⟨[], .finish (.inl rfl)⟩
    | @tail owner target _ refers ih =>
        obtain ⟨outer, follows⟩ := ih
        obtain ⟨alternative, chosen, element, inside, symbol⟩ := refers
        obtain ⟨before, rest, rfl⟩ := List.append_of_mem inside
        obtain ⟨front, frontDerived⟩ := exists_derives_part wellFormed productive
          chosen before (fun other member => by simp [member])
        obtain ⟨back, backDerived⟩ := exists_derives_part wellFormed productive
          chosen rest (fun other member => by simp [member])
        have facts := wellFormed.of_mem_alternatives chosen inside
        obtain ⟨more, moreDerived⟩ := exists_derives_copies
          (productive.exists_derives_symbol facts.2) (element.occurs.min - 1)
        refine ⟨_, .behind chosen symbol rfl ?_ frontDerived (.noCopy _) moreDerived
          backDerived follows⟩
        exact Occurs.admits_first facts.1
  · exact ⟨[], .finish (.inr reached)⟩

/-! ## Behind later copies -/

/-- A production stands below an element that needs several copies. -/
def BelowCount (table : RuleTable) (id : RuleId) : Prop :=
  ∃ owner, ∃ alternative ∈ table.alternatives owner, ∃ element ∈ alternative, ∃ target,
    2 ≤ element.occurs.min ∧ element.symbol = .rule target ∧
      Relation.ReflTransGen table.Refers target id

/-- Where no element needs several copies, a later copy has behind it what a first one
can have, too. -/
theorem Follows.first {root : RuleId → Prop} {id : RuleId} {word : List TokenId}
    (follows : table.Follows root anyCopy id word) (free : ¬ table.BelowCount id) :
    table.Follows root firstCopy id word := by
  induction follows with
  | finish isRoot => exact .finish isRoot
  | @behind owner id before rest element earlier later start past first others outer
      use refers _ admitted front _ more back _ ih =>
      have inside : element ∈ before ++ element :: rest := by simp
      have once : element.occurs.min ≤ 1 := by
        by_contra several
        exact free ⟨owner, _, use, element, inside, id, by omega, refers, .refl⟩
      have ownerFree : ¬ table.BelowCount owner := by
        rintro ⟨top, alternative, chosen, other, member, target, several, symbol, path⟩
        exact free ⟨top, alternative, chosen, other, member, target, several, symbol,
          path.tail ⟨_, use, element, inside, refers⟩⟩
      refine .behind use refers rfl ?_ front (.noCopy _) more back (ih ownerFree)
      refine Occurs.admits_iff.mpr ⟨by omega, fun max bound => ?_⟩
      have atMost := (Occurs.admits_iff.mp admitted).2 max bound
      omega

end RuleTable

open RuleTable

/-! ## Decisions and their branches -/

/-- A place where the parser decides: between the alternatives of a production, or
between one more copy of an element and going on behind it. -/
inductive Site where
  | choice (rule : Rule)
  | loop (owner : RuleId) (before : Alternative) (element : Element) (rest : Alternative)

namespace Site

/-- The production of a decision. -/
def owner : Site → RuleId
  | .choice rule => rule.id
  | .loop owner _ _ _ => owner

/-- The decision has to be made in a table. -/
def In (table : RuleTable) : Site → Prop
  | .choice rule => rule ∈ table ∧ 1 < rule.alternatives.length
  | .loop owner before element rest =>
      before ++ element :: rest ∈ table.alternatives owner ∧ element.occurs.isVariable = true

/-- What a branch derives up to the end of the production. The decision about one
more copy is made behind so many copies that the lower bound is reached and the
upper one is not. -/
inductive Inner (table : RuleTable) : Site → (branch : Nat) → List TokenId → Prop where
  | choice {rule : Rule} {branch : Nat} {alternative : Alternative} {word : List TokenId}
      (chosen : rule.alternatives[branch]? = some alternative)
      (derived : table.Derives (.row alternative) word) :
      Inner table (.choice rule) branch word
  | again {owner : RuleId} {before rest : Alternative} {element : Element}
      {count later : Nat} {start past first others : List TokenId}
      (front : table.Derives (.row before) start)
      (previous : table.Derives (.copies element.symbol count) past)
      (reached : element.occurs.min ≤ count)
      (admitted : element.occurs.Admits (count + (later + 1)))
      (more : table.Derives (.copies element.symbol (later + 1)) first)
      (back : table.Derives (.row rest) others) :
      Inner table (.loop owner before element rest) 0 (first ++ others)
  | done {owner : RuleId} {before rest : Alternative} {element : Element} {count : Nat}
      {start past others : List TokenId}
      (front : table.Derives (.row before) start)
      (previous : table.Derives (.copies element.symbol count) past)
      (reached : element.occurs.min ≤ count)
      (notFull : element.occurs.isFull count = false)
      (back : table.Derives (.row rest) others) :
      Inner table (.loop owner before element rest) 1 others

/-- What can be ahead of a branch: the rest of the production, then what may
follow it. -/
def Ahead (table : RuleTable) (root : RuleId → Prop) (copy : Nat → Prop) (site : Site)
    (branch : Nat) (word : List TokenId) : Prop :=
  ∃ inner outer, site.Inner table branch inner ∧ table.Follows root copy site.owner outer ∧
    word = inner ++ outer

theorem Inner.names {table : RuleTable} (distinct : (table.map (·.id)).Nodup) {site : Site}
    (present : site.In table) {branch : Nat} {word : List TokenId}
    (inner : site.Inner table branch word) : ∀ token ∈ word, table.Names token := by
  cases inner with
  | @choice rule branch alternative word chosen derived =>
      have found := alternatives_of_rule? (rule?_of_mem distinct present.1)
      have inTable : alternative ∈ table.alternatives rule.id :=
        found ▸ List.mem_of_getElem? chosen
      exact derived.names_of_mem inTable (List.Subset.refl _)
  | again _ _ _ _ more back =>
      intro token member
      cases List.mem_append.mp member with
      | inl first => exact more.names_copies present.1 (by simp) token first
      | inr later => exact back.names_of_mem present.1 (by simp) token later
  | done _ _ _ _ back => exact back.names_of_mem present.1 (by simp)

/-- What can be ahead of a branch consists of tokens that the table names. -/
theorem Ahead.names {table : RuleTable} {root : RuleId → Prop} {copy : Nat → Prop}
    (distinct : (table.map (·.id)).Nodup) {site : Site} (present : site.In table) {branch : Nat}
    {word : List TokenId} (ahead : site.Ahead table root copy branch word) :
    ∀ token ∈ word, table.Names token := by
  obtain ⟨inner, outer, inside, follows, rfl⟩ := ahead
  intro token member
  cases List.mem_append.mp member with
  | inl inInner => exact inside.names distinct present token inInner
  | inr inOuter => exact follows.names token inOuter

end Site

/-- The first terminals of a text, which ends with the end of input. -/
def firstTerminals (depth : Nat) (word : List TokenId) : Terminals :=
  (word.map Terminal.token ++ [Terminal.eof]).take depth

@[simp] theorem firstTerminals_zero (word : List TokenId) : firstTerminals 0 word = [] := rfl

@[simp] theorem firstTerminals_nil (depth : Nat) :
    firstTerminals (depth + 1) [] = [.eof] := by
  simp [firstTerminals]

@[simp] theorem firstTerminals_cons (depth : Nat) (token : TokenId) (word : List TokenId) :
    firstTerminals (depth + 1) (token :: word) = .token token :: firstTerminals depth word := by
  simp [firstTerminals]

theorem take_firstTerminals {lesser depth : Nat} (less : lesser ≤ depth) (word : List TokenId) :
    (firstTerminals depth word).take lesser = firstTerminals lesser word := by
  rw [firstTerminals, firstTerminals, List.take_take, Nat.min_eq_left less]

/-- Terminals that reach the end of input are all that there are. -/
theorem firstTerminals_of_getLast?_eof {depth greater : Nat} {word : List TokenId}
    (less : depth ≤ greater) (ended : (firstTerminals depth word).getLast? = some .eof) :
    firstTerminals greater word = firstTerminals depth word := by
  induction word generalizing depth greater with
  | nil =>
      cases depth with
      | zero => simp at ended
      | succ depth =>
          obtain ⟨greater, rfl⟩ : ∃ other, greater = other + 1 := ⟨greater - 1, by omega⟩
          simp
  | cons token word ih =>
      cases depth with
      | zero => simp at ended
      | succ depth =>
          obtain ⟨greater, rfl⟩ : ∃ other, greater = other + 1 := ⟨greater - 1, by omega⟩
          rw [firstTerminals_cons] at ended ⊢
          rw [firstTerminals_cons]
          congr 1
          apply ih (by omega)
          cases rest : firstTerminals depth word with
          | nil => simp [rest] at ended
          | cons terminal others => simpa [rest, List.getLast?_cons_cons] using ended

/-- The first terminals of what can be ahead of a branch. -/
def Heads (ahead : Nat → List TokenId → Prop) (depth branch : Nat) (sequence : Terminals) :
    Prop :=
  ∃ word, ahead branch word ∧ sequence = firstTerminals depth word

/-- The strong LL look-ahead of a branch. -/
def Site.Language (table : RuleTable) (root : RuleId → Prop) (copy : Nat → Prop)
    (site : Site) (depth branch : Nat) (sequence : Terminals) : Prop :=
  Heads (site.Ahead table root copy) depth branch sequence

namespace Site

variable {table : RuleTable}

theorem Language.mono {root root' : RuleId → Prop} {copy copy' : Nat → Prop} {site : Site}
    {depth branch : Nat} {sequence : Terminals}
    (roots : ∀ id, root id → root' id) (copies : ∀ earlier, copy earlier → copy' earlier)
    (language : site.Language table root copy depth branch sequence) :
    site.Language table root' copy' depth branch sequence := by
  obtain ⟨word, ⟨inner, outer, inside, follows, rfl⟩, rfl⟩ := language
  exact ⟨_, ⟨inner, outer, inside, follows.mono roots copies, rfl⟩, rfl⟩

/-- A decision in a production that does not stand below a count looks behind no later
copies. -/
theorem Language.first {root : RuleId → Prop} {site : Site} {depth branch : Nat}
    {sequence : Terminals} (language : site.Language table root anyCopy depth branch sequence)
    (free : ¬ table.BelowCount site.owner) :
    site.Language table root firstCopy depth branch sequence := by
  obtain ⟨word, ⟨inner, outer, inside, follows, rfl⟩, rfl⟩ := language
  exact ⟨_, ⟨inner, outer, inside, follows.first free, rfl⟩, rfl⟩

/-- No two branches of a decision share a sequence of some depth. -/
def DisjointAt (table : RuleTable) (root : RuleId → Prop) (copy : Nat → Prop) (site : Site)
    (depth : Nat) : Prop :=
  ∀ left right, left ≠ right → ∀ sequence, site.Language table root copy depth left sequence →
    ¬ site.Language table root copy depth right sequence

end Site

end StrongLL
