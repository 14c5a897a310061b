import StrongLL.Proofs.LookAhead.Reorder
import StrongLL.Proofs.Rules.Sites
import StrongLL.Proofs.Rules.Shuffle

/-!
# Look-ahead in tables in another order

What productions derive, what may follow them and what can be ahead of the branches of a
decision is the same in a table in another order. So the same decisions can be made in it.
-/

namespace StrongLL

/-- A form with other numbers. -/
def Form.rename (numbering : RuleId → RuleId) : Form → Form
  | .symbol item => .symbol (item.rename numbering)
  | .copies item count => .copies (item.rename numbering) count
  | .row elements => .row (elements.map (Element.rename numbering))

variable {numbering : Equiv.Perm RuleId} {table table' : RuleTable} {start : RuleId}

/-! ## Derivations -/

namespace RuleTable.Shuffles

section

variable (shuffles : table.Shuffles numbering table') (distinct' : (table'.map (·.id)).Nodup)

include shuffles distinct'

theorem derives {form : Form} {word : List TokenId} (derived : table.Derives form word) :
    table'.Derives (form.rename numbering) word := by
  induction derived with
  | token id => exact .token id
  | rule chosen _ inner => exact .rule (shuffles.mem_alternatives distinct' chosen) inner
  | noCopy symbol => exact .noCopy _
  | oneMore _ _ copy more => exact .oneMore copy more
  | nothing => exact .nothing
  | element admitted _ _ copies more => exact .element admitted copies more

theorem refers {id target : RuleId} (refers : table.Refers id target) :
    table'.Refers (numbering id) (numbering target) := by
  obtain ⟨alternative, chosen, element, inside, symbol⟩ := refers
  exact ⟨_, shuffles.mem_alternatives distinct' chosen, _, List.mem_map_of_mem inside,
    Symbol.rename_eq_rule.mpr symbol⟩

end

section

variable (shuffles : table.Shuffles numbering table') (distinct : (table.map (·.id)).Nodup)
  (distinct' : (table'.map (·.id)).Nodup)

include shuffles distinct

theorem isRoot {id : RuleId} (isRoot : table.IsRoot start id) :
    table'.IsRoot (numbering start) (numbering id) := by
  refine isRoot.imp (congrArg numbering) fun apart reached => apart ?_
  have back := reached.lift numbering.symm fun _ _ => shuffles.symm.refers distinct
  simpa [Function.onFun] using back

include distinct'

theorem follows {copy : Nat → Prop} {id : RuleId} {word : List TokenId}
    (follows : table.Follows (table.IsRoot start) copy id word) :
    table'.Follows (table'.IsRoot (numbering start)) copy (numbering id) word := by
  induction follows with
  | finish isRoot => exact .finish (shuffles.isRoot distinct isRoot)
  | @behind owner id before rest element _ _ _ _ _ _ _ use refers looked admitted front previous
      more back _ ih =>
      have use' := shuffles.mem_alternatives distinct' use
      rw [List.map_append, List.map_cons] at use'
      exact .behind use' (Symbol.rename_eq_rule.mpr refers) looked admitted
        (shuffles.derives distinct' front) (shuffles.derives distinct' previous)
        (shuffles.derives distinct' more) (shuffles.derives distinct' back) ih

end

end RuleTable.Shuffles

/-! ## Places of decisions -/

namespace Site

/-- The same place in a table in another order, with its branches at other places. -/
inductive Shuffles (numbering : Equiv.Perm RuleId) : (places : Equiv.Perm Nat) → Site → Site → Prop
  | choice {places : Equiv.Perm Nat} {rule rule' : Rule} (id : rule'.id = numbering rule.id)
      (moved : Moved places (rule.alternatives.map (List.map (Element.rename numbering)))
        rule'.alternatives) :
      Shuffles numbering places (.choice rule) (.choice rule')
  | loop (owner : RuleId) (before : Alternative) (element : Element) (rest : Alternative) :
      Shuffles numbering (Equiv.refl Nat) (.loop owner before element rest)
        (.loop (numbering owner) (before.map (Element.rename numbering))
          (element.rename numbering) (rest.map (Element.rename numbering)))

variable {places : Equiv.Perm Nat} {site site' : Site}

theorem Shuffles.symm (shuffles : site.Shuffles numbering places site') :
    site'.Shuffles numbering.symm places.symm site := by
  cases shuffles with
  | choice id moved =>
      have back := moved.symm.map (List.map (Element.rename numbering.symm))
      refine .choice (by rw [id, Equiv.symm_apply_apply]) ?_
      simpa [Function.comp_def] using back
  | loop owner before element rest =>
      have back := @Shuffles.loop numbering.symm (numbering owner)
        (before.map (Element.rename numbering)) (element.rename numbering)
        (rest.map (Element.rename numbering))
      simpa using back

theorem Shuffles.owner (shuffles : site.Shuffles numbering places site') :
    site'.owner = numbering site.owner := by
  cases shuffles with
  | choice id _ => exact id
  | loop => rfl

theorem Shuffles.lt_length (shuffles : site.Shuffles numbering places site') (branch : Nat) :
    places branch < site'.branches.length ↔ branch < site.branches.length := by
  cases shuffles with
  | choice _ moved =>
      simpa [branches, Decision.choiceBranches] using @Moved.lt_length _ _ _ _ moved branch
  | loop => rfl

theorem Shuffles.inner (shuffles : site.Shuffles numbering places site')
    (tables : table.Shuffles numbering table') (distinct' : (table'.map (·.id)).Nodup)
    {branch : Nat} {word : List TokenId} (inner : site.Inner table branch word) :
    site'.Inner table' (places branch) word := by
  cases shuffles with
  | choice _ moved =>
      cases inner with
      | choice chosen derived =>
          refine .choice ?_ (tables.derives distinct' derived)
          rw [moved, List.getElem?_map, chosen]
          rfl
  | loop owner before element rest =>
      cases inner with
      | again front previous reached admitted more back =>
          exact .again (tables.derives distinct' front) (tables.derives distinct' previous) reached
            admitted (tables.derives distinct' more) (tables.derives distinct' back)
      | done front previous reached notFull back =>
          exact .done (tables.derives distinct' front) (tables.derives distinct' previous) reached
            notFull (tables.derives distinct' back)

/-- What is ahead of a branch is ahead of it in the other order. -/
theorem Shuffles.ahead (shuffles : site.Shuffles numbering places site')
    (tables : table.Shuffles numbering table') (distinct : (table.map (·.id)).Nodup)
    (distinct' : (table'.map (·.id)).Nodup) {branch : Nat} {word : List TokenId}
    (ahead : site.Ahead table (table.IsRoot start) firstCopy branch word) :
    site'.Ahead table' (table'.IsRoot (numbering start)) firstCopy (places branch) word := by
  obtain ⟨inner, outer, inside, follows, rfl⟩ := ahead
  refine ⟨inner, outer, shuffles.inner tables distinct' inside, ?_, rfl⟩
  rw [shuffles.owner]
  exact tables.follows distinct distinct' follows

theorem Shuffles.ahead_iff (shuffles : site.Shuffles numbering places site')
    (tables : table.Shuffles numbering table') (distinct : (table.map (·.id)).Nodup)
    (distinct' : (table'.map (·.id)).Nodup) (branch : Nat) (word : List TokenId) :
    site'.Ahead table' (table'.IsRoot (numbering start)) firstCopy (places branch) word ↔
      site.Ahead table (table.IsRoot start) firstCopy branch word := by
  refine ⟨fun ahead => ?_, shuffles.ahead tables distinct distinct'⟩
  simpa using shuffles.symm.ahead tables.symm distinct' distinct ahead

end Site

/-! ## Decisions -/

/-- A table for which look-ahead is found, with the production that it begins with. -/
structure RuleTable.Checked (table : RuleTable) (start : RuleId) : Prop where
  wellFormed : table.WellFormed
  productive : table.Productive
  acyclic : WellFounded table.Begins
  known : start ∈ table.map (·.id)

theorem RuleTable.Checked.describes (checked : table.Checked start) {site : Site}
    (present : site.In table) : Decision.Describes (.prepare table start) site.branches
      (site.Ahead table (table.IsRoot start) firstCopy) :=
  describes_site checked.wellFormed checked.productive checked.acyclic checked.known present

section

variable {maxDepth : Nat} (tables : table.Shuffles numbering table')
  (checked : table.Checked start) (checked' : table'.Checked (numbering start))

include tables checked checked'

/-- Decisions at the same place have the same sets. -/
theorem Site.Shuffles.reorders {places : Equiv.Perm Nat} {site site' : Site}
    (shuffles : site.Shuffles numbering places site') (present : site.In table)
    (present' : site'.In table') {decision decision' : Decision}
    (made : Decision.between (.prepare table start) maxDepth site.branches = .ok decision)
    (made' : Decision.between (.prepare table' (numbering start)) maxDepth site'.branches =
      .ok decision') : decision.Reorders places decision' :=
  (checked.describes present).reorders (checked'.describes present')
    (shuffles.ahead_iff tables checked.wellFormed.distinct checked'.wellFormed.distinct)
    shuffles.lt_length made made'

theorem reorders_of_decidedIf {places : Equiv.Perm Nat} {site site' : Site}
    (shuffles : site.Shuffles numbering places site') {needed : Bool}
    (present : needed = true → site.In table) (present' : needed = true → site'.In table')
    {decision decision' : Option Decision}
    (decided : DecidedIf needed (.prepare table start) maxDepth site.branches decision)
    (decided' : DecidedIf needed (.prepare table' (numbering start)) maxDepth site'.branches
      decision') : Option.Rel (Decision.Reorders places) decision decision' := by
  rcases decided with ⟨single, rfl⟩ | ⟨several, made, rfl, between⟩
  · rcases decided' with ⟨_, rfl⟩ | ⟨several, _⟩
    · exact .none
    · cases single.symm.trans several
  · rcases decided' with ⟨single, _⟩ | ⟨_, made', rfl, between'⟩
    · cases single.symm.trans several
    · exact .some (shuffles.reorders tables checked checked' (present several)
        (present' several) between between')

end

end StrongLL
