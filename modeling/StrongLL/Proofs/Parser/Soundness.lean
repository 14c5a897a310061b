import StrongLL.Proofs.Parser.Descent

/-!
# What is parsed is derived

Whatever the descent comes back with was derived, also where tokens were skipped on the
way: its leaves are the tokens that were consumed. As long as no token is skipped the
derivation is guided by what was ahead at each decision.
-/

namespace StrongLL

/-- What is promised of the elements of a grammar: bounds that can be met, and known
tokens. -/
structure ResolvedElement.Usable (vocabulary : Vocabulary) (element : ResolvedElement) : Prop where
  bounded : element.occurs.isValid = true
  token : ∀ id, element.symbol = .token id → ∃ pattern, vocabulary.find? id = some pattern

namespace ResolvedElement

variable {element : ResolvedElement} {count : Nat} {input : List Token}

theorem lt_max_of_wants (wanted : element.wants count input = true) :
    ∀ max, element.occurs.max = some max → count < max := by
  apply Occurs.isFull_eq_false_iff.mp
  unfold wants at wanted
  split at wanted
  · cases wanted
  · rename_i notFull
    exact Bool.eq_false_iff.mpr notFull

/-- Where no more copies are wanted there are enough. -/
theorem admits_of_not_wants (bounded : element.occurs.isValid = true)
    (atMost : ∀ max, element.occurs.max = some max → count ≤ max)
    (stops : element.wants count input = false) : element.occurs.Admits count := by
  refine Occurs.admits_iff.mpr ⟨?_, atMost⟩
  unfold wants at stops
  split at stops
  · rename_i full
    unfold Occurs.isFull at full
    cases bound : element.occurs.max with
    | none => simp [bound] at full
    | some max =>
        have exact := atMost max bound
        simp only [bound, decide_eq_true_eq] at full
        simp only [Occurs.isValid, bound, Bool.and_eq_true, decide_eq_true_eq] at bounded
        omega
  · split at stops
    · cases stops
    · rename_i reached
      exact Nat.le_of_not_lt reached

end ResolvedElement

namespace Grammar

/-- All elements of a grammar are as promised. -/
def AllUsable (grammar : Grammar) : Prop :=
  ∀ rule ∈ grammar.rules, ∀ elements ∈ rule.alternatives, ∀ element ∈ elements,
    element.Usable grammar.vocabulary

/-- The nodes that are derived for a task. Copies are added to those that are there. -/
def Derived (grammar : Grammar) : Task → List Node → Prop
  | .symbol symbol, nodes => grammar.table.Builds grammar.vocabulary (.symbol symbol) nodes
  | .copies element count, nodes => ∃ later,
      grammar.table.Builds grammar.vocabulary (.copies element.symbol later) nodes ∧
        ((∀ max, element.occurs.max = some max → count ≤ max) →
          element.occurs.Admits (count + later))
  | .row elements, nodes =>
      grammar.table.Builds grammar.vocabulary (.row (elements.map (·.toElement))) nodes

/-- An alternative of a production is derived. -/
def SomeDerived (grammar : Grammar) (rule : ResolvedRule) (nodes : List Node) : Prop :=
  ∃ elements ∈ rule.alternatives, grammar.Derived (.row elements) nodes

/-- The alternative that is decided for is derived. -/
def ChosenGuided (grammar : Grammar) (rule : ResolvedRule) (nodes : List Node)
    (behind : List Token) : Prop :=
  ∃ index elements, rule.choice? (Node.leavesOf nodes ++ behind) = some index ∧
    rule.alternatives[index]? = some elements ∧ grammar.Guided (.row elements) nodes behind

section

variable {grammar : Grammar} {id : RuleId} {found : ResolvedRule} {nodes : List Node}
  {behind : List Token} (lookup : grammar.rule? id = some found)

include lookup

theorem derived_declared (isDeclared : found.isAuxiliary = false)
    (derived : grammar.SomeDerived found nodes) :
    grammar.Derived (.symbol (.rule id)) [.branch id found.name nodes] := by
  obtain ⟨row, chosen, builds⟩ := derived
  have flat : grammar.table.rule? id = some found.toRule := by rw [rule?_toRule, lookup]; rfl
  exact .declared flat isDeclared (List.mem_map_of_mem chosen) builds

theorem derived_auxiliary (isAuxiliary : found.isAuxiliary = true)
    (derived : grammar.SomeDerived found nodes) :
    grammar.Derived (.symbol (.rule id)) nodes := by
  obtain ⟨row, chosen, builds⟩ := derived
  have flat : grammar.table.rule? id = some found.toRule := by rw [rule?_toRule, lookup]; rfl
  exact .auxiliary flat isAuxiliary (List.mem_map_of_mem chosen) builds

theorem guided_declared (isDeclared : found.isAuxiliary = false)
    (guided : grammar.ChosenGuided found nodes behind) :
    grammar.Guided (.symbol (.rule id)) [.branch id found.name nodes] behind := by
  obtain ⟨index, row, choice, present, inner⟩ := guided
  exact .declared lookup isDeclared choice present inner

theorem guided_auxiliary (isAuxiliary : found.isAuxiliary = true)
    (guided : grammar.ChosenGuided found nodes behind) :
    grammar.Guided (.symbol (.rule id)) nodes behind := by
  obtain ⟨index, row, choice, present, inner⟩ := guided
  exact .auxiliary lookup isAuxiliary choice present inner

end

theorem BuiltFrom.usable {declaration : Ebnf.Declaration} {grammar : Grammar}
    (from' : BuiltFrom declaration grammar) : grammar.AllUsable := by
  intro rule member elements chosen element inside
  have fits := Flatten.fits_table from'.sound (from'.mem_table member)
    (List.mem_map_of_mem chosen) (List.mem_map_of_mem inside)
  exact ⟨fits.bounded, fun id symbol => Option.isSome_iff_exists.mp (fits.token id symbol)⟩

end Grammar

namespace Parser

variable {σ : Type} {setting : Setting σ} {before middle after : Parser σ}

/-- A branch gets nodes whose leaves are the tokens that are consumed. -/
structure Adds (setting : Setting σ) (before : Parser σ) (parent : Branch)
    (items : List Taken) (nodes : List Node) (branch : Branch) (after : Parser σ) : Prop where
  course : Course setting.grammar.vocabulary before items after
  leaves : items.filterMap Taken.consumed? = Node.leavesOf nodes
  kept : setting.listener.Keeps → branch = parent.add nodes

namespace Adds

variable {parent branch : Branch} {items : List Taken} {nodes : List Node}

theorem nothing (course : Course setting.grammar.vocabulary before [] after) :
    Adds setting before parent [] [] parent after :=
  ⟨course, rfl, fun _ => (Branch.add_nil parent).symm⟩

theorem trans {last : Branch} {further : List Taken} {others : List Node}
    (left : Adds setting before parent items nodes branch middle)
    (right : Adds setting middle branch further others last after) :
    Adds setting before parent (items ++ further) (nodes ++ others) last after where
  course := left.course.trans right.course
  leaves := by rw [List.filterMap_append, left.leaves, right.leaves, RuleTable.leavesOf_append]
  kept := by
    intro keeps
    rw [right.kept keeps, left.kept keeps, Branch.add_add]

/-- Where nothing is skipped the leaves were ahead. -/
theorem upcoming (adds : Adds setting before parent items nodes branch after)
    (kept : ∀ token, .skipped token ∉ items) :
    before.upcoming setting.grammar.vocabulary =
      Node.leavesOf nodes ++ after.upcoming setting.grammar.vocabulary := by
  rw [adds.course.upcoming, ← adds.leaves, Taken.consumed_of_not_skipped kept]

end Adds

/-- How a call ends that parses into a branch. It may end with a mismatch only if `retry`
holds, and has taken nothing then. -/
def Parsed (setting : Setting σ) (retry : Prop) (before : Parser σ) (parent : Branch)
    (derived : List Node → Prop) (guided : List Node → List Token → Prop) :
    Except Halt Branch → Parser σ → Prop
  | .ok branch, after => ∃ items nodes, Adds setting before parent items nodes branch after ∧
      derived nodes ∧ ((∀ token, .skipped token ∉ items) →
        guided nodes (after.upcoming setting.grammar.vocabulary))
  | .error (.mismatch _), after =>
      retry ∧ Course setting.grammar.vocabulary before [] after
  | .error _, _ => True

namespace Parsed

variable {retry : Prop} {parent : Branch} {derived : List Node → Prop}
  {guided : List Node → List Token → Prop} {outcome : Except Halt Branch}

theorem behind (course : Course setting.grammar.vocabulary before [] middle)
    (parsed : Parsed setting retry middle parent derived guided outcome after) :
    Parsed setting retry before parent derived guided outcome after := by
  cases outcome with
  | ok branch =>
      obtain ⟨items, nodes, adds, derived, guided⟩ := parsed
      exact ⟨items, nodes, ⟨course.trans adds.course, adds.leaves, adds.kept⟩, derived, guided⟩
  | error halt =>
      cases halt with
      | mismatch _ => exact ⟨parsed.1, course.trans parsed.2⟩
      | abort => trivial
      | unfinished => trivial

/-- Where a token is skipped nothing has to be guided. -/
theorem behind_skip {token : Token}
    (course : Course setting.grammar.vocabulary before [.skipped token] middle)
    (parsed : Parsed setting False middle parent derived guided outcome after) :
    Parsed setting retry before parent derived guided outcome after := by
  cases outcome with
  | ok branch =>
      obtain ⟨items, nodes, adds, derived, _⟩ := parsed
      refine ⟨.skipped token :: items, nodes, ⟨course.trans adds.course, ?_, adds.kept⟩, derived,
        fun kept => absurd (List.mem_cons_self ..) (kept token)⟩
      rw [← adds.leaves]
      rfl
  | error halt =>
      cases halt with
      | mismatch _ => exact parsed.1.elim
      | abort => trivial
      | unfinished => trivial

/-- What is parsed behind something else. -/
theorem join {branch : Branch} {items : List Taken} {nodes : List Node}
    {derived' : List Node → Prop} {guided' : List Node → List Token → Prop}
    (adds : Adds setting before parent items nodes branch middle)
    (parsed : Parsed setting False middle branch derived' guided' outcome after)
    (derives : ∀ others, derived' others → derived (nodes ++ others))
    (guides : (∀ token, .skipped token ∉ items) → ∀ others behind,
      middle.upcoming setting.grammar.vocabulary = Node.leavesOf others ++ behind →
        guided' others behind → guided (nodes ++ others) behind) :
    Parsed setting retry before parent derived guided outcome after := by
  cases outcome with
  | ok last =>
      obtain ⟨further, others, more, moreDerived, moreGuided⟩ := parsed
      refine ⟨items ++ further, nodes ++ others, adds.trans more, derives others moreDerived,
        fun kept => ?_⟩
      have keptFirst : ∀ token, .skipped token ∉ items :=
        fun token member => kept token (List.mem_append_left _ member)
      have keptMore : ∀ token, .skipped token ∉ further :=
        fun token member => kept token (List.mem_append_right _ member)
      exact guides keptFirst others _ (more.upcoming keptMore) (moreGuided keptMore)
  | error halt =>
      cases halt with
      | mismatch _ => exact parsed.1.elim
      | abort => trivial
      | unfinished => trivial

theorem weaken {derived' : List Node → Prop} {guided' : List Node → List Token → Prop}
    (parsed : Parsed setting retry before parent derived guided outcome after)
    (derives : ∀ nodes, derived nodes → derived' nodes)
    (guides : ∀ nodes behind, guided nodes behind → guided' nodes behind) :
    Parsed setting retry before parent derived' guided' outcome after := by
  cases outcome with
  | ok branch =>
      obtain ⟨items, nodes, adds, built, follows⟩ := parsed
      exact ⟨items, nodes, adds, derives nodes built, fun kept => guides nodes _ (follows kept)⟩
  | error halt =>
      cases halt with
      | mismatch _ => exact parsed
      | abort => trivial
      | unfinished => trivial

theorem quiet (quiet : Quiet middle after)
    (parsed : Parsed setting retry before parent derived guided outcome middle) :
    Parsed setting retry before parent derived guided outcome after := by
  have course : Course setting.grammar.vocabulary middle [] after := quiet.course
  cases outcome with
  | ok branch =>
      obtain ⟨items, nodes, adds, derived, guided⟩ := parsed
      have longer := adds.course.trans course
      rw [List.append_nil] at longer
      exact ⟨items, nodes, ⟨longer, adds.leaves, adds.kept⟩, derived,
        fun kept => course.upcoming_eq ▸ guided kept⟩
  | error halt =>
      cases halt with
      | mismatch _ => exact ⟨parsed.1, parsed.2.trans course⟩
      | abort => trivial
      | unfinished => trivial

end Parsed

/-- How a call ends that parses a declared production. -/
def RuleParsed (setting : Setting σ) (before : Parser σ) (id : RuleId) :
    Except Halt (Option Node) → Parser σ → Prop
  | .ok kept, after => ∃ items node, Course setting.grammar.vocabulary before items after ∧
      items.filterMap Taken.consumed? = node.leaves ∧
        (setting.listener.Keeps → kept = some node) ∧
          setting.grammar.Derived (.symbol (.rule id)) [node] ∧
            ((∀ token, .skipped token ∉ items) → setting.grammar.Guided (.symbol (.rule id)) [node]
              (after.upcoming setting.grammar.vocabulary))
  | .error (.mismatch _), after => Course setting.grammar.vocabulary before [] after
  | .error _, _ => True

/-- What holds of all calls with some fuel. -/
structure SoundAt (setting : Setting σ) (fuel : Nat) : Prop where
  rule : ∀ {id found}, setting.grammar.rule? id = some found → found.isAuxiliary = false →
    ∀ before, Ensures (rule setting fuel id) before (RuleParsed setting before id)
  alternatives : ∀ found ∈ setting.grammar.rules, ∀ parent before,
    Ensures (alternatives setting fuel found parent) before (Parsed setting True before parent
      (setting.grammar.SomeDerived found) (setting.grammar.ChosenGuided found))
  elements : ∀ row, (∀ element ∈ row, element.Usable setting.grammar.vocabulary) →
    ∀ parent before, Ensures (elements setting fuel row parent) before
      (Parsed setting False before parent (setting.grammar.Derived (.row row))
        (setting.grammar.Guided (.row row)))
  copies : ∀ element, element.Usable setting.grammar.vocabulary → ∀ count parent before,
    Ensures (copies setting fuel element count parent) before
      (Parsed setting False before parent (setting.grammar.Derived (.copies element count))
        (setting.grammar.Guided (.copies element count)))
  symbol : ∀ target, (∀ id, target = .token id →
      ∃ pattern, setting.grammar.vocabulary.find? id = some pattern) → ∀ parent before,
    Ensures (symbol setting fuel target parent) before
      (Parsed setting True before parent (setting.grammar.Derived (.symbol target))
        (setting.grammar.Guided (.symbol target)))

section

variable {fuel : Nat} (sound : SoundAt setting fuel)

include sound

theorem sound_copies (element : ResolvedElement)
    (usable : element.Usable setting.grammar.vocabulary) (count : Nat) (parent : Branch)
    (before : Parser σ) : Ensures (copies setting (fuel + 1) element count parent) before
      (Parsed setting False before parent (setting.grammar.Derived (.copies element count))
        (setting.grammar.Guided (.copies element count))) := by
  unfold copies
  apply (ensures_wantsMore element count).bind
  · intro wanted middle reads
    have answer := reads.only wanted rfl
    subst answer
    split
    · rename_i goesOn
      have room := ResolvedElement.lt_max_of_wants goesOn
      rw [ensures_bind, ensures_attempt]
      apply (sound.symbol element.symbol usable.token parent middle).mono
      intro outcome tried parsed
      cases outcome with
      | ok branch =>
          obtain ⟨items, nodes, adds, built, guided⟩ := parsed
          apply (sound.copies element usable (count + 1) branch tried).mono
          intro outcome after more
          apply Parsed.behind reads.course
          apply more.join adds
          · rintro others ⟨later, builds, admits⟩
            refine ⟨later + 1, .oneMore built builds, fun _ => ?_⟩
            have admitted := admits room
            rwa [Nat.add_assoc, Nat.add_comm 1] at admitted
          · intro kept others behind ahead more
            refine .oneMore ?_ (ahead ▸ guided kept) more
            rw [RuleTable.leavesOf_append, List.append_assoc, ← ahead, ← adds.upcoming kept,
              reads.course.upcoming_eq]
            exact goesOn
      | error halt =>
          cases halt with
          | mismatch diagnostic =>
              apply (ensures_recover diagnostic).bind
              · rintro ⟨⟩ recovered ⟨token, course⟩
                apply (sound.copies element usable count parent recovered).mono
                intro outcome after more
                exact more.behind_skip ((reads.course.trans parsed.2).trans course)
              · rintro halt after rfl
                trivial
          | abort => trivial
          | unfinished => trivial
    · rename_i stops
      have stops := Bool.eq_false_iff.mpr stops
      rw [ensures_pure]
      refine ⟨[], [], .nothing reads.course, ⟨0, .noCopy _, fun atMost => ?_⟩, fun _ => ?_⟩
      · exact ResolvedElement.admits_of_not_wants usable.bounded atMost stops
      · rw [reads.course.upcoming_eq]
        exact .enough stops
  · intro halt after reads
    obtain ⟨rfl, _⟩ := reads.halts halt rfl
    trivial

theorem sound_elements (row : List ResolvedElement)
    (usable : ∀ element ∈ row, element.Usable setting.grammar.vocabulary) (parent : Branch)
    (before : Parser σ) : Ensures (elements setting (fuel + 1) row parent) before
      (Parsed setting False before parent (setting.grammar.Derived (.row row))
        (setting.grammar.Guided (.row row))) := by
  cases row with
  | nil =>
      unfold elements
      rw [ensures_pure]
      exact ⟨[], [], .nothing (.refl before), .nothing, fun _ => .nothing⟩
  | cons element rest =>
      unfold elements
      apply (sound.copies element (usable element (List.mem_cons_self ..)) 0 parent before).bind
      · rintro branch middle ⟨items, nodes, adds, ⟨later, builds, admits⟩, guided⟩
        have restUsable : ∀ other ∈ rest, other.Usable setting.grammar.vocabulary :=
          fun other member => usable other (List.mem_cons_of_mem _ member)
        apply (sound.elements rest restUsable branch middle).mono
        intro outcome after more
        apply more.join adds
        · intro others derived
          refine .element ?_ builds derived
          have admitted := admits fun max _ => Nat.zero_le max
          rwa [Nat.zero_add] at admitted
        · intro kept others behind ahead more
          exact .element (ahead ▸ guided kept) more
      · intro halt after parsed
        cases halt with
        | mismatch _ => exact parsed.1.elim
        | abort => trivial
        | unfinished => trivial

theorem sound_alternatives (usable : setting.grammar.AllUsable) (found : ResolvedRule)
    (member : found ∈ setting.grammar.rules) (parent : Branch) (before : Parser σ) :
    Ensures (alternatives setting (fuel + 1) found parent) before (Parsed setting True before
      parent (setting.grammar.SomeDerived found) (setting.grammar.ChosenGuided found)) := by
  unfold alternatives
  apply ensures_inside
  · intro _ after _
    trivial
  · intro entered quiet
    apply (ensures_choose found).bind
    · rintro ⟨index, depth⟩ middle ⟨course, choice⟩
      dsimp only
      cases present : found.alternatives[index]? with
      | none =>
          apply ensures_fail.mono
          rintro outcome after ⟨rfl, _⟩ last _
          trivial
      | some row =>
          have chosen : row ∈ found.alternatives := List.mem_of_getElem? present
          rw [ensures_bind, ensures_record]
          apply (sound.elements row (usable found member row chosen) parent _).mono
          intro outcome after parsed last left
          apply Parsed.quiet left
          have recorded := course.trans (Quiet.course (quiet_record (.alternative found.id index depth) rfl))
          apply parsed.join (.nothing (quiet.course.trans recorded))
          · intro nodes derived
            exact ⟨row, chosen, derived⟩
          · intro _ nodes behind ahead guided
            refine ⟨index, row, ?_, present, guided⟩
            rw [List.nil_append, ← ahead, recorded.upcoming_eq]
            exact choice
    · intro halt after reached last left
      cases halt with
      | mismatch _ =>
          exact ⟨trivial, quiet.course.trans (reached.1.trans left.course)⟩
      | abort => trivial
      | unfinished => trivial

theorem sound_rule {id : RuleId} {found : ResolvedRule}
    (lookup : setting.grammar.rule? id = some found) (isDeclared : found.isAuxiliary = false)
    (before : Parser σ) :
    Ensures (rule setting (fuel + 1) id) before (RuleParsed setting before id) := by
  obtain ⟨member, _⟩ := Grammar.mem_of_rule? lookup
  unfold rule
  rw [lookup]
  dsimp only
  apply (ensures_enter (.branch id found.name [])).bind
  · intro _ entered entering
    apply (sound.alternatives found member ⟨id, found.name, []⟩ entered).bind
    · rintro branch parsed ⟨items, nodes, adds, derived, guided⟩
      apply (ensures_exit branch.toNode).mono
      intro outcome after leaving
      cases outcome with
      | ok kept =>
          have course := (entering.course.trans adds.course).trans leaving.course
          rw [List.nil_append, List.append_nil] at course
          refine ⟨items, .branch id found.name nodes, course, adds.leaves, fun keeps => ?_,
            Grammar.derived_declared lookup isDeclared derived, fun kept => ?_⟩
          · rw [Except.ok.inj (leaving.answers keeps).1, adds.kept keeps]
            rfl
          · rw [leaving.course.upcoming_eq]
            exact Grammar.guided_declared lookup isDeclared (guided kept)
      | error halt =>
          obtain ⟨rfl, _⟩ := leaving.halts halt rfl
          trivial
    · intro halt after parsed
      cases halt with
      | mismatch _ => exact entering.course.trans parsed.2
      | abort => trivial
      | unfinished => trivial
  · intro halt after entering
    obtain ⟨rfl, _⟩ := entering.halts halt rfl
    trivial

theorem sound_symbol (target : Symbol) (known : ∀ id, target = .token id →
      ∃ pattern, setting.grammar.vocabulary.find? id = some pattern) (parent : Branch)
    (before : Parser σ) : Ensures (symbol setting (fuel + 1) target parent) before
      (Parsed setting True before parent (setting.grammar.Derived (.symbol target))
        (setting.grammar.Guided (.symbol target))) := by
  cases target with
  | token id =>
      obtain ⟨pattern, found⟩ := known id rfl
      unfold symbol
      apply (ensures_token found parent).mono
      intro outcome after reached
      cases outcome with
      | ok branch =>
          obtain ⟨token, kind, course, kept⟩ := reached
          exact ⟨[.consumed token], [.leaf token pattern.name], ⟨course, rfl, kept⟩,
            .token found kind, fun _ => .token found kind⟩
      | error halt =>
          cases halt with
          | mismatch _ => exact ⟨trivial, reached⟩
          | abort => trivial
          | unfinished => trivial
  | rule id =>
      unfold symbol
      cases lookup : setting.grammar.rule? id with
      | none => trivial
      | some found =>
          obtain ⟨member, _⟩ := Grammar.mem_of_rule? lookup
          dsimp only
          split
          · rename_i isAuxiliary
            apply (sound.alternatives found member parent before).mono
            intro outcome after parsed
            exact parsed.weaken (fun _ => Grammar.derived_auxiliary lookup isAuxiliary)
              fun _ _ => Grammar.guided_auxiliary lookup isAuxiliary
          · rename_i isDeclared
            apply (sound.rule lookup (Bool.eq_false_iff.mpr isDeclared) before).bind
            · rintro kept middle ⟨items, node, course, leaves, keeps, derived, guided⟩
              apply (ensures_attach parent node kept keeps).mono
              intro outcome after attaching
              cases outcome with
              | ok branch =>
                  have longer := course.trans attaching.course
                  rw [List.append_nil] at longer
                  refine ⟨items, [node], ⟨longer, ?_, fun keeps => ?_⟩, derived, fun kept => ?_⟩
                  · rw [leaves]
                    simp [Node.leavesOf]
                  · exact Except.ok.inj (attaching.answers keeps).1
                  · rw [attaching.course.upcoming_eq]
                    exact guided kept
              | error halt =>
                  obtain ⟨rfl, _⟩ := attaching.halts halt rfl
                  trivial
            · intro halt after parsed
              cases halt with
              | mismatch _ => exact ⟨trivial, parsed⟩
              | abort => trivial
              | unfinished => trivial

end

/-- All calls are sound, whatever the fuel. -/
theorem soundAt (usable : setting.grammar.AllUsable) (fuel : Nat) : SoundAt setting fuel := by
  induction fuel with
  | zero =>
      constructor
      · intros
        trivial
      · intros
        trivial
      · intros
        trivial
      · intros
        trivial
      · intros
        trivial
  | succ fuel ih =>
      exact ⟨sound_rule ih, sound_alternatives ih usable, sound_elements ih, sound_copies ih,
        sound_symbol ih⟩

/-! ## The start production -/

theorem ensures_discard {α : Type} {step : Parse σ α}
    {post : Except Halt Unit → Parser σ → Prop} :
    Ensures (discard (attempt step)) before post ↔
      Ensures step before fun _ after => post (.ok ()) after := Iff.rfl

/-- Behind the start production nothing is taken any more. If nothing is logged all of the
input was taken. -/
theorem ensures_checkEnd : Ensures (checkEnd setting) before fun _ after =>
    Course setting.grammar.vocabulary before [] after ∧
      (before.Warned → after.log = [] →
        before.upcoming setting.grammar.vocabulary = [] ∧
          after.faults setting.grammar.vocabulary = []) := by
  unfold checkEnd
  apply (ensures_peek 0).bind
  · rintro found middle ⟨reads, ended⟩
    cases found with
    | none =>
        refine ⟨reads.course, fun _ _ => ⟨?_, ?_⟩⟩
        · have missing := reads.only none rfl
          exact List.length_eq_zero_iff.mp
            (Nat.le_zero.mp (List.getElem?_eq_none_iff.mp missing.symm))
        · exact if_pos ((ended none rfl).2 rfl)
    | some token =>
        apply (ensures_report _ true).mono
        rintro outcome after ⟨_, reported⟩
        refine ⟨reads.course.trans reported.course, fun warned empty => ?_⟩
        exact absurd empty (reported.logged (reads.course.warned warned))
  · rintro halt after ⟨reads, _⟩
    exact ⟨reads.course, fun warned empty => absurd empty ((reads.halts halt rfl).2 warned)⟩

/-- How parsing the start production ends. -/
def RootParsed (setting : Setting σ) (before : Parser σ) :
    Except Halt (Option Node) → Parser σ → Prop
  | .ok kept, after => ∃ items node, Course setting.grammar.vocabulary before items after ∧
      items.filterMap Taken.consumed? = node.leaves ∧
        (setting.listener.Keeps → kept = some node) ∧
          setting.grammar.Derived (.symbol (.rule setting.grammar.start)) [node] ∧
            (before.Warned → after.log = [] → setting.grammar.IsGuided node ∧
              after.upcoming setting.grammar.vocabulary = [] ∧
                after.faults setting.grammar.vocabulary = [])
  | .error _, _ => True

theorem ensures_root (usable : setting.grammar.AllUsable) {found : ResolvedRule}
    (lookup : setting.grammar.rule? setting.grammar.start = some found)
    (isDeclared : found.isAuxiliary = false) (steps fuel : Nat) (before : Parser σ) :
    Ensures (root setting steps fuel) before (RootParsed setting before) := by
  induction fuel generalizing before with
  | zero => trivial
  | succ fuel ih =>
      unfold root
      rw [ensures_bind, ensures_attempt]
      apply ((soundAt usable steps).rule lookup isDeclared before).mono
      intro outcome middle parsed
      cases outcome with
      | ok kept =>
          obtain ⟨items, node, course, leaves, keeps, derived, guided⟩ := parsed
          dsimp only
          rw [ensures_bind, ensures_discard]
          apply ensures_checkEnd.mono
          rintro _ after ⟨still, ended⟩
          have longer := course.trans still
          rw [List.append_nil] at longer
          refine ⟨items, node, longer, leaves, keeps, derived, fun warned empty => ?_⟩
          obtain ⟨nothing, faultless⟩ := ended (course.warned warned) empty
          refine ⟨?_, still.upcoming_eq.trans nothing, faultless⟩
          have walked := guided (longer.clean warned empty).2
          rw [nothing] at walked
          exact walked
      | error halt =>
          cases halt with
          | mismatch diagnostic =>
              apply (ensures_recover diagnostic).bind
              · rintro ⟨⟩ recovered ⟨token, course⟩
                apply (ih recovered).mono
                intro outcome after more
                cases outcome with
                | ok kept =>
                    obtain ⟨items, node, further, leaves, keeps, derived, _⟩ := more
                    have longer := (parsed.trans course).trans further
                    refine ⟨_, node, longer, leaves, keeps, derived, fun warned empty => ?_⟩
                    exact absurd (List.mem_cons_self ..) ((longer.clean warned empty).2 token)
                | error _ => trivial
              · intros
                trivial
          | abort => trivial
          | unfinished => trivial

/-! ## Whole parses -/

section

variable {declaration : Ebnf.Declaration} {grammar : Grammar}

/-- The start production of a grammar that is built was declared. -/
theorem exists_start (from' : Grammar.BuiltFrom declaration grammar) :
    ∃ found, grammar.rule? grammar.start = some found ∧ found.isAuxiliary = false := by
  obtain ⟨production, member, same⟩ := List.mem_map.mp from'.start
  obtain ⟨flat, stands, isDeclared, _⟩ := Flatten.tableStands from'.sound production member
  rw [same, ← from'.table_eq, Grammar.rule?_toRule] at stands
  obtain ⟨found, lookup, rfl⟩ := Option.map_eq_some_iff.mp stands
  exact ⟨found, lookup, isDeclared⟩

theorem isTree_of_derived (from' : Grammar.BuiltFrom declaration grammar) {node : Node}
    (derived : grammar.Derived (.symbol (.rule grammar.start)) [node]) :
    Ebnf.IsTree declaration grammar.start node := by
  have builds : (Flatten.table declaration.productions).Builds grammar.vocabulary
      (.symbol (.rule grammar.start)) [node] := from'.table_eq ▸ derived
  have reflects := Flatten.declared_of_builds (Flatten.tableStands from'.sound) from'.patterns
    builds
  exact reflects (.rule grammar.start .once) (.plain (.rule from'.start))

theorem root_of_build (from' : Grammar.BuiltFrom declaration grammar) {setting : Setting σ}
    (same : setting.grammar = grammar) (steps fuel : Nat) (before : Parser σ) :
    Ensures (root setting steps fuel) before (RootParsed setting before) := by
  obtain ⟨found, lookup, isDeclared⟩ := exists_start from'
  subst same
  exact ensures_root from'.usable lookup isDeclared steps fuel before

/-- A parse without errors comes back with what the start production was parsed to. -/
theorem parse_eq_parsed_iff {setting : Setting σ} {parser after : Parser σ} {tree : Node} :
    parse setting parser = (after, .parsed (some tree)) ↔
      ∃ last, (root setting (parser.prepare.stepBound setting.grammar)
          (parser.prepare.tokenBound + 2)).run.run parser.prepare = (.ok (some tree), last) ∧
        last.log = [] ∧ { last with log := [] } = after := by
  unfold parse
  dsimp only
  generalize (root setting _ _).run.run parser.prepare = result
  obtain ⟨outcome, last⟩ := result
  constructor
  · intro parsed
    match outcome with
    | .ok node =>
        obtain ⟨state, ended⟩ := Prod.mk.inj parsed
        split at ended
        · rename_i empty
          obtain rfl := Outcome.parsed.inj ended
          exact ⟨last, rfl, List.isEmpty_iff.mp empty, state⟩
        · cases ended
    | .error .unfinished => cases parsed
    | .error (.mismatch _) =>
        obtain ⟨_, ended⟩ := Prod.mk.inj parsed
        split at ended <;> cases ended
    | .error .abort =>
        obtain ⟨_, ended⟩ := Prod.mk.inj parsed
        split at ended <;> cases ended
  · rintro ⟨other, same, empty, rfl⟩
    cases same
    simp [empty]

end

end Parser

end StrongLL
