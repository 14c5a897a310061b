import StrongLL.Proofs.Parser.Soundness

/-!
# The descent comes to an end

Between two tokens productions are entered in the order of their ranks, and an element
that can be empty is repeated a bounded number of times. So the depth of calls is bounded
by the number of tokens that are to come, and the bound on steps is never used up.
-/

namespace StrongLL

namespace Grammar

/-- What the checks on a grammar promise of an element: its copies are counted, or take
tokens. -/
structure TameElement (grammar : Grammar) (element : ResolvedElement) : Prop where
  usable : element.Usable grammar.vocabulary
  copies : element.occurs.max.getD 0 ≤ Parser.mostCopies grammar
  loops : element.occurs.max = none → ∀ id, element.symbol = .rule id →
    id ∉ grammar.table.nullable

/-- What the checks on a grammar promise to the descent. -/
structure Tame (grammar : Grammar) : Prop where
  elements : ∀ rule ∈ grammar.rules, ∀ row ∈ rule.alternatives, ∀ element ∈ row,
    grammar.TameElement element
  width : ∀ rule ∈ grammar.rules, ∀ row ∈ rule.alternatives, row.length ≤ Parser.widest grammar
  ranks : ∀ id rule, grammar.rule? id = some rule → ∀ before element rest,
    before ++ element :: rest ∈ rule.alternatives →
      (∀ other ∈ before, other.isSkippable grammar.table.nullable = true) →
        ∀ next, element.symbol = .rule next → grammar.table.rank next < grammar.table.rank id

variable {declaration : Ebnf.Declaration} {grammar : Grammar}

theorem Tame.allUsable (tame : grammar.Tame) : grammar.AllUsable :=
  fun rule member row chosen element inside =>
    (tame.elements rule member row chosen element inside).usable

theorem BuiltFrom.tame (from' : BuiltFrom declaration grammar) : grammar.Tame where
  elements := by
    intro rule member row chosen element inside
    refine ⟨from'.usable rule member row chosen element inside, ?_, ?_⟩
    · apply (le_foldl_max fun element : ResolvedElement => element.occurs.max.getD 0).2
      exact List.mem_flatten.mpr ⟨row, List.mem_flatMap.mpr ⟨rule, member, chosen⟩, inside⟩
    · intro unbounded id symbol nullable
      have passed := from'.loops
      rw [← from'.table_eq, RuleTable.checkLoops_eq_ok] at passed
      have busy := passed rule.toRule (List.mem_map_of_mem member)
      simp only [List.any_eq_false, Bool.not_eq_true] at busy
      have works := busy _ (List.mem_map_of_mem chosen) _ (List.mem_map_of_mem inside)
      simp [Element.isIdleLoop, symbol, unbounded, nullable] at works
  width := by
    intro rule member row chosen
    apply (le_foldl_max List.length).2
    exact List.mem_flatMap.mpr ⟨rule, member, chosen⟩
  ranks := by
    intro id rule found before element rest use skippable next symbol
    have acyclic := from'.acyclic
    have wellFormed := from'.wellFormed
    rw [← from'.table_eq] at acyclic wellFormed
    have present := use_table found use
    have inside : element.toElement ∈
        before.map (·.toElement) ++ element.toElement :: rest.map (·.toElement) := by simp
    have known := (wellFormed.of_mem_alternatives present inside).2 next symbol
    refine RuleTable.rank_lt_rank acyclic known (RuleTable.begins_of_skippable present ?_ symbol)
    intro other member
    obtain ⟨declared, inside, rfl⟩ := List.mem_map.mp member
    exact skippable declared inside

/-- The productions that a row can begin with have lesser ranks. -/
def Near (grammar : Grammar) (rank : Nat) (row : List ResolvedElement) : Prop :=
  ∀ before element rest, row = before ++ element :: rest →
    (∀ other ∈ before, other.isSkippable grammar.table.nullable = true) →
      ∀ next, element.symbol = .rule next → grammar.table.rank next < rank

theorem Near.head {rank : Nat} {element : ResolvedElement} {rest : List ResolvedElement}
    (near : grammar.Near rank (element :: rest)) :
    ∀ next, element.symbol = .rule next → grammar.table.rank next < rank :=
  near [] element rest rfl (by simp)

theorem Near.tail {rank : Nat} {element : ResolvedElement} {rest : List ResolvedElement}
    (near : grammar.Near rank (element :: rest))
    (skippable : element.isSkippable grammar.table.nullable = true) : grammar.Near rank rest := by
  intro before other behind shape passed
  refine near (element :: before) other behind (by rw [shape]; rfl) ?_
  intro first member
  rcases List.mem_cons.mp member with rfl | member
  · exact skippable
  · exact passed first member

/-- No production ranks higher than there are productions. -/
theorem rank_lt (grammar : Grammar) (id : RuleId) :
    grammar.table.rank id < grammar.rules.length + 1 := by
  have bound := grammar.table.rank_le_length id
  rw [table, List.length_map] at bound
  exact Nat.lt_succ_of_le bound

/-! ## Bounds on the depth of calls -/

/-- The calls between two productions that are entered. -/
def layer (grammar : Grammar) : Nat :=
  (Parser.widest grammar + 1) * (Parser.mostCopies grammar + 2) + 8

/-- The calls between two tokens. -/
def stretch (grammar : Grammar) : Nat := (grammar.rules.length + 2) * grammar.layer

/-- The calls that are left with some tokens to come, if nothing but productions of lesser
ranks can be entered before the first of them. -/
def level (grammar : Grammar) (tokens rank : Nat) : Nat :=
  tokens * grammar.stretch + rank * grammar.layer

theorem width_le_layer (grammar : Grammar) :
    Parser.widest grammar + Parser.mostCopies grammar + 8 ≤ grammar.layer := by
  have grows : (Parser.widest grammar + 1) * (Parser.mostCopies grammar + 2) =
      Parser.widest grammar * (Parser.mostCopies grammar + 2) + Parser.mostCopies grammar + 2 := by
    rw [Nat.add_mul, Nat.one_mul, Nat.add_assoc]
  have wide : Parser.widest grammar ≤
      Parser.widest grammar * (Parser.mostCopies grammar + 2) :=
    Nat.le_mul_of_pos_right _ (Nat.succ_pos _)
  simp only [layer]
  omega

/-- A production of a lesser rank needs a layer less. -/
theorem level_lt_rank (grammar : Grammar) (tokens : Nat) {lesser rank : Nat}
    (less : lesser < rank) :
    grammar.level tokens lesser + Parser.widest grammar + Parser.mostCopies grammar + 8 ≤
      grammar.level tokens rank := by
  have wide := grammar.width_le_layer
  have layers : (lesser + 1) * grammar.layer ≤ rank * grammar.layer :=
    Nat.mul_le_mul_right _ less
  rw [Nat.succ_mul] at layers
  simp only [level]
  omega

/-- Behind a token any production can be entered. -/
theorem level_lt_token (grammar : Grammar) {fewer tokens : Nat} (less : fewer < tokens)
    (rank : Nat) : grammar.level fewer (grammar.rules.length + 1) + Parser.widest grammar +
      Parser.mostCopies grammar + 8 ≤ grammar.level tokens rank := by
  have wide := grammar.width_le_layer
  have stretches : (fewer + 1) * grammar.stretch ≤ tokens * grammar.stretch :=
    Nat.mul_le_mul_right _ less
  have last : grammar.stretch =
      (grammar.rules.length + 1) * grammar.layer + grammar.layer := Nat.succ_mul _ _
  rw [Nat.succ_mul] at stretches
  simp only [level]
  omega

/-- Only an element whose copies are counted has empty ones. -/
theorem exists_max_of_empty {element : ResolvedElement} (tame : grammar.TameElement element)
    {nodes : List Node} (derived : grammar.Derived (.symbol element.symbol) nodes)
    (empty : Node.leavesOf nodes = []) : ∃ max, element.occurs.max = some max := by
  cases bound : element.occurs.max with
  | some max => exact ⟨max, rfl⟩
  | none =>
      have word := RuleTable.Builds.derives derived
      rw [empty, List.map_nil] at word
      cases symbol : element.symbol with
      | token id =>
          rw [symbol] at word
          cases word
      | rule id =>
          rw [symbol] at word
          exact absurd (RuleTable.mem_nullable_of_derives word) (tame.loops bound id symbol)

/-- Where nothing was derived an element can be skipped. -/
theorem isSkippable_of_derived {element : ResolvedElement} {nodes : List Node}
    (derived : grammar.Derived (.copies element 0) nodes) (empty : Node.leavesOf nodes = []) :
    element.isSkippable grammar.table.nullable = true := by
  obtain ⟨later, builds, admits⟩ := derived
  have admitted := admits fun max _ => Nat.zero_le max
  have word := builds.derives
  rw [empty] at word
  have row : grammar.table.Derives (.row [element.toElement]) [] := by
    rw [Nat.zero_add] at admitted
    simpa using RuleTable.Derives.element admitted word .nothing
  exact RuleTable.canBeEmpty_of_derives row rfl _ (List.mem_singleton_self _)

end Grammar

namespace Parser

open Grammar

variable {σ α : Type} {setting : Setting σ} {before middle after : Parser σ}

/-- The tokens that are still to come. -/
def left (setting : Setting σ) (parser : Parser σ) : Nat :=
  (parser.upcoming setting.grammar.vocabulary).length

/-- The step does not run out of fuel. -/
def Finishes (step : Parse σ α) (before : Parser σ) : Prop :=
  Ensures step before fun outcome _ => outcome ≠ .error .unfinished

theorem Finishes.bind {β : Type} {step : Parse σ α} {next : α → Parse σ β}
    {post : Except Halt α → Parser σ → Prop} (finishes : Finishes step before)
    (first : Ensures step before post)
    (more : ∀ value middle, post (.ok value) middle → Finishes (next value) middle) :
    Finishes (step >>= next) before := by
  apply (finishes.and first).bind
  · rintro value middle ⟨_, reached⟩
    exact more value middle reached
  · rintro halt middle ⟨finished, _⟩ same
    exact finished (congrArg _ (Except.error.inj same))

theorem Finishes.of_rests {step : Parse σ α} {sure : Prop} {value : α}
    (rests : Ensures step before (Rests setting.grammar.vocabulary sure value before)) :
    Finishes step before := by
  apply rests.mono
  rintro outcome after rests rfl
  cases (rests.halts .unfinished rfl).1

theorem left_of_course {items : List Taken}
    (course : Course setting.grammar.vocabulary before items after) :
    left setting before = items.length + left setting after :=
  course.length_upcoming

/-- What holds of all calls with some fuel: it is enough if it reaches the level that is
left. -/
structure EndsAt (setting : Setting σ) (fuel : Nat) : Prop where
  rule : ∀ {id found}, setting.grammar.rule? id = some found → ∀ before,
    setting.grammar.level (left setting before) (setting.grammar.table.rank id) +
      widest setting.grammar + mostCopies setting.grammar + 5 ≤ fuel →
        Finishes (rule setting fuel id) before
  alternatives : ∀ {id found}, setting.grammar.rule? id = some found → ∀ parent before,
    setting.grammar.level (left setting before) (setting.grammar.table.rank id) +
      widest setting.grammar + mostCopies setting.grammar + 4 ≤ fuel →
        Finishes (alternatives setting fuel found parent) before
  elements : ∀ row, (∀ element ∈ row, setting.grammar.TameElement element) →
    row.length ≤ widest setting.grammar → ∀ rank, setting.grammar.Near rank row →
      ∀ parent before, setting.grammar.level (left setting before) rank + row.length +
        mostCopies setting.grammar + 3 ≤ fuel → Finishes (elements setting fuel row parent) before
  copies : ∀ element, setting.grammar.TameElement element → ∀ rank,
    (∀ next, element.symbol = .rule next → setting.grammar.table.rank next < rank) →
      ∀ count parent before, setting.grammar.level (left setting before) rank +
        (element.occurs.max.getD 0 - count) + 2 ≤ fuel →
          Finishes (copies setting fuel element count parent) before
  symbol : ∀ target, (∀ id, target = .token id →
      ∃ pattern, setting.grammar.vocabulary.find? id = some pattern) → ∀ rank,
    (∀ next, target = .rule next → setting.grammar.table.rank next < rank) →
      ∀ parent before, setting.grammar.level (left setting before) rank + 1 ≤ fuel →
        Finishes (symbol setting fuel target parent) before

section

variable {fuel : Nat} (tame : setting.grammar.Tame) (ends : EndsAt setting fuel)

include tame ends

theorem ends_copies (element : ResolvedElement) (tameElement : setting.grammar.TameElement element)
    (rank : Nat)
    (near : ∀ next, element.symbol = .rule next → setting.grammar.table.rank next < rank)
    (count : Nat) (parent : Branch) (before : Parser σ)
    (enough : setting.grammar.level (left setting before) rank +
      (element.occurs.max.getD 0 - count) + 2 ≤ fuel + 1) :
    Finishes (copies setting (fuel + 1) element count parent) before := by
  have usable := tame.allUsable
  have most := tameElement.copies
  have anyRank := fun next (_ : element.symbol = .rule next) => setting.grammar.rank_lt next
  unfold copies
  refine (Finishes.of_rests ((ensures_wantsMore element count).mono fun _ _ => Reads.toRests)).bind
    (ensures_wantsMore element count) ?_
  intro wanted middle reads
  have answer := reads.only wanted rfl
  subst answer
  have same := left_of_course reads.course
  rw [List.length_nil, Nat.zero_add] at same
  rw [same] at enough
  split
  · rename_i goesOn
    have room := ResolvedElement.lt_max_of_wants goesOn
    rw [Finishes, ensures_bind, ensures_attempt]
    refine ((ends.symbol element.symbol tameElement.usable.token rank near parent middle
      (by omega)).and ((soundAt usable fuel).symbol element.symbol tameElement.usable.token parent
        middle)).mono ?_
    rintro outcome tried ⟨finished, parsed⟩
    cases outcome with
    | ok branch =>
        obtain ⟨items, nodes, adds, built, _⟩ := parsed
        have count' := left_of_course adds.course
        cases items with
        | nil =>
            -- The copy was empty, so there is an upper bound that has come nearer.
            obtain ⟨max, bound⟩ := exists_max_of_empty tameElement built adds.leaves.symm
            have fewer := room max bound
            rw [List.length_nil, Nat.zero_add] at count'
            rw [count', bound, Option.getD_some] at enough
            exact ends.copies element tameElement rank near (count + 1) branch tried
              (by rw [bound, Option.getD_some]; omega)
        | cons item items =>
            rw [List.length_cons] at count'
            have spare := setting.grammar.level_lt_token
              (show left setting tried < left setting middle by omega) rank
            exact ends.copies element tameElement _ anyRank (count + 1) branch tried (by omega)
    | error halt =>
        cases halt with
        | mismatch diagnostic =>
            apply (ensures_recover diagnostic).bind
            · rintro ⟨⟩ recovered ⟨token, course⟩
              have count' := left_of_course course
              have tried' := left_of_course parsed.2
              rw [List.length_singleton] at count'
              rw [List.length_nil] at tried'
              have spare := setting.grammar.level_lt_token
                (show left setting recovered < left setting middle by omega) rank
              exact ends.copies element tameElement _ anyRank count parent recovered (by omega)
            · rintro halt after rfl
              simp
        | abort => simp [ensures_throw]
        | unfinished => exact absurd rfl finished
  · rw [Finishes, ensures_pure]
    simp

theorem ends_elements (row : List ResolvedElement)
    (tameRow : ∀ element ∈ row, setting.grammar.TameElement element)
    (width : row.length ≤ widest setting.grammar) (rank : Nat)
    (near : setting.grammar.Near rank row) (parent : Branch) (before : Parser σ)
    (enough : setting.grammar.level (left setting before) rank + row.length +
      mostCopies setting.grammar + 3 ≤ fuel + 1) :
    Finishes (elements setting (fuel + 1) row parent) before := by
  cases row with
  | nil =>
      unfold elements
      rw [Finishes, ensures_pure]
      simp
  | cons element rest =>
      have tameElement := tameRow element (List.mem_cons_self ..)
      have tameRest : ∀ other ∈ rest, setting.grammar.TameElement other :=
        fun other member => tameRow other (List.mem_cons_of_mem _ member)
      have most := tameElement.copies
      rw [List.length_cons] at width enough
      unfold elements
      refine (ends.copies element tameElement rank near.head 0 parent before (by omega)).bind
        ((soundAt tame.allUsable fuel).copies element tameElement.usable 0 parent before) ?_
      rintro branch middle ⟨items, nodes, adds, derived, _⟩
      have count := left_of_course adds.course
      cases items with
      | nil =>
          rw [List.length_nil, Nat.zero_add] at count
          rw [count] at enough
          have skippable := isSkippable_of_derived derived adds.leaves.symm
          exact ends.elements rest tameRest (by omega) rank (near.tail skippable) branch middle
            (by omega)
      | cons item items =>
          rw [List.length_cons] at count
          have spare := setting.grammar.level_lt_token
            (show left setting middle < left setting before by omega) rank
          have anyRow : setting.grammar.Near (setting.grammar.rules.length + 1) rest :=
            fun _ _ _ _ _ next _ => setting.grammar.rank_lt next
          exact ends.elements rest tameRest (by omega) _ anyRow branch middle (by omega)

theorem ends_alternatives {id : RuleId} {found : ResolvedRule}
    (lookup : setting.grammar.rule? id = some found) (parent : Branch) (before : Parser σ)
    (enough : setting.grammar.level (left setting before) (setting.grammar.table.rank id) +
      widest setting.grammar + mostCopies setting.grammar + 4 ≤ fuel + 1) :
    Finishes (alternatives setting (fuel + 1) found parent) before := by
  obtain ⟨member, _⟩ := Grammar.mem_of_rule? lookup
  unfold alternatives
  apply ensures_inside
  · intro _ after _
    simp
  · intro entered quiet
    apply (ensures_choose found).bind
    · rintro ⟨index, depth⟩ middle ⟨course, _⟩
      dsimp only
      cases present : found.alternatives[index]? with
      | none =>
          apply ensures_fail.mono
          rintro outcome after ⟨rfl, _⟩ last _
          simp
      | some row =>
          have chosen : row ∈ found.alternatives := List.mem_of_getElem? present
          have recorded := (quiet.course.trans course).trans
            (Quiet.course (quiet_record (.alternative found.id index depth) rfl))
          have same := left_of_course recorded
          simp only [List.append_nil, List.length_nil, Nat.zero_add] at same
          have width := tame.width found member row chosen
          have near : setting.grammar.Near (setting.grammar.table.rank id) row := by
            intro front element rest shape skippable next symbol
            exact tame.ranks id found lookup front element rest (shape ▸ chosen) skippable next
              symbol
          rw [same] at enough
          rw [ensures_bind, ensures_record]
          refine (ends.elements row (tame.elements found member row chosen) width _ near parent _
            (by omega)).mono ?_
          intro outcome after finished _ _
          exact finished
    · intro halt after reached last _ same
      obtain rfl := Except.error.inj same
      cases reached

theorem ends_rule {id : RuleId} {found : ResolvedRule}
    (lookup : setting.grammar.rule? id = some found) (before : Parser σ)
    (enough : setting.grammar.level (left setting before) (setting.grammar.table.rank id) +
      widest setting.grammar + mostCopies setting.grammar + 5 ≤ fuel + 1) :
    Finishes (rule setting (fuel + 1) id) before := by
  obtain ⟨member, _⟩ := Grammar.mem_of_rule? lookup
  have entering : ∀ node, Ensures (enter setting node) before
      (Rests setting.grammar.vocabulary setting.listener.Keeps () before) := ensures_enter
  unfold rule
  rw [lookup]
  dsimp only
  refine (Finishes.of_rests (entering _)).bind (entering _) ?_
  intro _ entered rests
  have same := left_of_course rests.course
  rw [List.length_nil, Nat.zero_add] at same
  rw [same] at enough
  refine (ends.alternatives lookup _ entered (by omega)).bind
    ((soundAt tame.allUsable fuel).alternatives found member _ entered) ?_
  intro branch parsed _
  exact Finishes.of_rests (ensures_exit _)

theorem ends_symbol (target : Symbol) (known : ∀ id, target = .token id →
      ∃ pattern, setting.grammar.vocabulary.find? id = some pattern) (rank : Nat)
    (near : ∀ next, target = .rule next → setting.grammar.table.rank next < rank)
    (parent : Branch) (before : Parser σ)
    (enough : setting.grammar.level (left setting before) rank + 1 ≤ fuel + 1) :
    Finishes (symbol setting (fuel + 1) target parent) before := by
  cases target with
  | token id =>
      obtain ⟨pattern, found⟩ := known id rfl
      unfold symbol
      apply (ensures_token found parent).mono
      rintro outcome after reached rfl
      cases reached
  | rule id =>
      have below := setting.grammar.level_lt_rank (left setting before) (near id rfl)
      unfold symbol
      cases lookup : setting.grammar.rule? id with
      | none =>
          apply ensures_fail.mono
          rintro outcome after ⟨rfl, _⟩
          simp
      | some found =>
          dsimp only
          split
          · exact ends.alternatives lookup parent before (by omega)
          · rename_i isDeclared
            refine (ends.rule lookup before (by omega)).bind
              ((soundAt tame.allUsable fuel).rule lookup (Bool.eq_false_iff.mpr isDeclared)
                before) ?_
            rintro kept middle ⟨items, node, _, _, keeps, _⟩
            exact Finishes.of_rests (ensures_attach parent node kept keeps)

end

/-- Fuel that reaches the level is enough. -/
theorem endsAt (tame : setting.grammar.Tame) (fuel : Nat) : EndsAt setting fuel := by
  induction fuel with
  | zero =>
      constructor
      · intro _ _ _ _ enough
        omega
      · intro _ _ _ _ _ enough
        omega
      · intro _ _ _ _ _ _ _ enough
        omega
      · intro _ _ _ _ _ _ _ enough
        omega
      · intro _ _ _ _ _ _ enough
        omega
  | succ fuel ih =>
      exact ⟨ends_rule tame ih, ends_alternatives tame ih, ends_elements tame ih,
        ends_copies tame ih, ends_symbol tame ih⟩

/-! ## The start production -/

/-- Each time the start production is tried again a token has been skipped. -/
theorem finishes_root (tame : setting.grammar.Tame) {found : ResolvedRule}
    (lookup : setting.grammar.rule? setting.grammar.start = some found)
    (isDeclared : found.isAuxiliary = false) {steps : Nat} (fuel : Nat) (before : Parser σ)
    (enoughSteps : setting.grammar.level (left setting before) (setting.grammar.rules.length + 1) +
      widest setting.grammar + mostCopies setting.grammar + 8 ≤ steps)
    (enough : left setting before < fuel) : Finishes (root setting steps fuel) before := by
  induction fuel generalizing before with
  | zero => omega
  | succ fuel ih =>
      have rank := setting.grammar.level_lt_rank (left setting before)
        (setting.grammar.rank_lt setting.grammar.start)
      unfold root
      rw [Finishes, ensures_bind, ensures_attempt]
      refine (((endsAt tame steps).rule lookup before (by omega)).and
        ((soundAt tame.allUsable steps).rule lookup isDeclared before)).mono ?_
      rintro outcome middle ⟨finished, parsed⟩
      cases outcome with
      | ok kept =>
          dsimp only
          rw [ensures_bind, ensures_discard]
          apply ensures_checkEnd.mono
          intro _ _ _
          simp [ensures_pure]
      | error halt =>
          cases halt with
          | mismatch diagnostic =>
              apply (ensures_recover diagnostic).bind
              · rintro ⟨⟩ recovered ⟨token, course⟩
                have tried := left_of_course parsed
                have skipped := left_of_course course
                rw [List.length_nil] at tried
                rw [List.length_singleton] at skipped
                have fewer : left setting recovered < left setting before := by omega
                have spare :=
                  setting.grammar.level_lt_token fewer (setting.grammar.rules.length + 1)
                exact ih recovered (by omega) (by omega)
              · rintro halt after rfl
                simp
          | abort => simp [ensures_throw]
          | unfinished => exact absurd rfl finished

theorem left_le_tokenBound (parser : Parser σ) : left setting parser ≤ parser.tokenBound := by
  unfold left upcoming tokenBound
  rw [List.length_append]
  have bound := Scanner.length_delivered_le setting.grammar.vocabulary parser.scanner
  split
  · simp
  · omega

section

variable {declaration : Ebnf.Declaration} {grammar : Grammar}
  (from' : BuiltFrom declaration grammar) (same : setting.grammar = grammar)

include from' same

theorem finishes_of_build (parser : Parser σ) :
    Finishes (root setting (parser.stepBound setting.grammar) (parser.tokenBound + 2)) parser := by
  subst same
  obtain ⟨found, lookup, isDeclared⟩ := exists_start from'
  have bound : left setting parser ≤ parser.tokenBound := left_le_tokenBound parser
  have total : parser.stepBound setting.grammar =
      setting.grammar.level (parser.tokenBound + 2) 0 := by
    simp [stepBound, level, stretch, layer, Nat.mul_assoc]
  have spare := setting.grammar.level_lt_token
    (show left setting parser < parser.tokenBound + 2 by omega) 0
  apply finishes_root from'.tame lookup isDeclared
  · rw [total]
    exact spare
  · omega

/-- A parse with a grammar that is built comes to an end within its bound on steps,
whatever the input, the listener and the limits. -/
theorem parse_ne_unfinished (parser : Parser σ) : (parse setting parser).2 ≠ .unfinished := by
  have finishes := finishes_of_build from' same parser.prepare
  unfold Finishes Ensures at finishes
  unfold parse
  dsimp only
  generalize (root setting _ _).run.run parser.prepare = result at finishes
  obtain ⟨outcome, last⟩ := result
  match outcome with
  | .ok node =>
      dsimp only
      split <;> simp
  | .error .unfinished => exact absurd rfl finishes
  | .error (.mismatch _) =>
      dsimp only
      split <;> simp
  | .error .abort =>
      dsimp only
      split <;> simp

end

end Parser

end StrongLL
