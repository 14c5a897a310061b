import StrongLL.Proofs.Parser.Termination

/-!
# What is guided is parsed

A tree whose derivation is guided by what is ahead is what the parser comes back with. A
run of the descent is followed along the derivation: no step on it reports anything.
-/

namespace StrongLL

/-- No limit is set that could end a parse, and the listener keeps all nodes. -/
structure Setting.Unlimited {σ : Type} (setting : Setting σ) : Prop where
  keeps : setting.listener.Keeps
  recursion : setting.limits.recursion = none
  execution : setting.limits.execution = none

namespace Parser

open RuleTable

variable {σ α β : Type} {setting : Setting σ} {before after : Parser σ}

/-- Nothing is logged, and some tokens, without any lexical error, are to come. -/
structure Clean (setting : Setting σ) (input : List Token) (parser : Parser σ) : Prop where
  upcoming : parser.upcoming setting.grammar.vocabulary = input
  faults : parser.faults setting.grammar.vocabulary = []
  log : parser.log = []

/-- A step comes to a value, with some tokens still to come and nothing logged, unless its
fuel is used up. -/
def Succeeds (setting : Setting σ) (step : Parse σ α) (before : Parser σ) (value : α)
    (behind : List Token) : Prop :=
  Ensures step before fun outcome after =>
    outcome = .error .unfinished ∨ outcome = .ok value ∧ Clean setting behind after

section

variable {input behind : List Token} {step : Parse σ α} {value : α}

/-- Taking tokens leaves the others to come. -/
theorem Clean.course {items : List Taken} (clean : Clean setting input before)
    (course : Course setting.grammar.vocabulary before items after)
    (log : after.log = before.log) (tokens : input = items.map (·.token) ++ behind) :
    Clean setting behind after where
  upcoming := by
    have same : items.map (·.token) ++ after.upcoming setting.grammar.vocabulary =
        items.map (·.token) ++ behind := by
      rw [← course.upcoming, clean.upcoming, tokens]
    exact List.append_cancel_left same
  faults := List.suffix_nil.mp (clean.faults ▸ course.faults)
  log := log.trans clean.log

theorem Clean.quiet (clean : Clean setting input before) (quiet : Quiet before after) :
    Clean setting input after :=
  clean.course quiet.course quiet.log rfl

theorem succeeds_pure (clean : Clean setting input before) :
    Succeeds setting (pure value) before value input :=
  .inr ⟨rfl, clean⟩

/-- Where the fuel is used up the steps behind are not taken. -/
theorem Succeeds.bind {next : α → Parse σ β} {other : β} {rest : List Token}
    (first : Succeeds setting step before value behind)
    (more : ∀ middle, Clean setting behind middle →
      Succeeds setting (next value) middle other rest) :
    Succeeds setting (step >>= next) before other rest := by
  apply Ensures.bind first
  · intro found middle reached
    obtain never | ⟨answer, clean⟩ := reached
    · cases never
    · obtain rfl := Except.ok.inj answer
      exact more middle clean
  · intro halt middle reached
    obtain answer | ⟨never, _⟩ := reached
    · exact .inl (by rw [Except.error.inj answer])
    · cases never

/-- A step whose outcome is looked at succeeds if going on from its value does. -/
theorem Succeeds.attempt_bind {next : Except Halt α → Parse σ β} {other : β}
    {rest : List Token} (first : Succeeds setting step before value behind)
    (more : ∀ middle, Clean setting behind middle →
      Succeeds setting (next (.ok value)) middle other rest)
    (unfinished : next (.error .unfinished) = throw .unfinished) :
    Succeeds setting (attempt step >>= next) before other rest := by
  unfold Succeeds
  rw [ensures_bind, ensures_attempt]
  apply first.mono
  intro outcome middle reached
  obtain rfl | ⟨rfl, clean⟩ := reached
  · dsimp only
    rw [unfinished]
    exact .inl rfl
  · exact more middle clean

theorem Succeeds.of_rests {sure : Prop} (clean : Clean setting input before) (holds : sure)
    (rests : Ensures step before (Rests setting.grammar.vocabulary sure value before)) :
    Succeeds setting step before value input := by
  apply rests.mono
  intro outcome after reached
  obtain ⟨answer, log⟩ := reached.answers holds
  exact .inr ⟨answer, clean.course reached.course log rfl⟩

theorem Succeeds.of_reads (clean : Clean setting input before)
    (reads : Ensures step before (Reads setting.grammar.vocabulary value before)) :
    Succeeds setting step before value input :=
  .of_rests clean clean.faults (reads.mono fun _ _ => Reads.toRests)

theorem succeeds_record {event : TraceEvent} (clean : Clean setting input before)
    (silent : event.taken? = none) : Succeeds setting (record event) before () input :=
  .inr ⟨rfl, clean.quiet (quiet_record event silent)⟩

end

/-! ## The steps of the descent -/

section

variable {input behind : List Token}

/-- A token of the right kind is taken. -/
theorem succeeds_token (unlimited : setting.Unlimited) {next : Token} {pattern : Pattern}
    (known : setting.grammar.vocabulary.find? next.id = some pattern)
    (clean : Clean setting (next :: behind) before) (parent : Branch) :
    Succeeds setting (token setting next.id parent) before
      (parent.add [.leaf next pattern.name]) behind := by
  unfold token
  apply (ensures_peek 0).bind
  · intro found middle reached
    obtain ⟨reads, buffered⟩ := reached
    obtain ⟨answer, log⟩ := reads.answers clean.faults
    rw [clean.upcoming, List.getElem?_cons_zero] at answer
    obtain rfl := Except.ok.inj answer
    have ready := clean.course reads.course log rfl
    obtain ⟨rest, shape⟩ := exists_cons_of_getElem?_zero (buffered _ rfl).1
    dsimp only
    rw [if_neg (not_not.mpr rfl)]
    apply (ensures_consume shape).bind
    · intro taken consumed reached
      obtain ⟨answer, course, log⟩ | ⟨never, _⟩ := reached
      · obtain rfl := Except.ok.inj answer
        rw [known]
        have left : Clean setting behind consumed := ready.course course log rfl
        exact Succeeds.of_rests left unlimited.keeps (ensures_leaf parent _)
      · cases never
    · intro halt consumed reached
      obtain ⟨never, _⟩ | ⟨_, _, limited⟩ := reached
      · cases never
      · exact absurd unlimited.execution limited
  · intro halt middle reached
    cases (reached.1.answers clean.faults).1

/-- The alternative that is decided for is found. -/
theorem succeeds_choose {rule : ResolvedRule} {index : Nat}
    (clean : Clean setting input before) (chosen : rule.choice? input = some index) :
    ∃ depth, Succeeds setting (choose setting rule) before (index, depth) input := by
  unfold choose
  unfold ResolvedRule.choice? at chosen
  cases made : rule.decision with
  | none =>
      rw [made] at chosen
      obtain rfl := Option.some.inj chosen
      exact ⟨0, succeeds_pure clean⟩
  | some decision =>
      rw [made] at chosen
      refine ⟨decision.depth, (Succeeds.of_reads clean (ensures_lookAhead _ 0)).bind ?_⟩
      intro middle ready
      rw [List.drop_zero, clean.upcoming]
      have selected : decision.select (firstTerminals decision.depth (input.map (·.id))) =
          some index := chosen
      rw [selected]
      exact succeeds_pure ready

/-- A step inside a production succeeds if it does alone. -/
theorem succeeds_inside (unlimited : setting.Unlimited) {rule : RuleId} {step : Parse σ α}
    {value : α} (clean : Clean setting input before)
    (inner : ∀ middle, Clean setting input middle → Succeeds setting step middle value behind) :
    Succeeds setting (inside setting rule step) before value behind := by
  apply ensures_inside
  · intro limited
    exact absurd unlimited.recursion limited
  · intro middle quiet
    apply (inner middle (clean.quiet quiet)).mono
    intro outcome last reached after left
    obtain unfinished | ⟨answer, ready⟩ := reached
    · exact .inl unfinished
    · exact .inr ⟨answer, ready.quiet left⟩

end

/-! ## Along a derivation -/

/-- The call that a task is left to. -/
def perform (setting : Setting σ) (fuel : Nat) (parent : Branch) : Task → Parse σ Branch
  | .symbol target => symbol setting fuel target parent
  | .copies element count => copies setting fuel element count parent
  | .row row => elements setting fuel row parent

/-- A task is parsed to some nodes wherever their leaves are to come. -/
def Performs (setting : Setting σ) (task : Task) (nodes : List Node) (behind : List Token) :
    Prop :=
  ∀ fuel parent before, Clean setting (Node.leavesOf nodes ++ behind) before →
    Succeeds setting (perform setting fuel parent task) before (parent.add nodes) behind

/-- Without fuel nothing is promised. -/
theorem performs_of_succ {task : Task} {nodes : List Node} {behind : List Token}
    (more : ∀ fuel parent before, Clean setting (Node.leavesOf nodes ++ behind) before →
      Succeeds setting (perform setting (fuel + 1) parent task) before (parent.add nodes)
        behind) : Performs setting task nodes behind := by
  intro fuel parent before clean
  cases fuel with
  | zero =>
      cases task with
      | symbol target => exact .inl rfl
      | copies element count => exact .inl rfl
      | row elements => exact .inl rfl
  | succ fuel => exact more fuel parent before clean

section

variable {id : RuleId} {found : ResolvedRule} {index : Nat} {row : List ResolvedElement}
  {nodes : List Node} {behind : List Token} (unlimited : setting.Unlimited)
  (present : found.alternatives[index]? = some row)
  (chosen : found.choice? (Node.leavesOf nodes ++ behind) = some index)
  (inner : Performs setting (.row row) nodes behind)

include unlimited present chosen inner

theorem succeeds_alternatives (fuel : Nat) (parent : Branch)
    (clean : Clean setting (Node.leavesOf nodes ++ behind) before) :
    Succeeds setting (alternatives setting fuel found parent) before (parent.add nodes)
      behind := by
  cases fuel with
  | zero => exact .inl rfl
  | succ fuel =>
      unfold alternatives
      apply succeeds_inside unlimited clean
      intro entered ready
      obtain ⟨depth, choice⟩ := succeeds_choose ready chosen
      apply choice.bind
      intro decided ready
      dsimp only
      rw [present]
      apply (succeeds_record ready rfl).bind
      intro recorded ready
      exact inner fuel parent recorded ready

theorem succeeds_rule (lookup : setting.grammar.rule? id = some found) (fuel : Nat)
    (clean : Clean setting (Node.leavesOf nodes ++ behind) before) :
    Succeeds setting (rule setting fuel id) before (some (.branch id found.name nodes))
      behind := by
  cases fuel with
  | zero => exact .inl rfl
  | succ fuel =>
      unfold rule
      rw [lookup]
      have entering : Ensures (enter setting (.branch id found.name [])) before
          (Rests setting.grammar.vocabulary setting.listener.Keeps () before) := ensures_enter _
      apply (Succeeds.of_rests clean unlimited.keeps entering).bind
      intro entered ready
      apply (succeeds_alternatives unlimited present chosen inner fuel _ ready).bind
      intro parsed left
      exact Succeeds.of_rests left unlimited.keeps (ensures_exit (.branch id found.name nodes))

end

section

variable {behind : List Token}

/-- A copy is taken where one is wanted. -/
theorem performs_oneMore {element : ResolvedElement} {count : Nat} {first others : List Node}
    (goesOn : element.wants count (Node.leavesOf (first ++ others) ++ behind) = true)
    (copy : Performs setting (.symbol element.symbol) first (Node.leavesOf others ++ behind))
    (more : Performs setting (.copies element (count + 1)) others behind) :
    Performs setting (.copies element count) (first ++ others) behind := by
  apply performs_of_succ
  intro fuel parent before clean
  have decides := Succeeds.of_reads clean (ensures_wantsMore element count)
  rw [clean.upcoming, goesOn] at decides
  unfold perform copies
  apply decides.bind
  intro decided ready
  rw [if_pos rfl]
  rw [leavesOf_append, List.append_assoc] at ready
  apply (copy fuel parent decided ready).attempt_bind
  · intro copied left
    rw [← Branch.add_add]
    exact more fuel _ copied left
  · rfl

theorem performs_enough {element : ResolvedElement} {count : Nat}
    (stops : element.wants count behind = false) :
    Performs setting (.copies element count) [] behind := by
  apply performs_of_succ
  intro fuel parent before clean
  have decides := Succeeds.of_reads clean (ensures_wantsMore element count)
  have ahead : before.upcoming setting.grammar.vocabulary = behind := clean.upcoming
  rw [ahead, stops] at decides
  unfold perform copies
  apply decides.bind
  intro decided ready
  rw [if_neg Bool.false_ne_true, Branch.add_nil]
  exact succeeds_pure ready

end

/-- The parser follows a guided derivation. -/
theorem performs_of_guided (unlimited : setting.Unlimited) {task : Task} {nodes : List Node}
    {behind : List Token} (guided : setting.grammar.Guided task nodes behind) :
    Performs setting task nodes behind := by
  induction guided with
  | token found kind =>
      apply performs_of_succ
      intro fuel parent before clean
      subst kind
      unfold perform symbol
      exact succeeds_token unlimited found clean parent
  | @declared id found index row children behind lookup isDeclared chosen present inner ih =>
      apply performs_of_succ
      intro fuel parent before clean
      unfold perform symbol
      dsimp only
      rw [lookup]
      dsimp only
      rw [isDeclared, if_neg Bool.false_ne_true]
      rw [Node.leavesOf, Node.leaves, Node.leavesOf, List.append_nil] at clean
      apply (succeeds_rule unlimited present chosen ih lookup fuel clean).bind
      intro parsed ready
      exact .of_rests ready unlimited.keeps (ensures_attach parent _ _ fun _ => rfl)
  | @auxiliary id found index row nodes behind lookup isAuxiliary chosen present inner ih =>
      apply performs_of_succ
      intro fuel parent before clean
      unfold perform symbol
      dsimp only
      rw [lookup]
      dsimp only
      rw [if_pos isAuxiliary]
      exact succeeds_alternatives unlimited present chosen ih fuel parent clean
  | enough stops => exact performs_enough stops
  | oneMore goesOn copy more copyIH moreIH => exact performs_oneMore goesOn copyIH moreIH
  | nothing =>
      apply performs_of_succ
      intro fuel parent before clean
      unfold perform elements
      rw [Branch.add_nil]
      exact succeeds_pure clean
  | @element element rest first others behind copies more copiesIH moreIH =>
      apply performs_of_succ
      intro fuel parent before clean
      unfold perform elements
      rw [leavesOf_append, List.append_assoc] at clean
      apply (copiesIH fuel parent before clean).bind
      intro copied ready
      rw [← Branch.add_add]
      exact moreIH fuel _ copied ready

/-! ## Whole parses -/

/-- Where no more tokens are to come there is nothing to report at the end. -/
theorem ensures_checkEnd_clean (clean : Clean setting [] before) :
    Ensures (checkEnd setting) before fun _ after => Clean setting [] after := by
  unfold checkEnd
  apply (ensures_peek 0).bind
  · intro found middle reached
    obtain ⟨reads, _⟩ := reached
    obtain ⟨answer, log⟩ := reads.answers clean.faults
    rw [clean.upcoming] at answer
    obtain rfl := Except.ok.inj answer
    exact clean.course reads.course log rfl
  · intro halt middle reached
    cases (reached.1.answers clean.faults).1

/-- The start production is parsed to a tree whose derivation is guided. -/
theorem succeeds_root (unlimited : setting.Unlimited) {found : ResolvedRule}
    (lookup : setting.grammar.rule? setting.grammar.start = some found)
    (isDeclared : found.isAuxiliary = false) {tree : Node}
    (guided : setting.grammar.IsGuided tree) (clean : Clean setting tree.leaves before)
    (steps fuel : Nat) : Succeeds setting (root setting steps fuel) before (some tree) [] := by
  cases fuel with
  | zero => exact .inl rfl
  | succ fuel =>
      have parses : Succeeds setting (rule setting steps setting.grammar.start) before
          (some tree) [] := by
        cases guided with
        | @declared _ other _ _ children _ same _ chosen present inner =>
            obtain rfl := Option.some.inj (lookup.symm.trans same)
            have performs := performs_of_guided unlimited inner
            rw [Node.leaves, ← List.append_nil (Node.leavesOf children)] at clean
            exact succeeds_rule unlimited present chosen performs lookup steps clean
        | auxiliary same isAuxiliary =>
            obtain rfl := Option.some.inj (lookup.symm.trans same)
            rw [isDeclared] at isAuxiliary
            cases isAuxiliary
      unfold root
      apply parses.attempt_bind
      · intro parsed ready
        unfold Succeeds
        rw [ensures_bind, ensures_discard]
        apply (ensures_checkEnd_clean ready).mono
        intro _ ended left
        exact succeeds_pure left
      · rfl

section

variable {declaration : Ebnf.Declaration} {grammar : Grammar}

/-- With neither limits nor errors a tree is parsed if its derivation is guided, and only
then. -/
theorem parse_eq_parsed_iff_isGuided (from' : Grammar.BuiltFrom declaration grammar)
    (same : setting.grammar = grammar) (unlimited : setting.Unlimited) {parser : Parser σ}
    {tree : Node} (clean : Clean setting tree.leaves parser.prepare) :
    (parse setting parser).2 = .parsed (some tree) ↔ grammar.IsGuided tree := by
  constructor
  · intro parsed
    obtain ⟨last, ran, empty, _⟩ := parse_eq_parsed_iff.mp (Prod.ext rfl parsed)
    have ensures := root_of_build from' same (parser.prepare.stepBound setting.grammar)
      (parser.prepare.tokenBound + 2) parser.prepare
    unfold Ensures at ensures
    rw [ran] at ensures
    obtain ⟨items, node, _, _, keeps, _, ended⟩ := ensures
    obtain rfl := Option.some.inj (keeps unlimited.keeps)
    have warned : parser.prepare.Warned := fun recovering =>
      absurd recovering (Nat.lt_irrefl 0)
    exact same ▸ (ended warned empty).1
  · intro guided
    have finishes := finishes_of_build from' same parser.prepare
    obtain ⟨found, lookup, isDeclared⟩ := exists_start from'
    subst same
    have succeeds := succeeds_root unlimited lookup isDeclared guided clean
      (parser.prepare.stepBound setting.grammar) (parser.prepare.tokenBound + 2)
    obtain unfinished | ⟨answer, left⟩ := succeeds
    · exact absurd unfinished finishes
    · have parsed := parse_eq_parsed_iff.mpr ⟨_, Prod.ext answer rfl, left.log, rfl⟩
      exact congrArg Prod.snd parsed

theorem unlimited_treeBuilder (grammar : Grammar) :
    ({ grammar, listener := treeBuilder, limits := ⟨none, none, none⟩ } :
      Setting Unit).Unlimited :=
  ⟨treeBuilder_keeps, rfl, rfl⟩

theorem clean_of_tokens {text : String} {tokens : List Token} (listener : σ)
    (scanned : setting.grammar.vocabulary.tokens text = .ok tokens) :
    Clean setting tokens (Parser.ofSource (.ofString text) listener).prepare := by
  obtain ⟨delivered, faultless⟩ := Scanner.all_eq_ok_iff.mp scanned
  exact ⟨delivered, faultless, rfl⟩

/-- No two trees whose derivations are guided have the same leaves. -/
theorem eq_of_isGuided (from' : Grammar.BuiltFrom declaration grammar) {tree other : Node}
    (guided : grammar.IsGuided tree) (otherGuided : grammar.IsGuided other)
    (same : other.leaves = tree.leaves) : other = tree := by
  let setting : Setting Unit :=
    { grammar, listener := treeBuilder, limits := ⟨none, none, none⟩ }
  let parser : Parser Unit :=
    { Parser.ofSource (.ofString "") () with buffer := tree.leaves, exhausted := true }
  have clean : Clean setting tree.leaves parser.prepare :=
    ⟨List.append_nil tree.leaves, rfl, rfl⟩
  have unlimited := unlimited_treeBuilder grammar
  have first := (parse_eq_parsed_iff_isGuided from' rfl unlimited clean).mpr guided
  rw [← same] at clean
  have second := (parse_eq_parsed_iff_isGuided from' rfl unlimited clean).mpr otherGuided
  exact Option.some.inj (Outcome.parsed.inj (second.symm.trans first))

/-- With no limits a fresh parser comes back with a tree, on a text that is scanned to its
leaves, exactly if looking ahead makes each decision as the derivation of the tree does, and
of such trees no two have the same leaves. So all trees of the declared grammar are parsed
where all decisions cover what can be ahead. A decision does exactly if it is right on what
stands behind later copies only, and so in each production that stands below no element that
needs several copies. -/
theorem parse_complete (built : Grammar.build declaration = .ok grammar) :
    let setting : Setting Unit :=
      { grammar, listener := treeBuilder, limits := ⟨none, none, none⟩ }
    let outcome : String → Outcome := fun text =>
      (parse setting (.ofSource (.ofString text) ())).2
    (∀ tree text, grammar.vocabulary.tokens text = .ok tree.leaves →
        (outcome text = .parsed (some tree) ↔ grammar.IsGuided tree)) ∧
      (∀ tree other, grammar.IsGuided tree → grammar.IsGuided other →
        other.leaves = tree.leaves → other = tree) ∧
      ((∀ site decision, DecidesAt grammar.rules site decision →
          grammar.Covers site decision) →
        ∀ tree, Ebnf.IsTree declaration grammar.start tree →
          (∀ text, grammar.vocabulary.tokens text = .ok tree.leaves →
            outcome text = .parsed (some tree)) ∧
          ∀ other, Ebnf.IsTree declaration grammar.start other →
            other.leaves = tree.leaves → other = tree) ∧
      ∀ site decision, DecidesAt grammar.rules site decision →
        (grammar.Covers site decision ↔ ∀ branch sequence,
          site.Language grammar.table (· = grammar.start) anyCopy decision.depth branch
              sequence →
            ¬ site.Language grammar.table (grammar.table.IsRoot grammar.start) firstCopy
              decision.depth branch sequence →
            site.taken (decision.select sequence) = some branch) ∧
          (¬ grammar.table.BelowCount site.owner → grammar.Covers site decision) := by
  intro setting outcome
  have from' := Grammar.builtFrom_of_build built
  have parses : ∀ tree text, grammar.vocabulary.tokens text = .ok tree.leaves →
      (outcome text = .parsed (some tree) ↔ grammar.IsGuided tree) := by
    intro tree text scanned
    have unlimited : setting.Unlimited := unlimited_treeBuilder grammar
    exact parse_eq_parsed_iff_isGuided from' rfl unlimited (clean_of_tokens () scanned)
  refine ⟨parses, fun tree other => eq_of_isGuided from', ?_, ?_⟩
  · intro covers tree isTree
    have guided := Grammar.isGuided_of_isTree from' covers isTree
    constructor
    · intro text scanned
      exact (parses tree text scanned).mpr guided
    · intro other otherTree same
      exact eq_of_isGuided from' guided (Grammar.isGuided_of_isTree from' covers otherTree) same
  · intro site decision decidesAt
    exact ⟨Grammar.covers_iff from' decidesAt, Grammar.covers_of_free from' decidesAt⟩

/-- `S = "a"{1,3} "b"` -/
def boundedTokens : Ebnf.Declaration where
  patterns := [{ id := 0, name := "A", kind := .literal, text := "a" },
    { id := 1, name := "B", kind := .literal, text := "b" }]
  productions := [{ id := 0, name := "S", alternatives :=
    [[.token 0 ⟨1, some 3⟩, .token 1 .once]] }]

/-- The tree of `"aab"` -/
def boundedTokensTree : Node :=
  .branch 0 "S" [.leaf ⟨0, "a", ⟨1, 1, 0⟩⟩ "A", .leaf ⟨0, "a", ⟨1, 2, 1⟩⟩ "A",
    .leaf ⟨1, "b", ⟨1, 3, 2⟩⟩ "B"]

theorem admits_once {element : Ebnf.Element} (once : element.occurs = .once) :
    element.occurs.Admits 1 :=
  Occurs.admits_iff.mpr (by simp [once, Occurs.once])

/-- A token with copies of it behind -/
theorem builds_copies_token {id : TokenId} {occurs : Occurs} {image name : String}
    {position : Position} {count : Nat} {others : List Node}
    (named : (declaration.patterns.find? (·.id == id)).map (·.name) = some name)
    (more : Ebnf.Builds declaration (.copies (.token id occurs) count) others) :
    Ebnf.Builds declaration (.copies (.token id occurs) (count + 1))
      (.leaf ⟨id, image, position⟩ name :: others) := by
  obtain ⟨pattern, found, rfl⟩ := Option.map_eq_some_iff.mp named
  exact .oneMore (.token found rfl) more

theorem isTree_boundedTokensTree : Ebnf.IsTree boundedTokens 0 boundedTokensTree := by
  have many : Ebnf.Builds boundedTokens (.copies (.token 0 ⟨1, some 3⟩) 2)
      [.leaf ⟨0, "a", ⟨1, 1, 0⟩⟩ "A", .leaf ⟨0, "a", ⟨1, 2, 1⟩⟩ "A"] :=
    builds_copies_token rfl (builds_copies_token rfl (.noCopy _))
  have last : Ebnf.Builds boundedTokens (.copies (.token 1 .once) 1)
      [.leaf ⟨1, "b", ⟨1, 3, 2⟩⟩ "B"] := builds_copies_token rfl (.noCopy _)
  have twice : (Ebnf.Element.token 0 ⟨1, some 3⟩).occurs.Admits 2 :=
    Occurs.admits_iff.mpr (by simp [Ebnf.Element.occurs])
  exact .rule (List.mem_singleton.mpr rfl) (List.mem_singleton.mpr rfl)
    (.element twice many (.element (admits_once rfl) last .nothing))

/-- No element needs several copies. -/
theorem not_belowCount_boundedTokens (id : RuleId) :
    ¬ RuleTable.BelowCount (Flatten.table boundedTokens.productions) id := by
  rintro ⟨owner, alternative, chosen, element, inside, _, several, _, _⟩
  obtain ⟨rule, found, member⟩ := exists_rule_of_mem_alternatives chosen
  have fewer : ∀ rule ∈ Flatten.table boundedTokens.productions,
      ∀ alternative ∈ rule.alternatives, ∀ element ∈ alternative, element.occurs.min < 2 := by
    decide
  have less := fewer rule (List.mem_of_find?_eq_some found) alternative member element inside
  omega

theorem boundedTokens_complete : ∃ grammar, Grammar.build boundedTokens = .ok grammar ∧
    Ebnf.IsTree boundedTokens grammar.start boundedTokensTree ∧
      grammar.vocabulary.tokens "aab" = .ok boundedTokensTree.leaves ∧
        (parse ({ grammar, listener := treeBuilder, limits := ⟨none, none, none⟩ } :
          Setting Unit) (.ofSource (.ofString "aab") ())).2 = .parsed (some boundedTokensTree) := by
  have facts : ((Grammar.build boundedTokens).toOption.any fun grammar =>
      grammar.start = 0 ∧ (grammar.vocabulary.tokens "aab").toOption =
        some boundedTokensTree.leaves) = true := by
    decide +kernel
  obtain ⟨grammar, built, facts⟩ := exists_ok_of_any facts
  obtain ⟨start, scanned⟩ := of_decide_eq_true facts
  have scanned := toOption_eq_some.mp scanned
  have isTree : Ebnf.IsTree boundedTokens grammar.start boundedTokensTree :=
    start ▸ isTree_boundedTokensTree
  obtain ⟨_, _, complete, covered⟩ := parse_complete built
  have table := (Grammar.builtFrom_of_build built).table_eq
  have covers : ∀ site decision, DecidesAt grammar.rules site decision →
      grammar.Covers site decision := by
    intro site decision decidesAt
    apply (covered site decision decidesAt).2
    rw [table]
    exact not_belowCount_boundedTokens site.owner
  exact ⟨grammar, built, isTree, scanned, (complete covers _ isTree).1 "aab" scanned⟩

/-- `("a" ("x" | "y"?)){2}` -/
def letterCopies : Ebnf.Element :=
  .group [[.token 0 .once, .group [[.token 1 .once], [.token 2 .optional]] .once]] ⟨2, some 2⟩

/-- `S = ("a" ("x" | "y"?)){2} "c"`, with one terminal of look-ahead -/
def repeatedChoice : Ebnf.Declaration where
  patterns := [{ id := 0, name := "A", kind := .literal, text := "a" },
    { id := 1, name := "X", kind := .literal, text := "x" },
    { id := 2, name := "Y", kind := .literal, text := "y" },
    { id := 3, name := "C", kind := .literal, text := "c" }]
  productions := [{ id := 0, name := "S", alternatives := [[letterCopies, .token 3 .once]] }]
  maxLookAhead := 1

/-- The tree of `"aac"` -/
def repeatedChoiceTree : Node :=
  .branch 0 "S" [.leaf ⟨0, "a", ⟨1, 1, 0⟩⟩ "A", .leaf ⟨0, "a", ⟨1, 2, 1⟩⟩ "A",
    .leaf ⟨3, "c", ⟨1, 3, 2⟩⟩ "C"]

/-- An `"a"` with nothing behind it -/
theorem builds_shortCopy (position : Position) :
    Ebnf.Builds repeatedChoice (.unit letterCopies) [.leaf ⟨0, "a", position⟩ "A"] := by
  have skipped : (Ebnf.Element.token 2 .optional).occurs.Admits 0 :=
    Occurs.admits_iff.mpr (by simp [Ebnf.Element.occurs, Occurs.optional])
  have neither : Ebnf.Builds repeatedChoice (.row [.token 2 .optional]) [] :=
    .element skipped (.noCopy _) .nothing
  have choice : Ebnf.Builds repeatedChoice
      (.unit (.group [[.token 1 .once], [.token 2 .optional]] .once)) [] :=
    .group (by simp) neither
  have letter : Ebnf.Builds repeatedChoice (.copies (.token 0 .once) 1)
      [.leaf ⟨0, "a", position⟩ "A"] := builds_copies_token rfl (.noCopy _)
  exact .group (List.mem_singleton.mpr rfl) (.element (admits_once rfl) letter
    (.element (admits_once rfl) (.oneMore choice (.noCopy _)) .nothing))

theorem isTree_repeatedChoiceTree : Ebnf.IsTree repeatedChoice 0 repeatedChoiceTree := by
  have twice : letterCopies.occurs.Admits 2 :=
    Occurs.admits_iff.mpr (by simp [letterCopies, Ebnf.Element.occurs])
  have last : Ebnf.Builds repeatedChoice (.copies (.token 3 .once) 1)
      [.leaf ⟨3, "c", ⟨1, 3, 2⟩⟩ "C"] := builds_copies_token rfl (.noCopy _)
  have copies := Ebnf.Builds.oneMore (builds_shortCopy ⟨1, 1, 0⟩)
    (.oneMore (builds_shortCopy ⟨1, 2, 1⟩) (.noCopy _))
  exact .rule (List.mem_singleton.mpr rfl) (List.mem_singleton.mpr rfl)
    (.element twice copies (.element (admits_once rfl) last .nothing))

/-- Behind the second copy stands a `"c"`, which the decision in it does not know of. -/
theorem repeatedChoice_rejected : ∃ grammar, Grammar.build repeatedChoice = .ok grammar ∧
    Ebnf.IsTree repeatedChoice grammar.start repeatedChoiceTree ∧
      grammar.vocabulary.tokens "aac" = .ok repeatedChoiceTree.leaves ∧
        (parse ({ grammar, listener := treeBuilder, limits := ⟨none, none, none⟩ } :
          Setting Unit) (.ofSource (.ofString "aac") ())).2 ≠
            .parsed (some repeatedChoiceTree) := by
  have facts : ((Grammar.build repeatedChoice).toOption.any fun grammar =>
      (grammar.start = 0 ∧ (grammar.vocabulary.tokens "aac").toOption =
        some repeatedChoiceTree.leaves) &&
      (parse ({ grammar, listener := treeBuilder, limits := ⟨none, none, none⟩ } :
        Setting Unit) (.ofSource (.ofString "aac") ())).2 matches .failed _) = true := by
    decide +kernel
  obtain ⟨grammar, built, facts⟩ := exists_ok_of_any facts
  obtain ⟨facts, fails⟩ := Bool.and_eq_true_iff.mp facts
  obtain ⟨start, scanned⟩ := of_decide_eq_true facts
  refine ⟨grammar, built, start ▸ isTree_repeatedChoiceTree, toOption_eq_some.mp scanned, ?_⟩
  intro parsed
  rw [parsed] at fails
  cases fails

end

end Parser

end StrongLL
