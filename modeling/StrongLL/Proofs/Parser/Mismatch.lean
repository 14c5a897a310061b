import StrongLL.Proofs.Grammar
import StrongLL.Proofs.LookAhead.Mismatch
import StrongLL.Proofs.Parser.Reading

/-!
# What is reported of a mismatch

Where a decision of a grammar has no branch for what is ahead, the report names the first
terminal with which no branch goes on behind what branches share, and lists just the tokens with
which branches go on, in the order in which their patterns are declared.
-/

namespace StrongLL

namespace Parser

variable {σ : Type} {setting : Setting σ} {before : Parser σ}

/-! ## Looking ahead fills the buffer -/

/-- What is in the buffer, or behind the end of input, is not fetched. -/
theorem ensures_fetch_there {index fuel : Nat} {post : Except Halt Unit → Parser σ → Prop}
    (there : index < before.buffer.length ∨ before.exhausted = true)
    (holds : post (.ok ()) before) : Ensures (fetch setting index (fuel + 1)) before post := by
  unfold fetch
  simp only [ensures_bind, ensures_get]
  rw [if_pos (by simpa using there)]
  exact holds

/-- A token that is missing is asked for. Fetching goes on behind the scan, unless this gives an
error from which the parse cannot recover, or an error for which it is cut short. -/
theorem ensures_fetch_step {index fuel : Nat} {post : Except Halt Unit → Parser σ → Prop}
    (missing : before.buffer.length ≤ index) (more : before.exhausted = false)
    (next : (∀ diagnostic, (before.scanner.next setting.grammar.vocabulary).2 = .error diagnostic →
        diagnostic.isRecoverable = true) →
      Ensures (fetch setting index fuel) (scanned setting.grammar.vocabulary before) post)
    (cut : post (.error .abort) (scanned setting.grammar.vocabulary before)) :
    Ensures (fetch setting index (fuel + 1)) before post := by
  unfold fetch
  simp only [ensures_bind, ensures_get]
  rw [if_neg (by simp [more, missing])]
  revert next cut
  unfold scanned
  match before.scanner.next setting.grammar.vocabulary with
  | (scanner, .ok (some token)) => exact fun next _ => next nofun
  | (scanner, .ok none) => exact fun next _ => next nofun
  | (scanner, .error diagnostic) =>
      intro next cut
      simp only [ensures_bind, ensures_set]
      apply ((ensures_report_eq diagnostic true).and
        (ensures_report_recoverable diagnostic true)).mono
      rintro outcome middle ⟨⟨rfl | rfl, rfl⟩, goesOn⟩
      · exact next fun _ same => Except.error.inj same ▸ goesOn rfl
      · exact cut

/-- What a scan keeps is kept by fetching tokens. -/
theorem ensures_fetch_keeps {invariant : Parser σ → Prop}
    (kept : ∀ parser, parser.exhausted = false → invariant parser →
      invariant (scanned setting.grammar.vocabulary parser))
    (index fuel : Nat) (start : invariant before) :
    Ensures (fetch setting index fuel) before fun _ after => invariant after := by
  induction fuel generalizing before with
  | zero => exact start
  | succ fuel ih =>
      by_cases there : index < before.buffer.length ∨ before.exhausted = true
      · exact ensures_fetch_there there start
      · rw [not_or, Bool.not_eq_true] at there
        have still := kept before there.2 start
        exact ensures_fetch_step (Nat.le_of_not_lt there.1) there.2 (fun _ => ih still) still

theorem ensures_peek_keeps {invariant : Parser σ → Prop}
    (kept : ∀ parser, parser.exhausted = false → invariant parser →
      invariant (scanned setting.grammar.vocabulary parser))
    (index : Nat) (start : invariant before) :
    Ensures (peek setting index) before fun _ after => invariant after := by
  unfold peek
  rw [ensures_bind, ensures_get]
  exact (ensures_fetch_keeps kept index _ start).bind (fun _ _ still => still)
    fun _ _ still => still

theorem ensures_lookAhead_keeps {invariant : Parser σ → Prop}
    (kept : ∀ parser, parser.exhausted = false → invariant parser →
      invariant (scanned setting.grammar.vocabulary parser))
    (depth index : Nat) (start : invariant before) :
    Ensures (lookAhead setting depth index) before fun _ after => invariant after := by
  induction depth generalizing before index with
  | zero => exact start
  | succ depth ih =>
      unfold lookAhead
      apply (ensures_peek_keeps kept index start).bind
      · intro found middle still
        cases found with
        | none => exact still
        | some token =>
            exact (ih (index + 1) still).bind (fun _ _ still => still) fun _ _ still => still
      · exact fun _ _ still => still

/-- A scan leaves what is buffered in front. -/
theorem buffer_scanned (vocabulary : Vocabulary) (parser : Parser σ) :
    parser.buffer <+: (scanned vocabulary parser).buffer := by
  unfold scanned
  dsimp only
  split
  · exact List.prefix_append _ _
  · exact List.prefix_refl _
  · exact List.prefix_refl _

/-- Terminals are those of the tokens that a parser has in its buffer from a place on, with the
end of input where that was reached. -/
structure Holds (depth index : Nat) (input : Terminals) (parser : Parser σ) : Prop where
  shape : input = firstTerminals depth ((parser.buffer.drop index).map (·.id))
  ended : .eof ∈ input → parser.exhausted = true

/-- What was looked at is in the buffer. -/
theorem ensures_lookAhead_holds (depth index : Nat) :
    Ensures (lookAhead setting depth index) before fun outcome after =>
      ∀ input, outcome = .ok input → Holds depth index input after := by
  induction depth generalizing before index with
  | zero =>
      rintro input same
      obtain rfl := Except.ok.inj same
      exact ⟨rfl, by simp⟩
  | succ depth ih =>
      unfold lookAhead
      apply (ensures_peek index).bind
      · rintro found middle ⟨_, buffered⟩
        obtain ⟨place, ended⟩ := buffered found rfl
        cases found with
        | none =>
            have holds : Holds (depth + 1) index [.eof] middle := by
              refine ⟨?_, fun _ => ended rfl⟩
              rw [List.drop_eq_nil_iff.mpr (List.getElem?_eq_none_iff.mp place), List.map_nil,
                firstTerminals_nil]
            rintro input same
            obtain rfl := Except.ok.inj same
            exact holds
        | some token =>
            have grows := @ensures_lookAhead_keeps σ setting middle (middle.buffer <+: ·.buffer)
              (fun parser _ still => still.trans (buffer_scanned _ parser)) depth (index + 1)
              (List.prefix_refl _)
            apply ((@ih middle (index + 1)).and grows).bind
            · rintro rest after ⟨looked, more, longer⟩
              have behind := looked rest rfl
              obtain ⟨inside, _⟩ := List.getElem?_eq_some_iff.mp place
              have here : after.buffer[index]? = some token := by
                rw [← longer, List.getElem?_append_left inside, place]
              have holds : Holds (depth + 1) index (.token token.id :: rest) after := by
                obtain ⟨inside, first⟩ := List.getElem?_eq_some_iff.mp here
                constructor
                · rw [List.drop_eq_getElem_cons inside, first, List.map_cons, firstTerminals_cons,
                    behind.shape]
                · intro member
                  rcases List.mem_cons.mp member with never | member
                  · cases never
                  · exact behind.ended member
              rintro input same
              obtain rfl := Except.ok.inj same
              exact holds
            · intro _ _ _ input never
              cases never
      · intro _ _ _ input never
        cases never

/-- Looking ahead goes on reading to the same end. -/
theorem ensures_lookAhead_reading {patterns : List Pattern} {caseInsensitive : Bool}
    (compiled : Vocabulary.ofPatterns patterns caseInsensitive = .ok setting.grammar.vocabulary)
    (reading : Reading patterns before) (depth index : Nat) :
    Ensures (lookAhead setting depth index) before fun _ after =>
      Reading patterns after ∧ after.scanner.ending = before.scanner.ending := by
  apply ensures_lookAhead_keeps
  · rintro parser more ⟨still, same⟩
    obtain ⟨further, ending⟩ := still.scanned compiled more
    exact ⟨further, ending.trans same⟩
  · exact ⟨reading, rfl⟩

/-! ## What could be there -/

/-- The report is about the place where all levels of a decision leave the input. -/
theorem mismatch_eq {vocabulary : Vocabulary} {decision : Decision} {input : Terminals}
    {parser : Parser σ} {stop : Nat}
    (greatest : IsGreatest {length | length ≤ input.length ∧
      SequenceSet.AnyBegins decision.levels.flatten (input.take length)} stop) :
    parser.mismatch vocabulary decision input =
      match input[stop]? with
      | some (.token _) => parser.unexpected stop (describeAll vocabulary
          (decision.levels.flatten.flatMap fun set => set.nextAfter (input.take stop)))
      | some .eof | none => parser.prematureEnd := by
  have longest := SequenceSet.foldl_longestPrefix_eq greatest
  unfold mismatch
  dsimp only
  generalize decision.levels.flatten.foldl
    (fun longest set => max longest (set.longestPrefix input)) 0 = common at longest ⊢
  subst longest
  rfl

/-- The patterns of the tokens with which some branch goes on behind `lead`, in the order in
which they are declared. -/
structure Expects (vocabulary : Vocabulary) (search : Search) (branches : List Stack)
    (lead : Terminals) (depth : Nat) (listed : List Pattern) : Prop where
  nonempty : listed ≠ []
  distinct : (listed.map (·.id)).Nodup
  declared : listed.Sublist vocabulary.patterns
  exactly : ∀ token, token ∈ listed.map (·.id) ↔ ∃ stack ∈ branches,
    ∃ sequence ∈ search.lookAhead depth none stack, lead ++ [.token token] <+: sequence

end Parser

theorem Site.In.several {table : RuleTable} {site : Site} (present : site.In table) :
    1 < site.branches.length := by
  cases site with
  | choice rule => simpa [Site.branches, Decision.choiceBranches] using present.2
  | loop => simp [Site.branches, Decision.loopBranches]

namespace Grammar

open RuleTable

variable {declaration : Ebnf.Declaration} {grammar : Grammar} {site : Site} {decision : Decision}

/-- What the analysis of a declaration finds ahead of the branches of a decision: what can be
there behind first copies. -/
abbrev aheadOf (declaration : Ebnf.Declaration) (start : RuleId) (site : Site) :
    Nat → List TokenId → Prop :=
  site.Ahead (Flatten.table declaration.productions)
    ((Flatten.table declaration.productions).IsRoot start) firstCopy

/-- What the branches of a decision can have ahead has patterns. -/
theorem BuiltFrom.exists_pattern (from' : BuiltFrom declaration grammar)
    (present : site.In (Flatten.table declaration.productions)) {depth branch : Nat}
    {sequence : Terminals} {token : TokenId}
    (heads : Heads (aheadOf declaration grammar.start site) depth branch sequence)
    (member : .token token ∈ sequence) :
    ∃ pattern ∈ grammar.vocabulary.patterns, pattern.id = token := by
  obtain ⟨word, isAhead, inWord⟩ := heads.exists_word member
  have named := isAhead.names from'.wellFormed.distinct present token inWord
  obtain ⟨pattern, found⟩ := Option.isSome_iff_exists.mp (Flatten.find?_of_names from'.sound named)
  exact ⟨pattern, List.mem_of_find?_eq_some found, by simpa using List.find?_some found⟩

end Grammar

namespace Parser

open RuleTable Decision

variable {σ : Type} {declaration : Ebnf.Declaration} {grammar : Grammar} {site : Site}
  {decision : Decision} {stop : Nat}

/-- What a report lists is expected, and what was found is not. -/
theorem exists_expects (built : Grammar.build declaration = .ok grammar)
    (decidesAt : DecidesAt grammar.rules site decision) {word : List TokenId}
    (stops : Stops (Grammar.aheadOf declaration grammar.start site) decision
      (firstTerminals decision.depth word) stop) :
    ∃ listed, describeAll grammar.vocabulary (decision.levels.flatten.flatMap fun set =>
        set.nextAfter ((firstTerminals decision.depth word).take stop)) =
          listed.map Pattern.description ∧
      Expects grammar.vocabulary (.prepare (Flatten.table declaration.productions) grammar.start)
        site.branches ((firstTerminals decision.depth word).take stop) (stop + 1) listed ∧
      ∀ token, (firstTerminals decision.depth word)[stop]? = some (.token token) →
        token ∉ listed.map (·.id) := by
  have from' := Grammar.builtFrom_of_build built
  have decides := (from'.decides decidesAt).1
  have present := (between_of_decidesAt from'.wellFormed.distinct from'.resolved decidesAt).1
  have describes :=
    describes_site from'.wellFormed from'.productive from'.acyclic from'.known present
  have distinct : (grammar.vocabulary.patterns.map (·.id)).Nodup :=
    Grammar.distinct_of_ofPatterns (Grammar.build_eq_ok.mp built).2.1
  generalize shape : (firstTerminals decision.depth word).take stop = lead
  have length : lead.length = stop := shape ▸ stops.length_lead
  have shared : Shared _ stop lead := shape ▸ stops.shared
  let next := decision.levels.flatten.flatMap fun set => set.nextAfter lead
  let listed := grammar.vocabulary.patterns.filter fun pattern => next.contains (.token pattern.id)
  have goesOn (token : TokenId) : .token token ∈ next ↔ ∃ branch,
      Heads (Grammar.aheadOf declaration grammar.start site) (stop + 1) branch
        (lead ++ [.token token]) :=
    SequenceSet.mem_flatMap_nextAfter.trans
      (decides.anyBegins_iff describes.inside length stops.less shared)
  have isListed (token : TokenId) : token ∈ listed.map (·.id) ↔ ∃ branch,
      Heads (Grammar.aheadOf declaration grammar.start site) (stop + 1) branch
        (lead ++ [.token token]) := by
    rw [← goesOn, List.mem_map]
    constructor
    · rintro ⟨pattern, member, rfl⟩
      exact List.contains_iff_mem.mp (List.mem_filter.mp member).2
    · intro member
      obtain ⟨branch, heads⟩ := (goesOn token).mp member
      have inside : .token token ∈ lead ++ [.token token] := by simp
      obtain ⟨pattern, declared, rfl⟩ := from'.exists_pattern present heads inside
      exact ⟨pattern, List.mem_filter.mpr ⟨declared, List.contains_iff_mem.mpr member⟩, rfl⟩
  refine ⟨listed, rfl, ⟨?_, ?_, List.filter_sublist, fun token => ?_⟩, fun token found => ?_⟩
  · obtain ⟨branch, token, heads⟩ := stops.exists_token decides.disjoint
    rw [shape] at heads
    have member := (isListed token).mpr ⟨branch, heads⟩
    intro empty
    rw [empty] at member
    cases member
  · exact distinct.sublist (List.filter_sublist.map _)
  · exact (isListed token).trans (describes.begins_iff length).symm
  · rw [isListed, ← shape]
    rintro ⟨branch, heads⟩
    exact stops.unmatched_getElem found branch heads

/-- Where a decision of a grammar picks no branch for what a parser has ahead, the report is
about the terminal behind the longest beginning that sequences of the decision have. If this is
the end of input, that is what is reported, in a parse at the end of the text. Otherwise the
report is about the token in the buffer. It lists the patterns of just those tokens with which
the plain look-ahead of some branch goes on; these are some, each is listed once and in the
order declared, and what was found is not among them. -/
theorem mismatch_exact (built : Grammar.build declaration = .ok grammar) {setting : Setting σ}
    (same : setting.grammar = grammar) (decidesAt : DecidesAt grammar.rules site decision)
    {before : Parser σ} {input : Terminals}
    (looked : ((lookAhead setting decision.depth 0).run.run before).1 = .ok input)
    (unpicked : decision.select input = none) :
    let after := ((lookAhead setting decision.depth 0).run.run before).2
    let report := after.mismatch grammar.vocabulary decision input
    let search := Search.prepare (Flatten.table declaration.productions) grammar.start
    ∃ stop, IsGreatest {length | length ≤ input.length ∧
        SequenceSet.AnyBegins decision.levels.flatten (input.take length)} stop ∧
      stop < input.length ∧
      (input[stop]? = some .eof →
        report = .located .endOfInput after.scanner.position ∧ after.exhausted = true ∧
          ∀ parser acts, Reachable grammar parser → Run setting parser.prepare acts before →
            after.scanner.cursor.text = [] ∧ after.scanner.position = before.scanner.ending) ∧
      ∀ id, input[stop]? = some (.token id) → ∃ token listed,
        after.buffer[stop]? = some token ∧ token.id = id ∧
          report = .located
            (.unexpectedToken token.shortImage (listed.map Pattern.description)) token.position ∧
          Expects grammar.vocabulary search site.branches (input.take stop) (stop + 1) listed ∧
          id ∉ listed.map (·.id) := by
  intro after report search
  have from' := Grammar.builtFrom_of_build built
  have decides := (from'.decides decidesAt).1
  have present := (between_of_decidesAt from'.wellFormed.distinct from'.resolved decidesAt).1
  have describes :=
    describes_site from'.wellFormed from'.productive from'.acyclic from'.known present
  have holds : Holds decision.depth 0 input after :=
    (ensures_lookAhead_holds decision.depth 0 : Ensures _ before _) input looked
  have shape := holds.shape
  rw [List.drop_zero] at shape
  obtain ⟨stop, stops⟩ := decides.stops describes.inside
    (describes.shared_nil present.several) unpicked
  rw [shape] at stops
  have greatest := stops.isGreatest decides describes.inside
  have inside := stops.lt_length
  obtain ⟨listed, described, expects, unlisted⟩ := exists_expects built decidesAt stops
  rw [← shape] at greatest inside described expects unlisted
  refine ⟨stop, greatest, inside, fun found => ?_, fun id found => ?_⟩
  · have reported : report = after.prematureEnd := by
      simp only [report, mismatch_eq greatest, found]
    have exhausted := holds.ended (List.mem_of_getElem? found)
    refine ⟨reported, exhausted, fun parser acts reachable run => ?_⟩
    have compiled := (Grammar.build_eq_ok.mp built).2.1
    have reading := reachable.reading_run built same run
    obtain ⟨still, ending⟩ : Reading declaration.patterns after ∧
        after.scanner.ending = before.scanner.ending :=
      ensures_lookAhead_reading (same ▸ compiled) reading decision.depth 0
    have text := still.ended exhausted
    refine ⟨text, ?_⟩
    rw [← ending, Scanner.ending, text, Position.advanceBy_nil]
  · have inBuffer := getElem?_of_firstTerminals (shape ▸ found)
    rw [List.getElem?_map, Option.map_eq_some_iff] at inBuffer
    obtain ⟨token, buffered, isToken⟩ := inBuffer
    refine ⟨token, listed, buffered, isToken, ?_, expects, unlisted id found⟩
    simp only [report, mismatch_eq greatest, found, unexpected, buffered, described]

/-- `S = "a" "b" | "a" "c"` -/
def sharedStart : Ebnf.Declaration where
  patterns := [{ id := 0, name := "A", kind := .literal, text := "a" },
    { id := 1, name := "B", kind := .literal, text := "b" },
    { id := 2, name := "C", kind := .literal, text := "c" }]
  productions := [{ id := 0, name := "S", alternatives :=
    [[.token 0 .once, .token 1 .once], [.token 0 .once, .token 2 .once]] }]

/-- The second `"a"` of `"aa"` is reported, with what could be in its place. -/
theorem sharedStart_mismatch : ∃ grammar site decision,
    Grammar.build sharedStart = .ok grammar ∧ DecidesAt grammar.rules site decision ∧
      let setting : Setting Unit := { grammar, listener := treeBuilder }
      let looked := (lookAhead setting decision.depth 0).run.run (.ofSource (.ofString "aa") ())
      looked.1 = .ok [.token 0, .token 0] ∧ decision.select [.token 0, .token 0] = none ∧
        ∃ stop listed, Expects grammar.vocabulary
            (.prepare (Flatten.table sharedStart.productions) grammar.start) site.branches
              ([.token 0, .token 0].take stop) (stop + 1) listed ∧ 0 ∉ listed.map (·.id) ∧
          looked.2.mismatch grammar.vocabulary decision [.token 0, .token 0] =
            .located (.unexpectedToken "\"a\"" (listed.map Pattern.description)) ⟨1, 2, 1⟩ := by
  have stuck : ((Grammar.build sharedStart).toOption.any fun grammar =>
      grammar.rules.any fun rule => rule.decision.any fun decision =>
        let setting : Setting Unit := { grammar, listener := treeBuilder }
        let looked := (lookAhead setting decision.depth 0).run.run (.ofSource (.ofString "aa") ())
        let report := looked.2.mismatch grammar.vocabulary decision [.token 0, .token 0]
        decide (looked.1 = .ok [.token 0, .token 0]) &&
          decide (decision.select [.token 0, .token 0] = none) &&
            decide (report.position = some ⟨1, 2, 1⟩) &&
              match report.problem with
              | .unexpectedToken found _ => found == "\"a\""
              | _ => false) = true := by
    decide +kernel
  obtain ⟨grammar, built, stuck⟩ := exists_ok_of_any stuck
  obtain ⟨rule, member, stuck⟩ := List.any_eq_true.mp stuck
  obtain ⟨decision, made, stuck⟩ := Option.any_eq_true _ _ |>.mp stuck
  simp only [Bool.and_eq_true, decide_eq_true_eq] at stuck
  obtain ⟨⟨⟨looked, unpicked⟩, position⟩, problem⟩ := stuck
  have decidesAt : DecidesAt grammar.rules (.choice rule.toRule) decision := .choice member made
  obtain ⟨stop, _, inside, _, reports⟩ := @mismatch_exact Unit sharedStart grammar _ decision built
    { grammar, listener := treeBuilder } rfl decidesAt (.ofSource (.ofString "aa") ()) _ looked
    unpicked
  have found : [Terminal.token 0, .token 0][stop]? = some (.token 0) := by
    match stop, inside with
    | 0, _ => rfl
    | 1, _ => rfl
  obtain ⟨token, listed, _, _, report, expects, unlisted⟩ := reports 0 found
  refine ⟨grammar, _, decision, built, decidesAt, looked, unpicked, stop, listed, expects, unlisted,
    ?_⟩
  rw [report] at position problem ⊢
  have place : token.position = ⟨1, 2, 1⟩ := Option.some.inj position
  have image : token.shortImage = "\"a\"" := beq_iff_eq.mp problem
  rw [place, image]

end Parser

end StrongLL
