import Mathlib.Algebra.BigOperators.Group.List.Basic
import StrongLL.Proofs.Automaton.Fragment
import StrongLL.Proofs.Automaton.Generation
import StrongLL.Vocabulary

/-!
# The automata of patterns

What is compiled accepts what was written: the fragment of a regular expression has its
language, and the automaton of a vocabulary accepts a text for a pattern exactly if the
text is in the language of the pattern.
-/

open scoped Computability

namespace StrongLL

namespace Fragment

variable {graph after : Graph} {first : Nat} {fragment : Fragment} {fragments : List Fragment}
  {language : Language Char} {languages : List (Language Char)}

/-! ## Rows of fragments -/

theorem buildsAll_nil (graph : Graph) : BuildsAll graph.size graph (graph, []) [] :=
  ⟨.refl _ _, .nil (Nat.le_refl _)⟩

theorem Builds.cons {middle : Graph} (former : Builds graph.size graph (middle, fragment) language)
    (latter : BuildsAll middle.size middle (after, fragments) languages) :
    BuildsAll graph.size graph (after, fragment :: fragments) (language :: languages) where
  keeps := former.keeps.trans (latter.keeps.mono former.keeps.size)
  spans := .cons (former.spans.of_same latter.keeps.size fun id _ below =>
    latter.keeps.state id below) latter.spans

theorem SpansAll.append {middle bound : Nat} {others : List Fragment}
    {more : List (Language Char)} (former : SpansAll graph first middle fragments languages)
    (latter : SpansAll graph middle bound others more) :
    SpansAll graph first bound (fragments ++ others) (languages ++ more) := by
  induction former with
  | nil => exact latter
  | cons spans _ ih => exact .cons spans (ih latter)

theorem SpansAll.length_eq {bound : Nat} (spans : SpansAll graph first bound fragments languages) :
    fragments.length = languages.length := by
  induction spans with
  | nil => rfl
  | cons _ _ ih => rw [List.length_cons, List.length_cons, ih]

theorem SpansAll.single {bound : Nat} (spans : SpansAll graph first bound fragments [language]) :
    ∃ fragment, fragments = [fragment] ∧ Spans graph first bound fragment language := by
  cases spans with
  | cons only none =>
      cases none
      exact ⟨_, rfl, only⟩

theorem BuildsAll.append {middle : Graph} {others : List Fragment}
    {more : List (Language Char)} (former : BuildsAll graph.size graph (middle, fragments) languages)
    (latter : BuildsAll middle.size middle (after, others) more) :
    BuildsAll graph.size graph (after, fragments ++ others) (languages ++ more) where
  keeps := former.keeps.trans (latter.keeps.mono former.keeps.size)
  spans := (former.spans.of_same latter.keeps.size fun id _ below =>
    latter.keeps.state id below).append latter.spans

theorem buildsAll_ofClasses (classes : List CharClass) (graph : Graph) :
    BuildsAll graph.size graph (ofClasses graph classes) (classes.map Regex.Expr.oneOf) := by
  induction classes generalizing graph with
  | nil => exact buildsAll_nil graph
  | cons charClass rest ih => exact (builds_ofClass charClass graph).cons (ih _)

/-- A text becomes a fragment for the texts that it stands for. -/
theorem builds_ofText (caseInsensitive : Bool) (text : List Char) (graph : Graph) :
    Builds graph.size graph (ofText caseInsensitive text graph)
      (if caseInsensitive then (text.map fun char => Regex.Expr.oneOf (.caseless char)).prod
        else {text}) := by
  have row := builds_sequence (buildsAll_ofClasses
    (text.map (if caseInsensitive then CharClass.caseless else CharClass.single)) graph)
  rw [List.map_map] at row
  cases caseInsensitive with
  | true => exact row
  | false =>
      rw [← Regex.Expr.prod_singletons]
      exact row

/-! ## Repetitions -/

/-- A maker of fragments for a language. -/
def Makes (make : Graph → Except PatternFlaw (Graph × Fragment)) (language : Language Char) :
    Prop :=
  ∀ graph made, make graph = .ok made → Builds graph.size graph made language

variable {make : Graph → Except PatternFlaw (Graph × Fragment)}

theorem buildsAll_copies (makes : Makes make language) {count : Nat}
    {made : Graph × List Fragment} (copied : copies make count graph = .ok made) :
    BuildsAll graph.size graph made (List.replicate count language) := by
  induction count generalizing graph made with
  | zero =>
      obtain rfl := Except.ok.inj copied
      exact buildsAll_nil graph
  | succ count ih =>
      obtain ⟨⟨middle, fragment⟩, single, copied⟩ := bind_eq_ok.mp copied
      obtain ⟨_, copied⟩ := of_unless_throw_then copied
      obtain ⟨⟨after, rest⟩, others, copied⟩ := bind_eq_ok.mp copied
      obtain rfl := Except.ok.inj copied
      exact (makes graph _ single).cons (ih others)

theorem buildsAll_optionals (makes : Makes make language) {count : Nat}
    {made : Graph × List Fragment} (copied : optionals make count graph = .ok made) :
    BuildsAll graph.size graph made (List.replicate count (1 + language)) := by
  induction count generalizing graph made with
  | zero =>
      obtain rfl := Except.ok.inj copied
      exact buildsAll_nil graph
  | succ count ih =>
      obtain ⟨⟨middle, body⟩, single, copied⟩ := bind_eq_ok.mp copied
      obtain ⟨_, copied⟩ := of_unless_throw_then copied
      obtain ⟨⟨after, rest⟩, others, copied⟩ := bind_eq_ok.mp copied
      obtain rfl := Except.ok.inj copied
      exact (builds_optional (makes graph _ single)).cons (ih others)

/-- Of several fragments the last may begin again. -/
theorem buildsAll_loopLast {before : Graph} {count : Nat} (made : BuildsAll first before
      (graph, fragments) (List.replicate (count + 1) language)) :
    BuildsAll first before (loopLast graph fragments)
      (List.replicate count language ++ [language * language∗]) := by
  induction count generalizing first before fragments with
  | zero =>
      obtain ⟨keeps, spans⟩ := made
      obtain ⟨last, shape, only⟩ := spans.single
      obtain rfl : fragments = [last] := shape
      obtain ⟨more, looped⟩ := builds_plus ⟨keeps, only⟩
      exact ⟨more, .cons looped (.nil (Nat.le_refl _))⟩
  | succ count ih =>
      obtain ⟨keeps, spans⟩ := made
      cases spans with
      | @cons _ middle _ head rest _ _ former others =>
          cases rest with
          | nil => cases others
          | cons next rest =>
              obtain ⟨more, looped⟩ := @ih middle (next :: rest) graph ⟨.refl middle graph, others⟩
              have start := former.lt_bound
              exact ⟨keeps.trans (more.mono (Nat.le_of_lt start)),
                .cons (former.of_same (Nat.le_trans former.room more.size)
                  fun id _ below => more.state id below) looped⟩

/-- Up to `count` members of a language in a row. -/
theorem mem_one_add_pow {count : Nat} {text : List Char} :
    text ∈ (1 + language) ^ count ↔ ∃ fewer ≤ count, text ∈ language ^ fewer := by
  induction count generalizing text with
  | zero => simp
  | succ count ih =>
      rw [pow_succ', add_mul, one_mul, Language.mem_add, ih, Language.mem_mul]
      constructor
      · rintro (⟨fewer, le, member⟩ | ⟨front, inside, rest, others, rfl⟩)
        · exact ⟨fewer, Nat.le_succ_of_le le, member⟩
        · obtain ⟨fewer, le, member⟩ := ih.mp others
          refine ⟨fewer + 1, Nat.succ_le_succ le, ?_⟩
          rw [pow_succ']
          exact Language.append_mem_mul inside member
      · rintro ⟨fewer, le, member⟩
        cases fewer with
        | zero => exact .inl ⟨0, Nat.zero_le _, member⟩
        | succ fewer =>
            rw [pow_succ', Language.mem_mul] at member
            obtain ⟨front, inside, rest, others, rfl⟩ := member
            exact .inr ⟨front, inside, rest, ih.mpr ⟨fewer, Nat.le_of_succ_le_succ le, others⟩, rfl⟩

theorem pow_mul_one_add_pow (min max : Nat) (language : Language Char) :
    language ^ min * (1 + language) ^ (max - min) =
      Regex.Expr.repeated min (some max) language := by
  ext text
  simp only [Language.mem_mul, mem_one_add_pow, Regex.Expr.mem_repeated, Option.mem_some_iff]
  constructor
  · rintro ⟨front, inside, rest, ⟨fewer, le, others⟩, rfl⟩
    refine ⟨min + fewer, ⟨Nat.le_add_right _ _, ?_⟩, ?_⟩
    · rintro _ rfl
      simp only [Nat.max_def]
      split <;> omega
    · rw [pow_add]
      exact Language.append_mem_mul inside others
  · rintro ⟨count, ⟨atLeast, atMost⟩, member⟩
    have bound := atMost max rfl
    obtain ⟨fewer, rfl⟩ := Nat.exists_eq_add_of_le atLeast
    rw [pow_add, Language.mem_mul] at member
    obtain ⟨front, inside, rest, others, rfl⟩ := member
    refine ⟨front, inside, rest, ⟨fewer, ?_, others⟩, rfl⟩
    simp only [Nat.max_def] at bound
    split at bound <;> omega

theorem kstar_eq_repeated (language : Language Char) :
    language∗ = Regex.Expr.repeated 0 none language := by
  ext text
  simp [Language.kstar_eq_iSup_pow, Language.mem_iSup, Regex.Expr.mem_repeated]

theorem pow_mul_kstar (count : Nat) (language : Language Char) :
    language ^ count * (language * language∗) =
      Regex.Expr.repeated (count + 1) none language := by
  ext text
  rw [← mul_assoc, ← pow_succ]
  simp only [Language.kstar_eq_iSup_pow, Language.mul_iSup, ← pow_add, Language.mem_iSup,
    Regex.Expr.mem_repeated]
  constructor
  · rintro ⟨more, member⟩
    exact ⟨count + 1 + more, ⟨Nat.le_add_right _ _, by simp⟩, member⟩
  · rintro ⟨total, ⟨atLeast, _⟩, member⟩
    obtain ⟨more, rfl⟩ := Nat.exists_eq_add_of_le atLeast
    exact ⟨more, member⟩

/-- A repetition is unrolled to fragments for what it stands for. -/
theorem builds_repetition (makes : Makes make language) {min : Nat} {max : Option Nat}
    {made : Graph × Fragment} (repeats : repetition make min max graph = .ok made) :
    Builds graph.size graph made (Regex.Expr.repeated min max language) := by
  unfold repetition at repeats
  obtain ⟨_, repeats⟩ := of_unless_throw_then repeats
  obtain ⟨⟨middle, mandatory⟩, copied, repeats⟩ := bind_eq_ok.mp repeats
  have row := buildsAll_copies makes copied
  cases max with
  | some max =>
      obtain ⟨⟨after, rest⟩, optional, repeats⟩ := bind_eq_ok.mp repeats
      obtain rfl := Except.ok.inj repeats
      have whole := builds_sequence (row.append (buildsAll_optionals makes optional))
      rwa [List.prod_append, List.prod_replicate, List.prod_replicate, pow_mul_one_add_pow] at whole
  | none =>
      cases min with
      | zero =>
          obtain ⟨rfl, rfl⟩ := Prod.mk.inj (Except.ok.inj copied)
          obtain ⟨⟨after, bodies⟩, single, repeats⟩ := bind_eq_ok.mp repeats
          obtain ⟨keeps, spans⟩ := buildsAll_copies makes single
          rw [← kstar_eq_repeated]
          obtain ⟨body, shape, only⟩ := spans.single
          obtain rfl : bodies = [body] := shape
          obtain rfl := Except.ok.inj repeats
          obtain ⟨more, looped⟩ := builds_star ⟨keeps, only⟩
          have whole := builds_sequence ⟨more, .cons looped (.nil (Nat.le_refl _))⟩
          rwa [List.prod_singleton] at whole
      | succ count =>
          have notEmpty : mandatory.isEmpty = false := by
            have length := row.spans.length_eq
            simp only [List.length_replicate] at length
            rw [List.isEmpty_eq_false_iff]
            rintro rfl
            cases length
          simp only [notEmpty] at repeats
          obtain rfl := Except.ok.inj repeats
          have whole := builds_sequence (buildsAll_loopLast row)
          rw [List.prod_append, List.prod_replicate, List.prod_singleton, pow_mul_kstar] at whole
          exact whole

/-! ## Patterns -/

mutual
/-- A regular expression becomes a fragment for its language. -/
theorem builds_ofExpr : ∀ expr : Regex.Expr, Makes (ofExpr expr) expr.language
  | .empty, graph, made, built => by
      obtain rfl := Except.ok.inj built
      exact builds_epsilon graph
  | .literal text, graph, made, built => by
      obtain rfl := Except.ok.inj built
      exact builds_ofText false text graph
  | .charClass members, graph, made, built => by
      obtain rfl := Except.ok.inj built
      exact builds_ofClass members graph
  | .assertion _, graph, made, built => by cases built
  | .repetition min max body, graph, made, built => builds_repetition (builds_ofExpr body) built
  | .capture body, graph, made, built => builds_ofExpr body graph made built
  | .concat parts, graph, made, built => by
      obtain ⟨row, each, built⟩ := bind_eq_ok.mp built
      obtain rfl := Except.ok.inj built
      exact builds_sequence (buildsAll_ofExprs parts graph row each)
  | .alternation branches, graph, made, built => by
      obtain ⟨row, each, built⟩ := bind_eq_ok.mp built
      obtain rfl := Except.ok.inj built
      exact builds_alternation (buildsAll_ofExprs branches graph row each)

theorem buildsAll_ofExprs : ∀ (exprs : List Regex.Expr) (graph : Graph)
    (made : Graph × List Fragment), ofExprs exprs graph = .ok made →
      BuildsAll graph.size graph made (Regex.Expr.languages exprs)
  | [], graph, made, built => by
      obtain rfl := Except.ok.inj built
      exact buildsAll_nil graph
  | expr :: rest, graph, made, built => by
      obtain ⟨⟨middle, fragment⟩, single, built⟩ := bind_eq_ok.mp built
      obtain ⟨⟨after, others⟩, each, built⟩ := bind_eq_ok.mp built
      obtain rfl := Except.ok.inj built
      exact (builds_ofExpr expr graph _ single).cons (buildsAll_ofExprs rest middle _ each)
end

/-- The fragment of a pattern before it is checked. -/
def draft (caseInsensitive : Bool) (pattern : Pattern) (graph : Graph) :
    Except PatternFlaw (Graph × Fragment) :=
  match pattern.kind with
  | .literal => .ok (ofText caseInsensitive pattern.text.toList graph)
  | .regex =>
      match (do
        let ast ← Regex.Notation.read pattern.text.toList
        Regex.meaning ast { caseInsensitive }) with
      | .ok (expr, _) => ofExpr expr graph
      | .error fault => .error (.malformed fault)

theorem ofPattern_eq (caseInsensitive : Bool) (pattern : Pattern) (graph : Graph) :
    ofPattern caseInsensitive pattern graph = (do
      let made ← draft caseInsensitive pattern graph
      if stateLimit < made.1.size then throw .tooLarge
      if made.1.silentlyReaches made.2.entry made.2.exit then throw .matchesEmpty
      return made) := by
  unfold ofPattern draft
  cases pattern.kind with
  | literal => rfl
  | regex =>
      dsimp only
      generalize (do
        let ast ← Regex.Notation.read pattern.text.toList
        Regex.meaning ast { caseInsensitive }) = read
      cases read with
      | ok meant => rfl
      | error fault => rfl

/-- A pattern becomes a fragment for its language. -/
theorem builds_draft {caseInsensitive : Bool} {pattern : Pattern} {made : Graph × Fragment}
    (drafted : draft caseInsensitive pattern graph = .ok made) :
    Builds graph.size graph made (pattern.language caseInsensitive) := by
  unfold draft at drafted
  cases kind : pattern.kind with
  | literal =>
      simp only [kind] at drafted
      obtain rfl := Except.ok.inj drafted
      rw [Pattern.language, kind]
      exact builds_ofText caseInsensitive pattern.text.toList graph
  | regex =>
      simp only [kind] at drafted
      split at drafted
      · rename_i expr flags read
        rw [Pattern.language_eq kind read]
        exact builds_ofExpr expr graph made drafted
      · cases drafted

theorem builds_ofPattern {caseInsensitive : Bool} {pattern : Pattern} {made : Graph × Fragment}
    (built : ofPattern caseInsensitive pattern graph = .ok made) :
    Builds graph.size graph made (pattern.language caseInsensitive) := by
  rw [ofPattern_eq] at built
  obtain ⟨whole, drafted, built⟩ := bind_eq_ok.mp built
  obtain ⟨_, built⟩ := of_unless_throw_then built
  obtain ⟨_, built⟩ := of_unless_throw_then built
  obtain rfl := Except.ok.inj built
  exact builds_draft drafted

end Fragment

/-! ## Vocabularies -/

/-- All moves lead to states that are there. -/
def Graph.Closed (graph : Graph) : Prop :=
  ∀ id, (∀ next ∈ (graph.state id).epsilons, next < graph.size) ∧
    ∀ transition ∈ (graph.state id).transitions, transition.target < graph.size

namespace Vocabulary

variable {graph middle after : Graph} {fragment : Fragment} {language : Language Char}

theorem closed_of_builds (closed : graph.Closed)
    (made : Fragment.Builds graph.size graph (middle, fragment) language) : middle.Closed := by
  intro id
  have grown := made.keeps.size
  simp only at grown
  rcases Nat.lt_or_ge id graph.size with old | new
  · rw [made.keeps.state id old]
    exact ⟨fun next move => Nat.lt_of_lt_of_le ((closed id).1 next move) grown,
      fun transition move => Nat.lt_of_lt_of_le ((closed id).2 transition move) grown⟩
  · rcases Nat.lt_or_ge id middle.size with inside | outside
    · have confined := made.spans.confined id new inside
      exact ⟨fun next move => (confined.silent next move).2,
        fun transition move => (confined.reading transition move).2⟩
    · rw [Graph.state_of_size_le outside]
      simp

/-- A start that leads to one more fragment, whose exit accepts a pattern, is all that
changes. -/
theorem state_link {start index : Nat} {fragment : Fragment} (inside : start < graph.size)
    (exit : fragment.exit < graph.size) (apart : start ≠ fragment.exit)
    (final : graph.state fragment.exit = {}) (id : Nat) :
    ((graph.addEpsilon start fragment.entry).accept fragment.exit index).state id =
      if id = fragment.exit then { accept := some index }
      else if id = start then { graph.state start with
        epsilons := (graph.state start).epsilons ++ [fragment.entry] }
      else graph.state id := by
  rw [Graph.state_accept (by simpa using exit), Graph.state_addEpsilon inside]
  grind

theorem closed_link {start index : Nat} {fragment : Fragment} (closed : graph.Closed)
    (inside : start < graph.size) (entry : fragment.entry < graph.size)
    (exit : fragment.exit < graph.size) (apart : start ≠ fragment.exit)
    (final : graph.state fragment.exit = {}) :
    ((graph.addEpsilon start fragment.entry).accept fragment.exit index).Closed := by
  intro id
  rw [state_link inside exit apart final, Graph.size_accept, Graph.size_addEpsilon]
  split
  · simp
  · split
    · obtain ⟨silent, reading⟩ := closed start
      refine ⟨fun target move => ?_, reading⟩
      rcases List.mem_append.mp move with move | move
      · exact silent target move
      · exact List.mem_singleton.mp move ▸ entry
    · exact closed id

/-- A fragment whose exit accepts a pattern, and that accepts nothing before its exit. -/
structure Compiled (graph : Graph) (pattern : Nat) (fragment : Fragment)
    (language : Language Char) (inner : Nat → Prop) : Prop where
  runs : Fragment.Runs graph fragment inner language
  silent : ∀ id, inner id → (graph.state id).accept = none
  exit : graph.state fragment.exit = { accept := some pattern }

/-- The start leads to the fragments of all patterns. -/
theorem compiled_of_addPatterns {caseInsensitive : Bool} {start index : Nat}
    {patterns : List Pattern} (closed : graph.Closed) (room : start < graph.size)
    (added : addPatterns caseInsensitive start index patterns graph = .ok after) :
    after.Closed ∧ graph.size ≤ after.size ∧
      (∀ id, id < graph.size → id ≠ start → after.state id = graph.state id) ∧
        ∃ fragments : List Fragment, after.state start = { graph.state start with
            epsilons := (graph.state start).epsilons ++ fragments.map Fragment.entry } ∧
          List.Forall₂ (fun pattern fragment => ∃ inner, Compiled after pattern.2 fragment
            (pattern.1.language caseInsensitive) inner) (patterns.zipIdx index) fragments := by
  induction patterns generalizing graph index with
  | nil =>
      obtain rfl := Except.ok.inj added
      exact ⟨closed, Nat.le_refl _, fun _ _ _ => rfl, [], by simp, .nil⟩
  | cons pattern rest ih =>
      unfold addPatterns at added
      split at added
      · cases added
      · rename_i middle fragment built
        have made := Fragment.builds_ofPattern built
        have spans : Fragment.Spans middle graph.size middle.size fragment
          (pattern.language caseInsensitive) := made.spans
        have grown : graph.size ≤ middle.size := made.keeps.size
        have kept : ∀ id, id < graph.size → middle.state id = graph.state id := made.keeps.state
        have entry := spans.entry
        have exit := spans.exit
        have apart : start ≠ fragment.exit := by omega
        let next := (middle.addEpsilon start fragment.entry).accept fragment.exit index
        have size : next.size = middle.size := by simp [next]
        have shape := @state_link middle start index fragment (by omega) exit.2 apart spans.final
        rw [kept start room] at shape
        have nextClosed : next.Closed :=
          closed_link (closed_of_builds closed made) (by omega) entry.2 exit.2 apart spans.final
        obtain ⟨afterClosed, afterSize, same, fragments, startState, each⟩ :=
          ih nextClosed (by omega) added
        refine ⟨afterClosed, by omega, fun id below differs => ?_, fragment :: fragments, ?_, ?_⟩
        · rw [same id (by omega) differs, shape, if_neg (by omega), if_neg differs,
            kept id below]
        · rw [startState, shape, if_neg (by omega), if_pos rfl]
          simp
        · refine .cons ⟨Fragment.Inner graph.size middle.size fragment.exit,
            spans.runs after fun id inner => ?_, fun id inner => ?_, ?_⟩ each
          · obtain ⟨atLeast, below, notExit⟩ := inner
            rw [same id (by omega) (by omega), shape, if_neg notExit, if_neg (by omega)]
          · obtain ⟨atLeast, below, notExit⟩ := inner
            rw [same id (by omega) (by omega), shape, if_neg notExit, if_neg (by omega)]
            exact (spans.confined id atLeast below).accept
          · rw [same _ (by omega) (by omega), shape, if_pos rfl]

/-- An exit has no moves. -/
theorem eq_of_walk_exit {pattern moves last : Nat} {text : List Char}
    {inner : Nat → Prop} (compiled : Compiled graph pattern fragment language inner)
    (walk : graph.Walk moves fragment.exit text last) : last = fragment.exit ∧ text = [] := by
  cases walk with
  | here => exact ⟨rfl, rfl⟩
  | silent move =>
      rw [compiled.exit] at move
      cases move
  | read move =>
      rw [compiled.exit] at move
      cases move

/-- What is compiled accepts the languages of the patterns, each for its own number. -/
theorem accepts_iff_of_compiled {caseInsensitive : Bool} {start index : Nat}
    {patterns : List Pattern} {fragments : List Fragment}
    (startState : graph.state start = { epsilons := fragments.map Fragment.entry })
    (each : List.Forall₂ (fun pattern fragment => ∃ inner, Compiled graph pattern.2 fragment
      (pattern.1.language caseInsensitive) inner) patterns.zipIdx fragments) {text : List Char} :
    (graph.finish start).Accepts text index ↔
      ∃ pattern, patterns[index]? = some pattern ∧ text ∈ pattern.language caseInsensitive := by
  constructor
  · rintro ⟨last, path, accept⟩
    obtain ⟨moves, walk⟩ := Graph.path_iff_walk.mp path
    have accept : (graph.state last).accept = some index := accept
    have moved : start ≠ last := by
      rintro rfl
      rw [startState] at accept
      cases accept
    obtain ⟨next, target, fewer, _, walk⟩ := Graph.Walk.of_silent walk moved startState
    obtain ⟨fragment, inside, rfl⟩ := List.mem_map.mp target
    obtain ⟨⟨pattern, place⟩, among, inner, compiled⟩ := exists_of_mem_right each inside
    have outside : ¬ inner last := by
      intro within
      rw [compiled.silent last within] at accept
      cases accept
    obtain ⟨front, rest, even, _, rfl, member, walk⟩ := compiled.runs.leaves outside walk
    obtain ⟨rfl, rfl⟩ := eq_of_walk_exit compiled walk
    rw [compiled.exit] at accept
    obtain rfl : place = index := Option.some.inj accept
    refine ⟨pattern, List.mk_mem_zipIdx_iff_getElem?.mp among, ?_⟩
    rwa [List.append_nil]
  · rintro ⟨pattern, declared, member⟩
    obtain ⟨fragment, inside, inner, compiled⟩ :=
      exists_of_mem_right each.flip (List.mk_mem_zipIdx_iff_getElem?.mpr declared)
    refine ⟨fragment.exit, .silent ?_ (compiled.runs.passes text member), ?_⟩
    · exact (congrArg State.epsilons startState).symm ▸ List.mem_map_of_mem inside
    · exact congrArg State.accept compiled.exit

/-- The automaton of a vocabulary accepts a text for a pattern exactly if the text is in the
language of the pattern, and its moves stay in range. -/
theorem accepts_iff {patterns : List Pattern} {caseInsensitive : Bool} {vocabulary : Vocabulary}
    (compiled : ofPatterns patterns caseInsensitive = .ok vocabulary) :
    vocabulary.patterns = patterns ∧ vocabulary.automaton.InRange ∧
      ∀ (text : List Char) (index : Nat), vocabulary.automaton.Accepts text index ↔
        ∃ pattern, patterns[index]? = some pattern ∧
          text ∈ pattern.language caseInsensitive := by
  unfold ofPatterns at compiled
  obtain ⟨⟨⟩, _, compiled⟩ := bind_eq_ok.mp compiled
  obtain ⟨_, compiled⟩ := of_unless_throw_then compiled
  obtain ⟨graph, added, compiled⟩ := bind_eq_ok.mp compiled
  obtain rfl := Except.ok.inj compiled
  have none : ∀ id, Graph.empty.addState.1.state id = {} := by
    intro id
    rw [Graph.state_addState, Graph.state_of_size_le (Nat.zero_le _)]
  have closed : Graph.empty.addState.1.Closed := by
    intro id
    rw [none]
    simp
  have room : 0 < Graph.empty.addState.1.size := by simp
  obtain ⟨closed, _, _, fragments, startState, each⟩ :=
    compiled_of_addPatterns closed room added
  rw [none, List.nil_append] at startState
  refine ⟨rfl, ⟨fun id => (closed id).1, fun id => (closed id).2⟩, fun text index => ?_⟩
  exact accepts_iff_of_compiled startState each

end Vocabulary

end StrongLL
