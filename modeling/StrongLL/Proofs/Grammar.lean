import StrongLL.Grammar
import StrongLL.Proofs.Rules.Analysis
import StrongLL.Proofs.Rules.Flatten

/-!
# Grammars that are built

A grammar is built from a valid declaration whose table passes all checks and can be
resolved. Its decisions tell branches apart as far as the analysis looks: behind the
first copies of elements. What stands behind later copies only, where an element needs
several, is not looked at, so branches can share it.
-/

namespace StrongLL

open RuleTable

namespace Grammar

variable {declaration : Ebnf.Declaration} {grammar : Grammar}

/-- What a grammar that is built goes back to. -/
structure BuiltFrom (declaration : Ebnf.Declaration) (grammar : Grammar) : Prop where
  positive : 1 ≤ declaration.maxLookAhead
  patterns : grammar.vocabulary.patterns = declaration.patterns
  sound : Ebnf.Sound grammar.vocabulary declaration.productions
  start : grammar.start ∈ declaration.productions.map (·.id)
  recursion : (Flatten.table declaration.productions).checkLeftRecursion = .ok ()
  productivity : (Flatten.table declaration.productions).checkProductive = .ok ()
  loops : (Flatten.table declaration.productions).checkLoops = .ok ()
  resolved : (Flatten.table declaration.productions).resolve grammar.start
    declaration.maxLookAhead grammar.vocabulary = .ok grammar.rules

theorem mem_of_startOf {start : RuleId} (found : startOf declaration = .ok start) :
    start ∈ declaration.productions.map (·.id) := by
  unfold startOf at found
  simp only at found
  split at found
  · cases found
  · split at found
    · rename_i known
      obtain rfl := Except.ok.inj found
      exact List.contains_iff_mem.mp known
    · cases found

theorem patterns_of_ofPatterns {patterns : List Pattern} {caseInsensitive : Bool}
    {vocabulary : Vocabulary} (compiled : Vocabulary.ofPatterns patterns caseInsensitive =
      .ok vocabulary) : vocabulary.patterns = patterns := by
  unfold Vocabulary.ofPatterns at compiled
  obtain ⟨⟨⟩, _, compiled⟩ := bind_eq_ok.mp compiled
  obtain ⟨_, compiled⟩ := of_unless_throw_then compiled
  obtain ⟨graph, _, compiled⟩ := bind_eq_ok.mp compiled
  obtain rfl := Except.ok.inj compiled
  rfl

theorem distinct_of_checkDeclarations {patterns : List Pattern} {declared : List TokenId}
    (passed : Vocabulary.checkDeclarations declared patterns = .ok ()) :
    (patterns.map (·.id)).Nodup ∧ ∀ pattern ∈ patterns, pattern.id ∉ declared := by
  induction patterns generalizing declared with
  | nil => simp
  | cons first rest ih =>
      unfold Vocabulary.checkDeclarations at passed
      obtain ⟨_, passed⟩ := of_unless_throw_then passed
      obtain ⟨_, passed⟩ := of_unless_throw_then passed
      obtain ⟨fresh, passed⟩ := of_unless_throw_then passed
      obtain ⟨distinct, others⟩ := ih passed
      rw [List.contains_iff_mem] at fresh
      constructor
      · rw [List.map_cons, List.nodup_cons]
        refine ⟨fun member => ?_, distinct⟩
        obtain ⟨pattern, inRest, same⟩ := List.mem_map.mp member
        exact others pattern inRest (by simp [same])
      · intro pattern member
        rcases List.mem_cons.mp member with rfl | inRest
        · exact fresh
        · exact fun before => others pattern inRest (List.mem_cons_of_mem _ before)

/-- The patterns of a vocabulary have different identifiers. -/
theorem distinct_of_ofPatterns {patterns : List Pattern} {caseInsensitive : Bool}
    {vocabulary : Vocabulary} (compiled : Vocabulary.ofPatterns patterns caseInsensitive =
      .ok vocabulary) : (vocabulary.patterns.map (·.id)).Nodup := by
  rw [patterns_of_ofPatterns compiled]
  unfold Vocabulary.ofPatterns at compiled
  obtain ⟨⟨⟩, checked, _⟩ := bind_eq_ok.mp compiled
  exact (distinct_of_checkDeclarations checked).1

/-- A grammar is built if and only if each step of building it succeeds. -/
theorem build_eq_ok : build declaration = .ok grammar ↔
    declaration.maxLookAhead ≠ 0 ∧
      Vocabulary.ofPatterns declaration.patterns declaration.caseInsensitive =
        .ok grammar.vocabulary ∧
      Ebnf.validate grammar.vocabulary declaration.productions = .ok () ∧
      startOf declaration = .ok grammar.start ∧
      (Flatten.table declaration.productions).checkLeftRecursion = .ok () ∧
      (Flatten.table declaration.productions).checkProductive = .ok () ∧
      (Flatten.table declaration.productions).checkLoops = .ok () ∧
      (Flatten.table declaration.productions).resolve grammar.start declaration.maxLookAhead
        grammar.vocabulary = .ok grammar.rules ∧
      grammar.maxLookAhead = declaration.maxLookAhead := by
  constructor
  · intro built
    unfold build at built
    obtain ⟨positive, built⟩ := of_unless_throw_then built
    obtain ⟨vocabulary, compiled, built⟩ := bind_eq_ok.mp built
    obtain ⟨⟨⟩, valid, built⟩ := bind_eq_ok.mp built
    obtain ⟨start, startFound, built⟩ := bind_eq_ok.mp built
    obtain ⟨⟨⟩, recursion, built⟩ := bind_eq_ok.mp built
    obtain ⟨⟨⟩, productivity, built⟩ := bind_eq_ok.mp built
    obtain ⟨⟨⟩, loops, built⟩ := bind_eq_ok.mp built
    obtain ⟨rules, resolved, built⟩ := bind_eq_ok.mp built
    obtain rfl := Except.ok.inj built
    exact ⟨positive, compiled, valid, startFound, recursion, productivity, loops, resolved, rfl⟩
  · obtain ⟨vocabulary, rules, start, maxLookAhead⟩ := grammar
    rintro ⟨positive, compiled, valid, startFound, recursion, productivity, loops, resolved, rfl⟩
    unfold build
    rw [if_neg positive, compiled]
    simp only [pure, Except.pure, bind, Except.bind, valid, startFound, recursion, productivity,
      loops, resolved]

theorem builtFrom_of_build (built : build declaration = .ok grammar) :
    BuiltFrom declaration grammar := by
  obtain ⟨positive, compiled, valid, start, recursion, productivity, loops, resolved, _⟩ :=
    build_eq_ok.mp built
  exact ⟨Nat.one_le_iff_ne_zero.mpr positive, patterns_of_ofPatterns compiled,
    Ebnf.sound_of_validate valid, mem_of_startOf start, recursion, productivity, loops, resolved⟩

namespace BuiltFrom

theorem wellFormed (from' : BuiltFrom declaration grammar) :
    (Flatten.table declaration.productions).WellFormed :=
  Flatten.wellFormed_table from'.sound

theorem productive (from' : BuiltFrom declaration grammar) :
    (Flatten.table declaration.productions).Productive :=
  productive_of_checkProductive from'.wellFormed from'.productivity

theorem acyclic (from' : BuiltFrom declaration grammar) :
    WellFounded (Flatten.table declaration.productions).Begins :=
  begins_wellFounded from'.recursion

theorem known (from' : BuiltFrom declaration grammar) :
    grammar.start ∈ (Flatten.table declaration.productions).map (·.id) := by
  obtain ⟨count, ids⟩ := Flatten.table_ids from'.sound
  rw [ids]
  exact List.mem_append_left _ from'.start

/-- The decisions of a grammar tell apart what is ahead of their branches behind first
copies. -/
theorem decides (from' : BuiltFrom declaration grammar) {site : Site} {decision : Decision}
    (decidesAt : DecidesAt grammar.rules site decision) :
    Decision.Decides (site.Ahead (Flatten.table declaration.productions)
        ((Flatten.table declaration.productions).IsRoot grammar.start) firstCopy)
      site.branches.length decision ∧ decision.depth ≤ declaration.maxLookAhead :=
  decides_of_decidesAt from'.wellFormed from'.productive from'.acyclic from'.known
    from'.resolved decidesAt

end BuiltFrom

/-! ## What decisions of a grammar tell apart -/

/-- A grammar has a decision wherever the parser has to decide. At the depth of a decision
no two branches share what can be ahead of them behind first copies. They share nothing
at all exactly if what is ahead of a branch behind later copies only is ahead of no other
branch, and so in all productions that stand below no element that needs several
copies. -/
theorem decisions_disjoint (built : build declaration = .ok grammar) :
    let table := Flatten.table declaration.productions
    let root := table.IsRoot grammar.start
    (∀ site : Site, site.In table → ∃ decision, DecidesAt grammar.rules site decision) ∧
    ∀ site decision, DecidesAt grammar.rules site decision →
      1 ≤ decision.depth ∧ decision.depth ≤ declaration.maxLookAhead ∧
      site.DisjointAt table root firstCopy decision.depth ∧
      (site.DisjointAt table root anyCopy decision.depth ↔ ∀ left right, left ≠ right →
        ∀ sequence, site.Language table root anyCopy decision.depth left sequence →
          ¬ site.Language table root firstCopy decision.depth left sequence →
            ¬ site.Language table root anyCopy decision.depth right sequence) ∧
      (¬ table.BelowCount site.owner →
        site.DisjointAt table root anyCopy decision.depth ∧
          site.DisjointAt table root anyCopy declaration.maxLookAhead) := by
  intro table root
  have from' := builtFrom_of_build built
  refine ⟨fun site present => exists_decidesAt from'.resolved present, ?_⟩
  intro site decision decidesAt
  obtain ⟨decides, atMost⟩ := from'.decides decidesAt
  have disjoint : site.DisjointAt table root firstCopy decision.depth :=
    not_shared_iff.mp decides.disjoint
  have free : ¬ table.BelowCount site.owner →
      site.DisjointAt table root anyCopy decision.depth :=
    fun free left right different sequence inLeft inRight =>
      disjoint left right different sequence (inLeft.first free) (inRight.first free)
  refine ⟨decides.positive, atMost, disjoint, ⟨?_, ?_⟩, fun below => ⟨free below, ?_⟩⟩
  · intro apart left right different sequence inLeft _ inRight
    exact apart left right different sequence inLeft inRight
  · intro apart left right different sequence inLeft inRight
    by_cases leftFirst : site.Language table root firstCopy decision.depth left sequence
    · by_cases rightFirst : site.Language table root firstCopy decision.depth right sequence
      · exact disjoint left right different sequence leftFirst rightFirst
      · exact apart right left different.symm sequence inRight rightFirst inLeft
    · exact apart left right different sequence inLeft leftFirst inRight
  · intro left right different sequence inLeft inRight
    exact free below left right different _ (Heads.take atMost inLeft)
      (Heads.take atMost inRight)

/-- `S = "a"{2,3} "b"` -/
def countedTokens : Ebnf.Declaration where
  patterns := [{ id := 0, name := "A", kind := .literal, text := "a" },
    { id := 1, name := "B", kind := .literal, text := "b" }]
  productions := [{ id := 0, name := "S", alternatives :=
    [[.token 0 ⟨2, some 3⟩, .token 1 .once]] }]

theorem countedTokens_disjoint : ∃ grammar, build countedTokens = .ok grammar ∧
    ∀ site decision, DecidesAt grammar.rules site decision →
      site.DisjointAt (Flatten.table countedTokens.productions)
        ((Flatten.table countedTokens.productions).IsRoot grammar.start) firstCopy
        decision.depth := by
  have succeeds : (build countedTokens).toOption.any (fun _ => true) = true := rfl
  obtain ⟨grammar, built, _⟩ := exists_ok_of_any succeeds
  exact ⟨grammar, built, fun site decision decidesAt =>
    ((decisions_disjoint built).2 site decision decidesAt).2.2.1⟩

/-- `S = P{2} "b"` and `P = "a" "b"?`, with one terminal of look-ahead -/
def repeatedOptional : Ebnf.Declaration where
  patterns := [{ id := 0, name := "A", kind := .literal, text := "a" },
    { id := 1, name := "B", kind := .literal, text := "b" }]
  productions := [
    { id := 0, name := "S", alternatives := [[.rule 1 ⟨2, some 2⟩, .token 1 .once]] },
    { id := 1, name := "P", alternatives := [[.token 0 .once, .token 1 .optional]] }]
  maxLookAhead := 1

/-- The place in `P` where it is decided whether to take a `"b"` -/
def optionalSite : Site :=
  .loop 1 [{ symbol := .token 0 }] { symbol := .rule 3, occurs := .optional } []

theorem derives_front :
    (Flatten.table repeatedOptional.productions).Derives (.row [{ symbol := .token 0 }]) [0] :=
  derives_row_once (.token 0) .nothing

theorem derives_optional :
    (Flatten.table repeatedOptional.productions).Derives (.symbol (.rule 3)) [1] := by
  have chosen : [{ symbol := .token 1 }] ∈
      (Flatten.table repeatedOptional.productions).alternatives 3 := by decide
  exact .rule chosen (derives_row_once (.token 1) .nothing)

/-- Behind the second copy of `P` stands a `"b"`. -/
theorem follows_repeatedOptional {root : RuleId → Prop} (isRoot : root 0) :
    (Flatten.table repeatedOptional.productions).Follows root anyCopy 1 [1] := by
  have short : (Flatten.table repeatedOptional.productions).Derives (.symbol (.rule 1)) [0] := by
    have chosen : [{ symbol := .token 0 }, { symbol := .rule 3, occurs := .optional }] ∈
        (Flatten.table repeatedOptional.productions).alternatives 1 := by decide
    exact .rule chosen (derives_row_once (.token 0) (derives_row_skip rfl .nothing))
  have inner : [] ++ { symbol := .rule 1 } :: [] ∈
      (Flatten.table repeatedOptional.productions).alternatives 2 := by decide
  have outer : [] ++ { symbol := .rule 2, occurs := ⟨2, some 2⟩ } :: [{ symbol := .token 1 }] ∈
      (Flatten.table repeatedOptional.productions).alternatives 0 := by decide
  have first : (Flatten.table repeatedOptional.productions).Derives
      (.copies (.rule 2) 1) [0] :=
    derives_one_copy (.rule inner (derives_row_once short .nothing))
  have second : (Occurs.mk 2 (some 2)).Admits (1 + 1 + 0) :=
    ⟨Nat.le_refl 2, by simp⟩
  have once : Occurs.once.Admits (0 + 1 + 0) := ⟨Nat.le_refl 1, by simp [Occurs.once]⟩
  have behindSecond : (Flatten.table repeatedOptional.productions).Follows root anyCopy 2 [1] :=
    .behind outer rfl trivial second .nothing first (.noCopy _)
      (derives_row_once (.token 1) .nothing) (.finish isRoot)
  exact .behind inner rfl trivial once .nothing (.noCopy _) (.noCopy _) .nothing behindSecond

/-- Behind the last copy of `P` stands a `"b"`, which may as well be part of that copy. -/
theorem repeatedOptional_shares : ∃ grammar, build repeatedOptional = .ok grammar ∧
    ∃ site decision, DecidesAt grammar.rules site decision ∧
      ¬ site.DisjointAt (Flatten.table repeatedOptional.productions)
        ((Flatten.table repeatedOptional.productions).IsRoot grammar.start) anyCopy
        decision.depth := by
  have succeeds : (build repeatedOptional).toOption.any (·.start == 0) = true := rfl
  obtain ⟨grammar, built, started⟩ := exists_ok_of_any succeeds
  have start : grammar.start = 0 := beq_iff_eq.mp started
  have from' := builtFrom_of_build built
  obtain ⟨decision, decidesAt⟩ := exists_decidesAt from'.resolved
    (show optionalSite.In _ from ⟨by decide, by decide⟩)
  obtain ⟨decides, atMost⟩ := from'.decides decidesAt
  have depth : decision.depth = 1 := Nat.le_antisymm atMost decides.positive
  refine ⟨grammar, built, optionalSite, decision, decidesAt, ?_⟩
  intro disjoint
  rw [depth] at disjoint
  have isRoot : (Flatten.table repeatedOptional.productions).IsRoot grammar.start 0 :=
    .inl start.symm
  have follows := follows_repeatedOptional isRoot
  have again := derives_one_copy derives_optional
  have once : Occurs.optional.Admits (0 + 1) := ⟨Nat.zero_le _, by simp [Occurs.optional]⟩
  apply disjoint 0 1 (by decide) [.token 1]
  · exact ⟨_, ⟨_, _, .again derives_front (.noCopy _) (Nat.le_refl 0) once again .nothing,
      follows, rfl⟩, rfl⟩
  · exact ⟨_, ⟨_, _, .done derives_front (.noCopy _) (Nat.le_refl 0) rfl .nothing, follows,
      rfl⟩, rfl⟩

end Grammar

end StrongLL
