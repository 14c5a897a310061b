import Mathlib.Logic.Relation
import StrongLL.Automaton.Basic

/-!
# Paths through automata

A path follows moves of a graph and spells the characters that it reads on the way; silent
moves spell nothing. An automaton accepts a text for a pattern if a path that spells it
leads from the start to a state that accepts the pattern.
-/

namespace StrongLL

namespace Graph

theorem state_of_size_le {graph : Graph} {id : Nat} (outside : graph.size ≤ id) :
    graph.state id = {} := by
  simp [state, Array.getD_eq_getD_getElem?, Array.getElem?_eq_none outside]

/-- Silent moves lead from one state to another. -/
abbrev Silently (graph : Graph) : (source last : Nat) → Prop :=
  Relation.ReflTransGen fun source next => next ∈ (graph.state source).epsilons

/-- A path spells a text. -/
inductive Path (graph : Graph) : (source : Nat) → List Char → (last : Nat) → Prop where
  | here (id : Nat) : Path graph id [] id
  | silent {source next last : Nat} {text : List Char}
      (move : next ∈ (graph.state source).epsilons) (rest : Path graph next text last) :
      Path graph source text last
  | read {source last : Nat} {char : Char} {text : List Char} {transition : Transition}
      (move : transition ∈ (graph.state source).transitions)
      (inClass : transition.charClass.contains char = true)
      (rest : Path graph transition.target text last) : Path graph source (char :: text) last

variable {graph : Graph} {source middle last : Nat} {text others : List Char} {char : Char}

theorem Path.behind (path : graph.Path middle text last) (silent : graph.Silently source middle) :
    graph.Path source text last := by
  induction silent using Relation.ReflTransGen.head_induction_on with
  | refl => exact path
  | head move _ ih => exact .silent move ih

theorem Path.append (path : graph.Path source text middle) (more : graph.Path middle others last) :
    graph.Path source (text ++ others) last := by
  induction path with
  | here => exact more
  | silent move _ ih => exact .silent move (ih more)
  | read move inClass _ ih => exact .read move inClass (ih more)

/-- Paths that spell nothing are those of silent moves. -/
theorem path_nil_iff : graph.Path source [] last ↔ graph.Silently source last := by
  refine ⟨fun path => ?_, fun silent => (Path.here last).behind silent⟩
  generalize nothing : ([] : List Char) = spelled at path
  induction path with
  | here => exact .refl
  | silent move _ ih => exact .head move (ih nothing)
  | read => cases nothing

/-- Behind silent moves the first character is read. -/
theorem path_cons_iff : graph.Path source (char :: text) last ↔
    ∃ middle, graph.Silently source middle ∧ ∃ transition ∈ (graph.state middle).transitions,
      transition.charClass.contains char = true ∧ graph.Path transition.target text last := by
  constructor
  · intro path
    generalize whole : char :: text = spelled at path
    induction path with
    | here => cases whole
    | silent move _ ih =>
        obtain ⟨middle, silent, found⟩ := ih whole
        exact ⟨middle, .head move silent, found⟩
    | read move inClass rest =>
        obtain ⟨rfl, rfl⟩ := List.cons.inj whole
        exact ⟨_, .refl, _, move, inClass, rest⟩
  · rintro ⟨middle, silent, transition, move, inClass, rest⟩
    exact (Path.read move inClass rest).behind silent

/-- A path through a text goes through each of its beginnings. -/
theorem path_append_iff : graph.Path source (text ++ others) last ↔
    ∃ middle, graph.Path source text middle ∧ graph.Path middle others last := by
  refine ⟨fun path => ?_, fun ⟨_, path, more⟩ => path.append more⟩
  induction text generalizing source with
  | nil => exact ⟨source, .here source, path⟩
  | cons char text ih =>
      obtain ⟨before, silent, transition, move, inClass, rest⟩ := path_cons_iff.mp path
      obtain ⟨middle, first, more⟩ := ih rest
      exact ⟨middle, (Path.read move inClass first).behind silent, more⟩

/-- The last character is read in some state that the characters before it lead to. -/
theorem path_snoc_iff : graph.Path source (text ++ [char]) last ↔
    ∃ middle, graph.Path source text middle ∧ ∃ transition ∈ (graph.state middle).transitions,
      transition.charClass.contains char = true ∧ graph.Silently transition.target last := by
  simp only [path_append_iff, path_cons_iff, path_nil_iff]
  constructor
  · rintro ⟨before, path, middle, silent, found⟩
    exact ⟨middle, by simpa using path.append (path_nil_iff.mpr silent), found⟩
  · rintro ⟨middle, path, found⟩
    exact ⟨middle, path, middle, .refl, found⟩

/-! ## Counting moves -/

/-- A path of a number of moves spells a text. -/
inductive Walk (graph : Graph) :
    (moves : Nat) → (source : Nat) → List Char → (last : Nat) → Prop where
  | here (id : Nat) : Walk graph 0 id [] id
  | silent {moves source next last : Nat} {text : List Char}
      (move : next ∈ (graph.state source).epsilons) (rest : Walk graph moves next text last) :
      Walk graph (moves + 1) source text last
  | read {moves source last : Nat} {char : Char} {text : List Char} {transition : Transition}
      (move : transition ∈ (graph.state source).transitions)
      (inClass : transition.charClass.contains char = true)
      (rest : Walk graph moves transition.target text last) :
      Walk graph (moves + 1) source (char :: text) last

theorem path_iff_walk : graph.Path source text last ↔ ∃ moves, graph.Walk moves source text last := by
  constructor
  · intro path
    induction path with
    | here id => exact ⟨0, .here id⟩
    | silent move _ ih => exact ih.imp' (· + 1) fun _ walk => .silent move walk
    | read move inClass _ ih => exact ih.imp' (· + 1) fun _ walk => .read move inClass walk
  · rintro ⟨moves, walk⟩
    induction walk with
    | here id => exact .here id
    | silent move _ ih => exact .silent move ih
    | read move inClass _ ih => exact .read move inClass ih

/-- A state without characters to read is left silently. -/
theorem Walk.of_silent {moves : Nat} {targets : List Nat} (walk : graph.Walk moves source text last)
    (moved : source ≠ last) (shape : graph.state source = { epsilons := targets }) :
    ∃ next ∈ targets, ∃ fewer, fewer < moves ∧ graph.Walk fewer next text last := by
  cases walk with
  | here => exact (moved rfl).elim
  | silent move rest =>
      rw [shape] at move
      exact ⟨_, move, _, Nat.lt_succ_self _, rest⟩
  | read move =>
      rw [shape] at move
      cases move

end Graph

namespace Automaton

variable {automaton : Automaton} {text : List Char}

/-- The automaton accepts a text for a pattern. -/
def Accepts (automaton : Automaton) (text : List Char) (pattern : Nat) : Prop :=
  ∃ last, automaton.Path automaton.start text last ∧ (automaton.state last).accept = some pattern

/-- No path goes beyond a place behind which no state reads a character. -/
theorem not_path_beyond
    (dead : ∀ id, automaton.Path automaton.start text id → (automaton.state id).transitions = [])
    (char : Char) (others : List Char) (last : Nat) :
    ¬ automaton.Path automaton.start (text ++ char :: others) last := by
  intro path
  obtain ⟨before, first, more⟩ := Graph.path_append_iff.mp path
  obtain ⟨middle, silent, transition, move, _, _⟩ := Graph.path_cons_iff.mp more
  have reached : automaton.Path automaton.start text middle := by
    simpa using first.append (Graph.path_nil_iff.mpr silent)
  simp [dead middle reached] at move

/-- No text is accepted beyond a place behind which no state reads a character. -/
theorem not_accepts_beyond
    (dead : ∀ id, automaton.Path automaton.start text id → (automaton.state id).transitions = [])
    (char : Char) (others : List Char) (pattern : Nat) :
    ¬ automaton.Accepts (text ++ char :: others) pattern :=
  fun ⟨last, path, _⟩ => not_path_beyond dead char others last path

end Automaton

end StrongLL
